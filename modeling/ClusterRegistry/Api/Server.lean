import ClusterRegistry.Api.Types

/-!
# The API server of one cluster

Objects under their keys and a revision counter that stamps every write. A
`create` fails on an existing object and an `update` on a stale resource
version; an object with finalizers is only marked by `delete` and goes away
with the update that clears them. The status is a subresource: `create` and
`update` leave it alone and `updateStatus` changes nothing else.
-/

namespace ClusterRegistry

open Lib

structure ApiServer where
  objs : Table Obj.key
  rev : Nat
  /-- Stored objects are no Go structs. -/
  plain : ∀ k o, objs.get k = some o → o.goType = none

namespace ApiServer

def empty : ApiServer := ⟨Table.empty, 0, fun k o h => by rw [Table.get_empty] at h; cases h⟩

def get (s : ApiServer) (k : Key) : Option Obj := s.objs.get k

def list (s : ApiServer) (p : Obj → Bool) : List Obj := s.objs.toList.filter p

/-- The object as stored under `k`, at the next revision. -/
def stamp (s : ApiServer) (k : Key) (o : Obj) : Obj :=
  { o with
    gvk := k.gvk, «namespace» := k.namespace, name := k.name, goType := none,
    resourceVersion := toString (s.rev + 1) }

def put (s : ApiServer) (k : Key) (o : Obj) : ApiServer where
  objs := s.objs.put (s.stamp k o)
  rev := s.rev + 1
  plain k' o' h := by
    rw [Table.get_put] at h
    split at h
    · cases h; rfl
    · exact s.plain k' o' h

def erase (s : ApiServer) (k : Key) : ApiServer where
  objs := s.objs.erase k
  rev := s.rev + 1
  plain k' o' h := by
    rw [Table.get_erase] at h
    split at h
    · cases h
    · exact s.plain k' o' h

/-- What `create` makes of a new object. -/
def created (s : ApiServer) (o : Obj) : Obj :=
  { o with
    uid := toString (s.rev + 1), creationTimestamp := toString (s.rev + 1), generation := 1,
    deletionTimestamp := none, status := "" }

def create (s : ApiServer) (k : Key) (o : Obj) : Except Err ApiServer :=
  match s.get k with
  | some _ => .error ⟨.alreadyExists, "already exists"⟩
  | none => .ok (s.put k (s.created o))

/-- What `update` makes of the object it replaces. -/
def updated (cur o : Obj) : Obj :=
  { o with
    uid := cur.uid, creationTimestamp := cur.creationTimestamp,
    deletionTimestamp := cur.deletionTimestamp, status := cur.status,
    generation := if o.payload = cur.payload then cur.generation else cur.generation + 1 }

def update (s : ApiServer) (k : Key) (o : Obj) : Except Err ApiServer :=
  match s.get k with
  | none => .error ⟨.notFound, "not found"⟩
  | some cur =>
    if o.resourceVersion ≠ "" ∧ o.resourceVersion ≠ cur.resourceVersion then
      .error ⟨.conflict, "the object has been modified"⟩
    else if cur.deletionTimestamp.isSome ∧ o.finalizers = [] then .ok (s.erase k)
    else .ok (s.put k (updated cur o))

def updateStatus (s : ApiServer) (k : Key) (o : Obj) : Except Err ApiServer :=
  match s.get k with
  | none => .error ⟨.notFound, "not found"⟩
  | some cur =>
    if o.resourceVersion ≠ "" ∧ o.resourceVersion ≠ cur.resourceVersion then
      .error ⟨.conflict, "the object has been modified"⟩
    else .ok (s.put k { cur with status := o.status })

def delete (s : ApiServer) (k : Key) : Except Err ApiServer :=
  match s.get k with
  | none => .error ⟨.notFound, "not found"⟩
  | some cur =>
    if cur.finalizers = [] then .ok (s.erase k)
    else .ok (s.put k { cur with deletionTimestamp := some (toString (s.rev + 1)) })

/-! ## What a write changes -/

@[simp] theorem get_put (s : ApiServer) (k : Key) (o : Obj) (k' : Key) :
    (s.put k o).get k' = if k' = k then some (s.stamp k o) else s.get k' :=
  Table.get_put s.objs (s.stamp k o) k'

@[simp] theorem get_erase (s : ApiServer) (k k' : Key) :
    (s.erase k).get k' = if k' = k then none else s.get k' :=
  Table.get_erase s.objs k k'

@[simp] theorem get_empty (k : Key) : empty.get k = none := Table.get_empty k

theorem key_of_get {s : ApiServer} {k : Key} {o : Obj} (h : s.get k = some o) : o.key = k :=
  Table.key_of_get h

/-- A list call returns just the stored object `c` when the selector holds of
it and of no other stored object. -/
theorem list_eq_singleton {s : ApiServer} {p : Obj → Bool} {c : Obj} (hc : s.get c.key = some c) :
    s.list p = [c] ↔ ∀ k o, s.get k = some o → (p o = true ↔ o = c) := by
  unfold list
  rw [filter_eq_singleton s.objs.nodup_toList]
  constructor
  · rintro ⟨-, hpc, huniq⟩ k o ho
    have hmem : o ∈ s.objs.toList := Table.mem_toList.mpr ((key_of_get ho).symm ▸ ho)
    exact ⟨huniq o hmem, fun e => e ▸ hpc⟩
  · intro h
    exact ⟨Table.mem_toList.mpr hc, (h c.key c hc).mpr rfl,
      fun o ho hp => (h o.key o (Table.mem_toList.mp ho)).mp hp⟩

/-- Stamping a stored object changes its resource version only. -/
theorem stamp_stored {s : ApiServer} {k : Key} {o cur : Obj} (h : s.get k = some cur)
    (hm : o.key = cur.key) (ht : o.goType = cur.goType) :
    s.stamp k o = { o with resourceVersion := toString (s.rev + 1) } := by
  have hk := hm.trans (key_of_get h)
  have hp : o.goType = none := ht.trans (s.plain k cur h)
  obtain ⟨⟨⟩⟩ := o
  cases hk
  cases hp
  rfl

theorem create_eq_ok {s s' : ApiServer} {k : Key} {o : Obj} (h : s.create k o = .ok s') :
    s.get k = none ∧ s' = s.put k (s.created o) := by
  unfold create at h
  split at h
  · cases h
  · next hn => cases h; exact ⟨hn, rfl⟩

/-- An update replaces the object, or removes one that only waited for its
finalizers. -/
theorem update_eq_ok {s s' : ApiServer} {k : Key} {o : Obj} (h : s.update k o = .ok s') :
    ∃ cur, s.get k = some cur ∧ (s' = s.erase k ∨ s' = s.put k (updated cur o)) := by
  unfold update at h
  split at h
  · cases h
  · next cur hc =>
    refine ⟨cur, hc, ?_⟩
    split at h
    · cases h
    · split at h
      · cases h; exact .inl rfl
      · cases h; exact .inr rfl

theorem updateStatus_eq_ok {s s' : ApiServer} {k : Key} {o : Obj}
    (h : s.updateStatus k o = .ok s') :
    ∃ cur, s.get k = some cur ∧ s' = s.put k { cur with status := o.status } := by
  unfold updateStatus at h
  split at h
  · cases h
  · next cur hc =>
    split at h
    · cases h
    · cases h; exact ⟨cur, hc, rfl⟩

theorem delete_eq_ok {s s' : ApiServer} {k : Key} (h : s.delete k = .ok s') :
    ∃ cur, s.get k = some cur ∧
      ((cur.finalizers = [] ∧ s' = s.erase k) ∨
        s' = s.put k { cur with deletionTimestamp := some (toString (s.rev + 1)) }) := by
  unfold delete at h
  split at h
  · cases h
  · next cur hc =>
    refine ⟨cur, hc, ?_⟩
    split at h
    · next hf => cases h; exact .inl ⟨hf, rfl⟩
    · cases h; exact .inr rfl

end ApiServer

end ClusterRegistry
