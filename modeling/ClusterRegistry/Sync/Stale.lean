import ClusterRegistry.Sync.Fleet

/-!
# Deletions from a lagging cache

`deleteResource` inspects an object that it reads from a cache, and deletes
it by name, without a precondition. Between the two, users change the API
server. The model keeps the object inspected in the state, so that the read
and the `Delete` call are two steps; `deleting_undisturbed` says that together
they are `deleteResource`.
-/

namespace ClusterRegistry.Sync

open Lib Lib.Eff

/-- The local API server, and the object that a deletion under way has settled on. -/
structure Deleting where
  server : ApiServer
  target : Option Obj := none

inductive DelAct where
  | userCreate (k : Key) (o : Obj)
  | userUpdate (k : Key) (o : Obj)
  | userDelete (k : Key)
  /-- `deleteResource` for a source object reads from a cache. -/
  | inspect (obj : Obj) (cache : ApiServer)
  /-- Its `Delete` call. -/
  | delete

section

variable (env : Env) (r : SyncReconciler)

def Deleting.step (s : Deleting) : DelAct → Deleting
  | .userCreate k o => { s with server := attempted s.server (s.server.create k o) }
  | .userUpdate k o => { s with server := attempted s.server (s.server.update k o) }
  | .userDelete k => { s with server := attempted s.server (s.server.delete k) }
  | .inspect obj cache =>
    match (deleteTarget env obj ⟨r, cache, [], []⟩).1 with
    | .ok target => { s with target := target }
    | .error _ => s
  | .delete =>
    match s.target with
    | none => s
    | some current => ⟨(deleteObject env current ⟨r, s.server, [], []⟩).2.server, none⟩

/-- One deletion at a time; a cache shows the server as it is or was. -/
def deleting : System Deleting DelAct where
  init s := s.target = none
  ok tr s a :=
    match a with
    | .inspect _ cache => s.target = none ∧ ∃ t ∈ states tr s, t.server = cache
    | .delete => s.target.isSome
    | _ => True
  step := Deleting.step env r

variable {env r}

/-- The two steps together, undisturbed and with a fresh cache, are `deleteResource`. -/
theorem deleting_undisturbed (s : ApiServer) (obj : Obj) :
    (((⟨s, none⟩ : Deleting).step env r (.inspect obj s)).step env r .delete).server =
      (deleteResource env obj ⟨r, s, [], []⟩).2.server := by
  have hst := (deleteTarget_ends env ⟨r, s, [], []⟩ obj).1
  unfold deleteResource
  rcases h : deleteTarget env obj ⟨r, s, [], []⟩ with ⟨e | _ | o, st'⟩ <;> rw [h] at hst <;>
    subst hst
  · rw [bind_of_error h]; simp only [Deleting.step, h]
  · rw [bind_of_ok h]; simp only [Deleting.step, h]; rfl
  · rw [bind_of_ok h]; simp only [Deleting.step, h]

theorem ReadAt.key_eq {s : ApiServer} {k : Key} {o : Obj} (h : ReadAt s k o) : o.key = k := by
  obtain ⟨stored, hs, ho⟩ := h.stored
  have hk : stored.key = k := ApiServer.key_of_get hs
  rw [ho]
  exact hk

variable (env r) in
/-- What an inspection makes sure of, for the version it saw. -/
structure Inspected (o : Obj) : Prop where
  owned : o.owner ≠ ""
  free : isOwnedByAnotherAliveCluster env r o.owner = false
  addr : ∀ gvk, gvkForObject o = .ok gvk → (⟨gvk, o.namespace, o.name⟩ : Key) = o.key

theorem inspected_of_run {tr : List (Deleting × DelAct)} {s : Deleting}
    (h : Run (deleting env r) tr s) : ∀ o, s.target = some o → Inspected env r o := by
  refine h.invariant (P := fun s => ∀ o, s.target = some o → Inspected env r o) ?_ ?_
  · intro s hs o ho
    rw [show s.target = none from hs] at ho; cases ho
  · intro tr s a _ ih hok o ho
    cases a with
    | inspect obj cache =>
      have ht := (deleteTarget_ends env ⟨r, cache, [], []⟩ obj).2
      simp only [deleting, Deleting.step] at ho
      split at ho
      · next target hres =>
        subst ho
        obtain ⟨hne, hal, k, hk⟩ := ht o hres
        exact ⟨hne, hal, fun gvk hg => (hk.addr gvk hg).trans hk.key_eq.symm⟩
      · exact ih o ho
    | delete =>
      simp only [deleting, Deleting.step] at ho
      split at ho
      · exact ih o ho
      · cases ho
    | userCreate k o' => exact ih o ho
    | userUpdate k o' => exact ih o ho
    | userDelete k => exact ih o ho

/-- A `Delete` call leaves the objects under all other keys alone. -/
theorem deleteObject_get {o : Obj} {s : ApiServer} (ho : Inspected env r o) {k : Key}
    (hk : k ≠ o.key) : (deleteObject env o ⟨r, s, [], []⟩).2.server.get k = s.get k := by
  have hw : Writes (fun _ call => call = .delete o.key) (deleteObject env o) ⟨r, s, [], []⟩ :=
    deleteObject_writes ho.addr rfl
  obtain ⟨cs, -, hi⟩ := hw
  refine hi.keeps (P := fun t => t.get k = s.get k) (fun t call t' ht hc ha => ?_) rfl
  subst hc
  obtain ⟨cur, -, ⟨-, rfl⟩ | rfl⟩ := ApiServer.delete_eq_ok ha
  · rw [ApiServer.get_erase, if_neg hk, ht]
  · rw [ApiServer.get_put, if_neg hk, ht]

variable (env r) in
/-- Every object that the `Delete` call removes or marks is, at that moment, a
copy that no other live cluster owns. -/
def Rightful (s : Deleting) : Prop :=
  ∀ k o, s.server.get k = some o → (s.step env r .delete).server.get k ≠ some o →
    o.owner ≠ "" ∧ isOwnedByAnotherAliveCluster env r o.owner = false

/-- The object in the place of the one inspected has the owner seen there. -/
def SameOwner (s : Deleting) : Prop :=
  ∀ current o, s.target = some current → s.server.get current.key = some o →
    o.owner = current.owner

end

/-- **Delete and the instance inspected.** In any interleaving with user steps
and with any lag of the cache, a `Delete` call that meets the owner the
inspection saw removes a copy that no other live cluster owns. -/
theorem delete_rightful (env : Env) (r : SyncReconciler) (tr : List (Deleting × DelAct))
    (s : Deleting) (h : Run (deleting env r) tr s) (t : Deleting) (ht : (t, .delete) ∈ tr)
    (hsame : SameOwner t) : Rightful env r t := by
  obtain ⟨tr', hrun, -⟩ := h.of_mem ht
  intro k o ho hgone
  unfold Deleting.step at hgone
  cases hc : t.target with
  | none =>
    rw [hc] at hgone
    exact absurd ho hgone
  | some current =>
    rw [hc] at hgone
    have hins := inspected_of_run hrun current hc
    by_cases hk : k = current.key
    · subst hk
      rw [hsame current o hc ho]
      exact ⟨hins.owned, hins.free⟩
    · rw [show (Deleting.mk _ _).server = _ from rfl, deleteObject_get hins hk] at hgone
      exact absurd ho hgone

section

open Sample

/-- A server with a copy of an object of `R`. -/
def copyHeld : ApiServer := ApiServer.empty.put key (copyOf "R")

/-- The copy is inspected. -/
def seen : List (Deleting × DelAct) × Deleting :=
  played (deleting gone (syncing "L" "R")) [] ⟨copyHeld, none⟩
    [.inspect (requestObj .bare gvk req) copyHeld]

/-- A user removes the annotation before the `Delete` call. -/
def adopted : List (Deleting × DelAct) × Deleting :=
  played (deleting gone (syncing "L" "R")) seen.1 seen.2 [.userUpdate key obj]

theorem run_seen : Run (deleting gone (syncing "L" "R")) seen.1 seen.2 :=
  .plays (.init rfl) ⟨⟨rfl, _, List.mem_cons_self, rfl⟩, trivial⟩

theorem delete_rightful_seen : Rightful gone (syncing "L" "R") seen.2 := by
  have htarget : seen.2.target = some (copyOf "R") := by decide +kernel
  have hget : seen.2.server.get (copyOf "R").key = some (copyOf "R") := by decide +kernel
  refine delete_rightful gone (syncing "L" "R") _ _ (run_seen.step .delete ?_) seen.2
    List.mem_cons_self fun current o hc ho => ?_
  · rfl
  · cases htarget.symm.trans hc
    cases hget.symm.trans ho
    rfl

/-- The `Delete` call removes an object without an owner. -/
theorem not_rightful_adopted :
    Run (deleting gone (syncing "L" "R")) ((adopted.2, .delete) :: adopted.1)
        (adopted.2.step gone (syncing "L" "R") .delete) ∧
      ¬Rightful gone (syncing "L" "R") adopted.2 := by
  have hrun : Run (deleting gone (syncing "L" "R")) adopted.1 adopted.2 :=
    run_seen.plays ⟨trivial, trivial⟩
  have hget : (adopted.2.server.get key).map Obj.owner = some "" := by decide +kernel
  have hdel : (adopted.2.step gone (syncing "L" "R") .delete).server.get key = none := by
    decide +kernel
  have hok : adopted.2.target.isSome = true := rfl
  refine ⟨hrun.step DelAct.delete hok, fun h => ?_⟩
  obtain ⟨o, ho, hown⟩ := Option.map_eq_some_iff.mp hget
  exact (h key o ho (by rw [hdel]; exact nofun)).1 hown

end

end ClusterRegistry.Sync
