import ClusterRegistry.Lib.Table

/-!
# Level-triggered controllers

A controller sees a store through a cache that follows it with a delay. Each
change of the cache is a notice; a notice that the controller's predicate admits
puts its key on the work queue, and serving a key looks at what the cache has for
it then, not at the notices that led there.

`Due` says that a key is on its way: queued, or with an admitted notice ahead.
The lemmas say what each operation makes of it. At rest nothing is due and the
cache has caught up, so that what holds of all keys that are not due holds of the
store.
-/

namespace Lib

variable {κ ν : Type}

/-- A change of the cache, as the event handlers are told. -/
structure Notice (κ ν : Type) where
  key : κ
  old : Option ν
  new : Option ν

structure Watched (κ ν : Type) where
  store : Map κ ν
  cache : Map κ ν := ∅
  /-- The notices not handled yet, the first one first. -/
  notices : List (Notice κ ν) := []
  queue : Finset κ := ∅

namespace Watched

/-- The controller is set up anew: a new cache and a new queue, filled by a list call. -/
def relist (w : Watched κ ν) : Watched κ ν :=
  { w with cache := w.store, notices := [], queue := w.store.keys }

structure AtRest (w : Watched κ ν) : Prop where
  queue : w.queue = ∅
  notices : w.notices = []
  cache : w.cache = w.store

/-- The key is queued, or a notice that is still ahead will queue it. -/
def Due (passes : Notice κ ν → Bool) (w : Watched κ ν) (k : κ) : Prop :=
  k ∈ w.queue ∨ ∃ n ∈ w.notices, n.key = k ∧ passes n = true

variable {passes : Notice κ ν → Bool} {w : Watched κ ν} {k k' : κ} {v : Option ν}

theorem AtRest.not_due (h : w.AtRest) (k : κ) : ¬w.Due passes k := by
  rintro (hk | ⟨n, hn, -⟩)
  · rw [h.queue] at hk
    exact Finset.notMem_empty k hk
  · rw [h.notices] at hn
    cases hn

theorem due_relist : w.relist.Due passes k ↔ k ∈ w.store := by
  unfold Due relist
  rw [Finmap.mem_keys]
  exact or_iff_left fun ⟨_, hn, _⟩ => nomatch hn

@[simp] theorem cache_relist : w.relist.cache = w.store := rfl

end Watched

variable [DecidableEq κ]

namespace Map

/-- The key with this value, or without one. -/
def set (m : Map κ ν) (k : κ) : Option ν → Map κ ν
  | some v => m.insert k v
  | none => m.erase k

theorem lookup_set (m : Map κ ν) (k : κ) (v : Option ν) (k' : κ) :
    (set m k v).lookup k' = if k' = k then v else m.lookup k' := by
  cases v with
  | some v => exact lookup_insert_if m k k' v
  | none => exact lookup_erase_if m k k'

end Map

namespace Table

variable {key : ν → κ}

/-- The table as it is once the key has this value, or none. -/
def set (t : Table key) (k : κ) : Option ν → Table key
  | some v => t.put v
  | none => t.erase k

theorem get_set (t : Table key) {k : κ} {v : Option ν} (hv : ∀ a, v = some a → key a = k)
    (k' : κ) : (t.set k v).get k' = if k' = k then v else t.get k' := by
  cases v with
  | some a => exact hv a rfl ▸ get_put t a k'
  | none => exact get_erase t k k'

end Table

namespace Watched

/-- Others write to the store. -/
def edit (w : Watched κ ν) (k : κ) (v : Option ν) : Watched κ ν :=
  { w with store := w.store.set k v }

/-- The cache learns of a version of the key. -/
def refresh (w : Watched κ ν) (k : κ) (v : Option ν) : Watched κ ν :=
  { w with
    cache := w.cache.set k v
    notices := w.notices ++ [⟨k, w.cache.lookup k, v⟩] }

/-- The next notice is handled. -/
def handle (passes : Notice κ ν → Bool) (w : Watched κ ν) : Watched κ ν :=
  match w.notices with
  | [] => w
  | n :: rest =>
    { w with notices := rest, queue := if passes n then insert n.key w.queue else w.queue }

/-- Keys are queued that no notice has asked for. -/
def enqueue (w : Watched κ ν) (ks : Finset κ) : Watched κ ν := { w with queue := w.queue ∪ ks }

def enqueueAll (w : Watched κ ν) : Watched κ ν := w.enqueue w.cache.keys

def serve (w : Watched κ ν) (k : κ) : Watched κ ν := { w with queue := w.queue.erase k }

variable {passes : Notice κ ν → Bool} {w : Watched κ ν} {k k' : κ} {v : Option ν}

theorem due_edit : (w.edit k v).Due passes k' ↔ w.Due passes k' := Iff.rfl

theorem due_refresh : (w.refresh k v).Due passes k' ↔
    w.Due passes k' ∨ k' = k ∧ passes ⟨k, w.cache.lookup k, v⟩ = true := by
  unfold Due refresh
  rw [or_assoc]
  refine or_congr_right ?_
  simp only [List.mem_append, List.mem_singleton, or_and_right, exists_or, exists_eq_left]
  exact or_congr_right (and_congr_left' eq_comm)

theorem due_handle : (w.handle passes).Due passes k ↔ w.Due passes k := by
  unfold handle
  cases hw : w.notices with
  | nil => simp only
  | cons n rest =>
    unfold Due
    simp only [hw, List.exists_mem_cons_iff]
    cases hn : passes n with
    | true =>
      simp only [if_true, Finset.mem_insert, and_true, eq_comm (a := k), or_assoc]
      exact or_left_comm
    | false => simp

theorem due_enqueue {ks : Finset κ} : (w.enqueue ks).Due passes k ↔ w.Due passes k ∨ k ∈ ks := by
  unfold Due enqueue
  rw [Finset.mem_union]
  exact or_right_comm

theorem due_serve_ne (h : k' ≠ k) : (w.serve k).Due passes k' ↔ w.Due passes k' := by
  unfold Due serve
  rw [Finset.mem_erase, and_iff_right h]

@[simp] theorem lookup_cache_refresh :
    (w.refresh k v).cache.lookup k' = if k' = k then v else w.cache.lookup k' :=
  Map.lookup_set w.cache k v k'

@[simp] theorem cache_handle : (w.handle passes).cache = w.cache := by
  unfold handle
  split <;> rfl

@[simp] theorem cache_serve : (w.serve k).cache = w.cache := rfl

end Watched

end Lib
