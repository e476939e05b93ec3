import ClusterRegistry.Sync.Convergence

/-!
# Copies and restarts of their controller

The controller of a rule is stopped when the remote cluster dies or loses a
feature, and the same reconciler is set up again later with a new controller: a
new queue, and new caches that report everything there is. `Start` then attaches
the local informer, but only if the kind is not in `localInformers` yet, and
nothing ever takes it out of there. So the local informer feeds the first
controller that gets this far, and no later one.

`restarted_copy_wrong_iff` is `copy_wrong_iff` with restarts: a controller without
the informer does not see what happens to the copies, and one that is set up
knows nothing of the objects that were deleted before.
-/

namespace ClusterRegistry.Sync

open Lib

structure Restarting where
  sync : Syncing
  /-- The kind is in `localInformers`. -/
  informers : Bool := false
  /-- The local informer feeds the controller that is there now. -/
  attached : Bool := false
  running : Bool := false

namespace Restarting

inductive Act where
  | act (a : Syncing.Act)
  /-- The controller is stopped and the next one is set up. -/
  | setup
  /-- `Start`; whether the informer can be had. -/
  | start (ok : Bool)

variable (x : External) (decode : String → String → Option String) (r : SyncReconciler)
  (s : Restarting)

def step : Act → Restarting
  | .act a => { s with sync := s.sync.step x r a }
  | .setup =>
    { s with
      sync := { s.sync with remote := { store := s.sync.remote.store }, seen := ∅ }
      attached := false
      running := false }
  | .start ok =>
    if s.informers then { s with running := true }
    else if ok then { s with informers := true, attached := true, running := true }
    else s

/-- Only a running controller is told of changes and makes calls. -/
def Allowed : Act → Prop
  | .act a => s.sync.Allowed x decode r a ∧
    match a with
    | .refresh _ _ | .handle | .serve _ _ => s.running = true
    | .observe _ _ => s.running = true ∧ s.attached = true
    | _ => True
  | .setup => True
  | .start _ => s.running = false

end Restarting

/-- A new reconciler, and nothing has been seen yet. -/
def restarts (x : External) (decode : String → String → Option String) (r : SyncReconciler) :
    System Restarting Restarting.Act where
  init s := (convergence x decode r).init s.sync ∧ s.informers = false ∧ s.attached = false ∧
    s.running = false
  ok _ s a := s.Allowed x decode r a
  step s a := s.step x r a

namespace Restarting

/-- The local informer is attached. -/
def Attaches (s : Restarting) : Act → Prop
  | .start ok => s.informers = false ∧ ok = true
  | _ => False

section

variable (x : External) (decode : String → String → Option String) (r : SyncReconciler)
  (q : NamespacedName)

/-- The copy does not fit, no call is on its way, and the informer has nothing to tell. -/
def Wrong (s : Restarting) : Prop :=
  ¬s.sync.Due x r q ∧ (s.attached = true → s.sync.Seen r q) ∧ ¬s.sync.Right x decode r q

/-- What breaks a copy if nobody sees what happens to it. -/
def BreaksUnseen (s : Syncing) : Syncing.Act → Prop
  | .refresh q' version => q' = q ∧ ¬s.Due x r q ∧
      Syncing.passes x r ⟨q, s.remote.cache.lookup q, version⟩ = false ∧
      ¬Settled x decode r (gates s.alive) version (s.server.get (mirrorKey r q))
  | .others server => ¬s.Due x r q ∧ ¬Settled x decode r (gates s.alive)
      (s.remote.cache.lookup q) (server.get (mirrorKey r q))
  | .liveness alive => ¬s.Due x r q ∧ ¬Settled x decode r (gates alive)
      (s.remote.cache.lookup q) (s.server.get (mirrorKey r q))
  | .serve q' env => q' = q ∧ ¬s.Ahead x r q ∧
      Syncing.done (reconcileRequest x env q ⟨r, s.server, [], []⟩).1 = true ∧
      Away ((reconciled x r s.server env q).server.get (mirrorKey r q)) ∧
      ¬(s.step x r (.serve q env)).Right x decode r q
  | _ => False

/-- The copy does not fit after the step, and nothing will come of it. A controller that
is set up takes a source that it has not been told of for a deleted one. -/
def Breaks (s : Restarting) : Act → Prop
  | .act a =>
    if s.attached then s.sync.Breaks x decode r q a else BreaksUnseen x decode r q s.sync a
  | .setup => ¬Cleared r (gates s.sync.alive) (s.sync.server.get (mirrorKey r q))
  | .start ok => s.Attaches (.start ok) ∧ s.sync.Wrong x decode r q

def Looks (s : Restarting) : Act → Prop
  | .act a => s.sync.Looks x q a
  | .setup => True
  | .start ok => s.Attaches (.start ok)

end

variable {x : External} {decode : String → String → Option String} {r : SyncReconciler}
  {q : NamespacedName} {s : Restarting}

/-- What does not fit without an informer. -/
def Unseen (x : External) (decode : String → String → Option String) (r : SyncReconciler)
    (q : NamespacedName) (s : Syncing) : Prop := ¬s.Due x r q ∧ ¬s.Right x decode r q

theorem wrong_attached (h : s.attached = true) :
    s.Wrong x decode r q ↔ s.sync.Wrong x decode r q := by
  unfold Wrong Syncing.Wrong
  rw [forall_prop_of_true h]

theorem wrong_detached (h : s.attached = false) :
    s.Wrong x decode r q ↔ Unseen x decode r q s.sync := by
  unfold Wrong Unseen
  rw [forall_prop_of_false (by simp [h]), true_and]

theorem unseen_step (hr : Plain r) (hkind : Kinded r) {s : Syncing} (a : Syncing.Act)
    (hok : s.Allowed x decode r a) (ha : ∀ q' version, a ≠ .observe q' version) :
    Unseen x decode r q (s.step x r a) ↔
      BreaksUnseen x decode r q s a ∨ ¬s.Looks x q a ∧ Unseen x decode r q s := by
  cases a with
  | observe q' version => exact absurd rfl (ha q' version)
  | source q' version =>
    simp only [BreaksUnseen, Syncing.Looks, not_false_eq_true, true_and, false_or]
    exact Iff.rfl
  | handle =>
    unfold Unseen
    rw [Syncing.due_handle, Syncing.right_handle]
    simp only [BreaksUnseen, Syncing.Looks, not_false_eq_true, true_and, false_or]
  | others server | liveness alive =>
    simp only [BreaksUnseen, Syncing.Looks, not_true_eq_false, false_and, or_false]
    exact Iff.rfl
  | refresh q' version =>
    unfold Unseen
    rw [Syncing.due_refresh, Syncing.right_refresh]
    by_cases hq : q = q'
    · subst hq
      simp only [BreaksUnseen, Syncing.Looks, true_and, not_true_eq_false, false_and, or_false,
        if_true, not_or, Bool.not_eq_true, and_assoc]
    · simp only [BreaksUnseen, Syncing.Looks, hq, Ne.symm hq, false_and, or_false, if_false,
        not_false_eq_true, true_and, false_or]
      exact Iff.rfl
  | serve q' env =>
    unfold Unseen
    by_cases hq : q' = q
    · subst hq
      rw [Syncing.due_serve_self hok.1, Classical.not_imp]
      simp only [BreaksUnseen, Syncing.Looks, true_and, not_true_eq_false, false_and, or_false]
      constructor
      · rintro ⟨⟨hdone, hahead⟩, hwrong⟩
        exact ⟨hahead, hdone, Syncing.away_of_done hr hkind hok hdone hwrong, hwrong⟩
      · rintro ⟨hahead, hdone, -, hwrong⟩
        exact ⟨⟨hdone, hahead⟩, hwrong⟩
    · rw [Syncing.due_serve_ne hq, Syncing.right_serve_ne hr hkind hok hq]
      simp only [BreaksUnseen, Syncing.Looks, hq, false_and, not_false_eq_true, true_and, false_or]

/-- A new controller knows nothing and is told of nothing. -/
theorem wrong_setup : (s.step x r .setup).Wrong x decode r q ↔
    s.Breaks x decode r q .setup ∨ ¬s.Looks x q .setup ∧ s.Wrong x decode r q := by
  have hnothing : ¬(s.step x r .setup).sync.Due x r q := by
    rintro (h | ⟨_, h, -⟩)
    · exact Finset.notMem_empty q h
    · exact List.not_mem_nil h
  have hright : (s.step x r .setup).sync.Right x decode r q ↔
      Cleared r (gates s.sync.alive) (s.sync.server.get (mirrorKey r q)) := Iff.rfl
  rw [wrong_detached rfl]
  unfold Unseen
  rw [hright]
  simp only [Breaks, Looks, hnothing, not_false_eq_true, true_and, not_true_eq_false, false_and,
    or_false]

theorem wrong_start (ok : Bool) : (s.step x r (.start ok)).Wrong x decode r q ↔
    s.Breaks x decode r q (.start ok) ∨
      ¬s.Looks x q (.start ok) ∧ s.Wrong x decode r q := by
  by_cases ha : s.Attaches (.start ok)
  · obtain ⟨hi, rfl⟩ := ha
    have hstep : s.step x r (.start true) =
        { s with informers := true, attached := true, running := true } := by
      simp [step, hi]
    rw [hstep, wrong_attached rfl]
    simp [Breaks, Looks, Attaches, hi]
  · have hsame : (s.step x r (.start ok)).sync = s.sync ∧
        (s.step x r (.start ok)).attached = s.attached := by
      cases hi : s.informers with
      | true => simp [step, hi]
      | false =>
        have hok : ok = false := Bool.eq_false_iff.mpr fun h => ha ⟨hi, h⟩
        simp [step, hi, hok]
    unfold Wrong
    rw [hsame.1, hsame.2]
    simp [Breaks, Looks, ha]

theorem wrong_step (hr : Plain r) (hkind : Kinded r) (a : Act) (hok : s.Allowed x decode r a) :
    (s.step x r a).Wrong x decode r q ↔
      s.Breaks x decode r q a ∨ ¬s.Looks x q a ∧ s.Wrong x decode r q := by
  cases a with
  | setup => exact wrong_setup
  | start ok => exact wrong_start ok
  | act a =>
    cases hatt : s.attached with
    | true =>
      have hstep := Syncing.wrong_step (q := q) hr hkind a hok.1
      rw [wrong_attached (s := s) hatt, wrong_attached (s := s.step x r (.act a)) hatt]
      simp only [Breaks, Looks, hatt, if_true]
      exact hstep
    | false =>
      have hobserve : ∀ q' version, a ≠ .observe q' version := by
        rintro q' version rfl
        exact absurd (hatt.symm.trans hok.2.2) Bool.false_ne_true
      have hstep := unseen_step (q := q) hr hkind a hok.1 hobserve
      rw [wrong_detached (s := s) hatt, wrong_detached (s := s.step x r (.act a)) hatt]
      simp only [Breaks, Looks, hatt, Bool.false_eq_true, if_false]
      exact hstep

/-- **Which copies do not fit, with restarts**: when the watches and the queue of the
controller have come to rest, the copy of an object is not as the rule wants it
exactly if something has broken it that the controller is not told of, and nothing
has looked at it since. -/
theorem restarted_copy_wrong_iff (hr : Plain r) (hkind : Kinded r)
    {tr : List (Restarting × Act)} (h : Run (restarts x decode r) tr s)
    (hrest : s.sync.remote.AtRest) (q : NamespacedName)
    (hseen : s.attached = true → s.sync.Seen r q) :
    ¬Settled x decode r (gates s.sync.alive) (s.sync.remote.store.lookup q)
        (s.sync.server.get (mirrorKey r q)) ↔
      Since (Breaks x decode r q) (Looks x q) tr := by
  have hiff : s.Wrong x decode r q ↔ Since (Breaks x decode r q) (Looks x q) tr := by
    refine h.since_iff (fun s hi hwrong => hwrong.2.2 ?_) fun _ _ a _ hok =>
      wrong_step hr hkind a hok
    obtain ⟨⟨hcache, -, -, hserver, -⟩, -⟩ := hi
    exact Syncing.right_of_new hcache hserver
  rw [← hiff]
  unfold Wrong Syncing.Due Syncing.Right
  rw [hrest.cache, and_iff_right (hrest.not_due q), and_iff_right hseen]

section

open Sample

/-- The copy is made, the controller is restarted and confirms it; then somebody deletes
the copy. -/
def unwatched : List (Restarting × Act) × Restarting :=
  let env : Env := { source := .ok stored, alive := fun _ => true }
  played (restarts .bare (fun _ _ => none) (syncing "L" "R")) []
    { sync := { remote := { store := ∅ }, alive := fun _ => true } }
    [.start true, .act (.source req (some stored)), .act (.refresh req (some stored)),
      .act .handle, .act (.serve req env), .setup, .start true,
      .act (.refresh req (some stored)), .act .handle, .act (.serve req env),
      .act (.others .empty)]

theorem run_unwatched :
    Run (restarts .bare (fun _ _ => none) (syncing "L" "R")) unwatched.1 unwatched.2 := by
  have hserves : ∀ server, Serves .bare (fun _ _ => none) (syncing "L" "R") req (some stored)
      server { source := .ok stored, alive := fun _ => true } := by
    refine fun server => ⟨.inl rfl, fun o ho => ?_, nofun, fun _ _ _ => nofun⟩
    cases ho
    rfl
  refine .plays (.init ⟨⟨rfl, rfl, rfl, rfl, rfl⟩, rfl, rfl, rfl⟩) ?_
  refine ⟨rfl, ⟨trivial, trivial⟩, ⟨trivial, rfl⟩, ⟨trivial, rfl⟩,
    ⟨⟨by decide +kernel, rfl, ?_⟩, rfl⟩, trivial, rfl, ⟨trivial, rfl⟩, ⟨trivial, rfl⟩,
    ⟨⟨by decide +kernel, rfl, ?_⟩, rfl⟩, ⟨trivial, trivial⟩, trivial⟩
  all_goals exact hserves _

theorem restarted_copy_wrong_iff_unwatched :
    Since (Breaks .bare (fun _ _ => none) (syncing "L" "R") req) (Looks .bare req)
      unwatched.1 := by
  have hr : Plain (syncing "L" "R") := plain_start (by decide) (by decide) "L" false
  refine (restarted_copy_wrong_iff hr ⟨by decide, by decide⟩ run_unwatched
    ⟨by decide +kernel, by decide +kernel, by decide +kernel⟩ req fun h => ?_).mp fun hsettled => ?_
  · exact absurd h (by decide +kernel)
  · have hsource : unwatched.2.sync.remote.store.lookup req = some stored := by decide +kernel
    have hcopy : unwatched.2.sync.server.get key = none := by decide +kernel
    rw [hsource, show unwatched.2.sync.server.get (mirrorKey (syncing "L" "R") req) = none from
      hcopy] at hsettled
    have hcreate := (settled_live rfl).mp hsettled [{}] (by decide +kernel)
    revert hcreate
    show ¬(_ = false)
    decide +kernel

end

end Restarting

end ClusterRegistry.Sync
