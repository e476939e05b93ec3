import ClusterRegistry.Lib.Run
import Mathlib.Logic.Function.Basic

/-!
# The life of a managed controller

`pkg/clusters/managed_controller.go`: `Start` launches a run under a context of
its own, a child of the one it is given, and returns at once. What follows
happens in a goroutine: the check is retried until the controller is set up,
then the controller runs, and when its context is done the fields are reset.
Most ways out of the goroutine reset nothing.

Runs are numbered in the order they are launched, a run's context has its
number, and the goroutine of a run goes through the phases below. It reads the
fields of the controller when it gets there, not when it was launched. A nil
context where a goroutine waits for it would end the process; no step leads on
from there.
-/

namespace ClusterRegistry.Clusters

open Lib

/-- Where the goroutine of a run is. -/
inductive Phase where
  /-- It is about to call `PreCheck`, or `start`. -/
  | check
  | start
  /-- The check failed: it is about to enter the `select`. -/
  | retry
  /-- It waits for the ticker, or for the context that it found there. -/
  | wait (ctx : Nat)
  /-- It waits for the leader election and the cache. -/
  | sync
  /-- It is about to call `reconciler.Start`, or is in `ctrl.Start`. -/
  | prepare
  | run
  /-- It waits for the context to be done, to clean up. -/
  | drain (ctx : Nat)

/-- How `start` ends: before `SetupWithController`, in it after `SetContext`,
or well. -/
inductive Outcome where
  | failed
  | setupFailed
  | ok
  deriving DecidableEq

/-- The fields of `ManagedReconcilerBase` that `DoCleanup` resets together. -/
structure ReconcilerFields where
  ctx : Option Nat := none
  mgr : Option Nat := none

namespace ReconcilerFields

def setContext (r : ReconcilerFields) (ctx : Option Nat) : ReconcilerFields :=
  match r.ctx with
  | some _ => r
  | none => { r with ctx := ctx }

def setManager (r : ReconcilerFields) (mgr : Nat) : ReconcilerFields :=
  match r.mgr with
  | some _ => r
  | none => { r with mgr := some mgr }

end ReconcilerFields

structure Lifecycle where
  ctrlContext : Option Nat := none
  ctrlContextCancel : Option Nat := none
  mgr : Option Nat := none
  reconciler : ReconcilerFields := {}
  /-- The number of runs, and the context and the manager each was started with. -/
  launched : Nat := 0
  parent : Nat → Nat := fun _ => 0
  startedWith : Nat → Nat := fun _ => 0
  /-- The contexts given to `Start` that have ended, and the runs stopped. -/
  ended : List Nat := []
  stopped : List Nat := []
  threads : Nat → Option Phase := fun _ => none
  /-- The runs that got to `SetContext`, and those that have cleaned up. -/
  setUp : List Nat := []
  cleaned : List Nat := []

namespace Lifecycle

/-- The context of the run is done. -/
def Done (s : Lifecycle) (k : Nat) : Prop := k ∈ s.stopped ∨ s.parent k ∈ s.ended

instance (s : Lifecycle) (k : Nat) : Decidable (s.Done k) := inferInstanceAs (Decidable (_ ∨ _))

def goto (s : Lifecycle) (k : Nat) (p : Option Phase) : Lifecycle :=
  { s with threads := Function.update s.threads k p }

theorem threads_goto (s : Lifecycle) (k : Nat) (p : Option Phase) (i : Nat) :
    (s.goto k p).threads i = if i = k then p else s.threads i :=
  Function.update_apply s.threads k p i

/-- `SetContext` in `SetupWithController`. -/
def setup (s : Lifecycle) (k : Nat) : Lifecycle :=
  { s with reconciler := s.reconciler.setContext s.ctrlContext, setUp := k :: s.setUp }

inductive Act where
  | start (ctx mgr : Nat)
  | stop
  /-- The context given to a `Start` ends. -/
  | endContext (ctx : Nat)
  | preCheck (k : Nat) (ok : Bool)
  | doStart (k : Nat) (outcome : Outcome)
  | select (k : Nat)
  | tick (k : Nat)
  | quit (k : Nat)
  | cacheSync (k : Nat) (ok : Bool)
  | reconcilerStart (k : Nat) (ok : Bool)
  | ctrlReturned (k : Nat)
  | cleanup (k : Nat)

def step (s : Lifecycle) : Act → Lifecycle
  | .start ctx mgr =>
    match s.ctrlContextCancel with
    | some _ => s
    | none =>
      { s with
        ctrlContext := some s.launched
        ctrlContextCancel := some s.launched
        mgr := some mgr
        reconciler := s.reconciler.setManager mgr
        launched := s.launched + 1
        parent := Function.update s.parent s.launched ctx
        startedWith := Function.update s.startedWith s.launched mgr
        threads := Function.update s.threads s.launched (some .check) }
  | .stop =>
    { s with stopped := s.ctrlContextCancel.toList ++ s.stopped, ctrlContextCancel := none }
  | .endContext ctx => { s with ended := ctx :: s.ended }
  | .preCheck k ok => s.goto k (some (if ok then .start else .retry))
  | .doStart k .failed => s.goto k (some .retry)
  | .doStart k .setupFailed => (s.setup k).goto k (some .retry)
  | .doStart k .ok => (s.setup k).goto k (some .sync)
  | .select k => s.goto k (s.ctrlContext.map .wait)
  | .tick k => s.goto k (some .check)
  | .quit k => s.goto k none
  | .cacheSync k ok => s.goto k (if ok then some .prepare else none)
  | .reconcilerStart k ok => s.goto k (if ok then some .run else none)
  | .ctrlReturned k => s.goto k (s.ctrlContext.map .drain)
  | .cleanup k =>
    { s.goto k none with
      ctrlContext := none, ctrlContextCancel := none, reconciler := {}, cleaned := k :: s.cleaned }

def Allowed (s : Lifecycle) : Act → Prop
  | .start _ _ => True
  | .stop => True
  | .endContext _ => True
  | .preCheck k _ => s.threads k = some .check
  | .doStart k outcome => s.threads k = some .start ∧ (outcome = .failed ∨ s.ctrlContext.isSome)
  | .select k => s.threads k = some .retry ∧ s.ctrlContext.isSome
  | .tick k => ∃ j, s.threads k = some (.wait j)
  | .quit k => ∃ j, s.threads k = some (.wait j) ∧ s.Done j
  | .cacheSync k _ => s.threads k = some .sync
  | .reconcilerStart k _ => s.threads k = some .prepare
  | .ctrlReturned k => s.threads k = some .run ∧ s.ctrlContext.isSome
  | .cleanup k => ∃ j, s.threads k = some (.drain j) ∧ s.Done j

/-- The context of the previous run, if there was one, is done. -/
def Over (s : Lifecycle) : Prop := ∀ k, s.launched = k + 1 → s.Done k

/-- A `Start` after the previous run launches a run under the new context, and
the reconciler has the new manager. -/
def Launches (s : Lifecycle) : Act → Prop
  | .start ctx mgr => s.Over → (s.step (.start ctx mgr)).ctrlContext = some s.launched ∧
      (s.step (.start ctx mgr)).parent s.launched = ctx ∧
      (s.step (.start ctx mgr)).threads s.launched = some .check ∧
      (s.step (.start ctx mgr)).reconciler.mgr = some mgr
  | _ => True

/-- Until the last run cleans up itself, the reconciler has its manager and,
once it was set up, its context. -/
def Equipped (s : Lifecycle) : Prop :=
  ∀ k, s.launched = k + 1 → k ∉ s.cleaned →
    s.reconciler.mgr = some (s.startedWith k) ∧ (k ∈ s.setUp → s.reconciler.ctx = some k)

/-- A `Start` after the previous run finds it cleaned up: no goroutine is left
and the fields are reset. -/
def FindsClean (s : Lifecycle) : Act → Prop
  | .start _ _ => s.Over → s.ctrlContextCancel = none ∧ s.reconciler.mgr = none ∧
      s.reconciler.ctx = none ∧ ∀ k, s.threads k = none
  | _ => True

end Lifecycle

def lifecycle : System Lifecycle Lifecycle.Act where
  init s := s = {}
  ok _ s a := s.Allowed a
  step := Lifecycle.step

namespace Lifecycle

variable {s : Lifecycle}

/-- What holds of the last run while every `Start` after the previous run finds
it cleaned up. -/
structure Current (s : Lifecycle) (k : Nat) : Prop where
  cancel : ¬s.Done k → s.ctrlContextCancel = some k
  context : k ∉ s.cleaned → s.ctrlContext = some k
  manager : k ∉ s.cleaned → s.reconciler.mgr = some (s.startedWith k)
  setUp : k ∉ s.cleaned → s.reconciler.ctx = if k ∈ s.setUp then some k else none
  drain : ∀ j, s.threads k = some (.drain j) → j = k
  ended : k ∈ s.cleaned → s.threads k = none

structure Inv (s : Lifecycle) : Prop where
  only : ∀ k p, s.threads k = some p → s.launched = k + 1
  fresh : ∀ k, k ∈ s.setUp ∨ k ∈ s.cleaned ∨ s.ctrlContextCancel = some k → k < s.launched
  current : ∀ k, s.launched = k + 1 → s.Current k

/-- The goroutine of the last run goes on. -/
theorem Inv.goto (h : s.Inv) {k : Nat} {q : Phase} (hq : s.threads k = some q) {p : Option Phase}
    (hp : ∀ j, p = some (.drain j) → j = k) : (s.goto k p).Inv := by
  have hk := h.only k q hq
  refine ⟨fun i r hi => ?_, h.fresh, fun i hi => ?_⟩
  · by_cases e : i = k
    · rw [e]; exact hk
    · rw [threads_goto, if_neg e] at hi
      exact h.only i r hi
  · obtain rfl : i = k := by have : s.launched = i + 1 := hi; omega
    have hc := h.current i hk
    have hthread : (s.goto i p).threads i = p := (threads_goto s i p i).trans (if_pos rfl)
    refine ⟨hc.cancel, hc.context, hc.manager, hc.setUp, fun j hj => ?_, fun hcl => ?_⟩
    · exact hp j (hthread.symm.trans hj)
    · rw [hc.ended hcl] at hq; cases hq

/-- A run that still has a goroutine has not cleaned up. -/
theorem Inv.not_cleaned (h : s.Inv) {k : Nat} {q : Phase} (hq : s.threads k = some q) :
    k ∉ s.cleaned := by
  intro hc
  rw [(h.current k (h.only k q hq)).ended hc] at hq
  cases hq

theorem Inv.setup (h : s.Inv) {k : Nat} {q : Phase} (hq : s.threads k = some q) :
    (s.setup k).Inv := by
  have hk := h.only k q hq
  have hcl := h.not_cleaned hq
  refine ⟨h.only, fun i hi => ?_, fun i hi => ?_⟩
  · rcases hi with hi | hi
    · rcases List.mem_cons.mp hi with rfl | hi
      · show i < s.launched; omega
      · exact h.fresh i (.inl hi)
    · exact h.fresh i (.inr hi)
  · obtain rfl : i = k := by have : s.launched = i + 1 := hi; omega
    have hc := h.current i hk
    have hctx : (s.setup i).reconciler.ctx = some i := by
      have hs := hc.setUp hcl
      simp only [Lifecycle.setup, ReconcilerFields.setContext, hc.context hcl]
      split
      · next j hj => rw [hj] at hs ⊢; split at hs <;> cases hs; rfl
      · rfl
    have hmgr : (s.setup i).reconciler.mgr = s.reconciler.mgr := by
      simp only [Lifecycle.setup, ReconcilerFields.setContext]
      split <;> rfl
    refine ⟨hc.cancel, hc.context, fun hn => hmgr.trans (hc.manager hn), fun _ => ?_, hc.drain,
      hc.ended⟩
    rw [hctx, if_pos (by exact List.mem_cons_self)]

theorem Inv.cleanup (h : s.Inv) {k : Nat} (ha : s.Allowed (.cleanup k)) :
    (s.step (.cleanup k)).Inv := by
  obtain ⟨j, hj, hdone⟩ := ha
  have hk := h.only k _ hj
  obtain rfl : j = k := (h.current k hk).drain j hj
  refine ⟨fun i r hi => ?_, fun i hi => ?_, fun i hi => ?_⟩
  · by_cases e : i = j
    · rw [e]; exact hk
    · exact h.only i r ((threads_goto s j none i).trans (if_neg e) ▸ hi)
  · show i < s.launched
    rcases hi with hi | hi | hi
    · exact h.fresh i (.inl hi)
    · rcases List.mem_cons.mp hi with rfl | hi
      · omega
      · exact h.fresh i (.inr (.inl hi))
    · cases hi
  · obtain rfl : i = j := by have : s.launched = i + 1 := hi; omega
    have hthread : (s.step (.cleanup i)).threads i = none :=
      (threads_goto s i none i).trans (if_pos rfl)
    have hmem : i ∈ (s.step (.cleanup i)).cleaned := List.mem_cons_self
    exact ⟨fun hn => absurd hdone hn, absurd hmem, absurd hmem, absurd hmem,
      fun j hj => (Option.some_ne_none _ (hj.symm.trans hthread)).elim, fun _ => hthread⟩

theorem Inv.stop (h : s.Inv) : (s.step .stop).Inv := by
  refine ⟨h.only, fun i hi => h.fresh i (hi.imp id (Or.imp id nofun)), fun k hk => ?_⟩
  have hc := h.current k hk
  refine ⟨fun hn => ?_, hc.context, hc.manager, hc.setUp, hc.drain, hc.ended⟩
  have hnot : ¬s.Done k := fun hd => hn (hd.imp (List.mem_append_right _) id)
  refine absurd (.inl ?_) hn
  simp [Lifecycle.step, hc.cancel hnot]

theorem Inv.endContext (h : s.Inv) (ctx : Nat) : (s.step (.endContext ctx)).Inv := by
  refine ⟨h.only, h.fresh, fun k hk => ?_⟩
  have hc := h.current k hk
  exact ⟨fun hn => hc.cancel fun hd => hn (hd.imp id (List.mem_cons_of_mem _)), hc.context,
    hc.manager, hc.setUp, hc.drain, hc.ended⟩

/-- While the last run is not over, `Start` does nothing. -/
theorem Inv.start_ignored (h : s.Inv) (ho : ¬s.Over) (ctx mgr : Nat) :
    s.step (.start ctx mgr) = s := by
  simp only [Over, not_forall] at ho
  obtain ⟨k, hk, hd⟩ := ho
  simp only [Lifecycle.step, (h.current k hk).cancel hd]

theorem start_launches (hc : s.ctrlContextCancel = none) (hm : s.reconciler.mgr = none)
    (ctx mgr : Nat) : s.step (.start ctx mgr) =
      { s with
        ctrlContext := some s.launched
        ctrlContextCancel := some s.launched
        mgr := some mgr
        reconciler := { s.reconciler with mgr := some mgr }
        launched := s.launched + 1
        parent := Function.update s.parent s.launched ctx
        startedWith := Function.update s.startedWith s.launched mgr
        threads := Function.update s.threads s.launched (some .check) } := by
  simp only [Lifecycle.step, hc, ReconcilerFields.setManager, hm]

theorem Inv.start (h : s.Inv) {ctx mgr : Nat} (hf : s.FindsClean (.start ctx mgr)) :
    (s.step (.start ctx mgr)).Inv := by
  by_cases ho : s.Over
  · obtain ⟨hc, hm, hx, ht⟩ := hf ho
    rw [start_launches hc hm]
    have hlast : ∀ k, s.launched + 1 = k + 1 → k = s.launched := fun k hk => by omega
    have hnew : ∀ k, k ∈ s.setUp ∨ k ∈ s.cleaned → k ≠ s.launched := fun k hk => by
      have := h.fresh k (hk.imp id .inl); omega
    refine ⟨fun i r hi => ?_, fun i hi => ?_, fun i hi => ?_⟩
    · by_cases e : i = s.launched
      · rw [e]
      · have hi' : s.threads i = some r := (Function.update_of_ne e _ _).symm.trans hi
        rw [ht i] at hi'; cases hi'
    · show i < s.launched + 1
      rcases hi with hi | hi | hi
      · have := h.fresh i (.inl hi); omega
      · have := h.fresh i (.inr (.inl hi)); omega
      · cases hi; omega
    · obtain rfl := hlast i hi
      have hthread : Function.update s.threads s.launched (some Phase.check) s.launched =
        some .check := Function.update_self _ _ _
      have hwith : Function.update s.startedWith s.launched mgr s.launched = mgr :=
        Function.update_self _ _ _
      refine ⟨fun _ => rfl, fun _ => rfl, fun _ => ?_, fun _ => ?_, fun j hj => ?_, fun hcl => ?_⟩
      · exact congrArg some hwith.symm
      · rw [if_neg fun hu => hnew _ (.inl hu) rfl]; exact hx
      · cases hthread.symm.trans hj
      · exact absurd rfl (hnew _ (.inr hcl))
  · rw [h.start_ignored ho]; exact h

theorem Inv.step (h : s.Inv) {a : Act} (ha : s.Allowed a) (hf : s.FindsClean a) :
    (s.step a).Inv := by
  cases a with
  | start ctx mgr => exact h.start hf
  | stop => exact h.stop
  | endContext ctx => exact h.endContext ctx
  | preCheck k ok => exact h.goto ha (by cases ok <;> nofun)
  | doStart k outcome =>
    obtain ⟨hq, -⟩ := ha
    cases outcome with
    | failed => exact h.goto hq nofun
    | setupFailed => exact (h.setup hq).goto hq nofun
    | ok => exact (h.setup hq).goto hq nofun
  | select k =>
    refine h.goto ha.1 fun j hj => ?_
    obtain ⟨i, -, hi⟩ := Option.map_eq_some_iff.mp hj
    cases hi
  | tick k =>
    obtain ⟨j, hq⟩ := ha
    exact h.goto hq nofun
  | quit k =>
    obtain ⟨j, hq, -⟩ := ha
    exact h.goto hq nofun
  | cacheSync k ok => exact h.goto ha (by cases ok <;> nofun)
  | reconcilerStart k ok => exact h.goto ha (by cases ok <;> nofun)
  | ctrlReturned k =>
    refine h.goto ha.1 fun j hj => ?_
    rw [(h.current k (h.only k _ ha.1)).context (h.not_cleaned ha.1)] at hj
    cases hj; rfl
  | cleanup k => exact h.cleanup ha

theorem Inv.equipped (h : s.Inv) : s.Equipped := by
  intro k hk hn
  have hc := h.current k hk
  refine ⟨hc.manager hn, fun hu => ?_⟩
  rw [hc.setUp hn, if_pos hu]

theorem launches_of_clean {a : Act} (hf : s.FindsClean a) : s.Launches a := by
  cases a with
  | start ctx mgr =>
    intro ho
    obtain ⟨hc, hm, -, -⟩ := hf ho
    rw [start_launches hc hm]
    exact ⟨rfl, Function.update_self _ _ _, Function.update_self _ _ _, rfl⟩
  | _ => trivial

end Lifecycle

/-- **Controllers restart**: in every history in which each `Start` after the
previous run finds it cleaned up, each such `Start` launches a run, and the
reconciler has the manager and the context of the last run until that run
cleans up itself. -/
theorem controller_restarts (tr : List (Lifecycle × Lifecycle.Act)) (s : Lifecycle)
    (h : Run lifecycle tr s) (hf : ∀ p ∈ tr, p.1.FindsClean p.2) :
    (∀ p ∈ tr, p.1.Launches p.2) ∧ ∀ t ∈ states tr s, t.Equipped := by
  have hinv := h.always (G := Lifecycle.Inv) (C := Lifecycle.FindsClean)
    (fun s hs => by
      cases (show s = {} from hs)
      exact ⟨nofun, fun k hk => by simp at hk, nofun⟩)
    (fun _ _ _ _ ih ha hc => ih.step ha hc) hf
  exact ⟨fun p hp => Lifecycle.launches_of_clean (hf p hp), fun t ht => (hinv t ht).equipped⟩

open Lifecycle in
/-- A run that is stopped and cleans up, and the next one. -/
def ranTwice : List (Lifecycle × Act) × Lifecycle :=
  played lifecycle [] {}
    [.start 0 10, .preCheck 0 true, .doStart 0 .ok, .cacheSync 0 true, .reconcilerStart 0 true,
      .stop, .ctrlReturned 0, .cleanup 0, .start 1 11, .preCheck 1 true, .doStart 1 .ok]

theorem controller_restarts_ranTwice :
    ranTwice.2.reconciler.mgr = some 11 ∧ ranTwice.2.reconciler.ctx = some 1 ∧
    ∀ p ∈ ranTwice.1, p.1.Launches p.2 := by
  refine ⟨rfl, rfl, (controller_restarts ranTwice.1 ranTwice.2 (.plays (.init rfl) ?_) ?_).1⟩
  · exact ⟨trivial, rfl, ⟨rfl, .inr rfl⟩, rfl, rfl, trivial, ⟨rfl, rfl⟩,
      ⟨0, rfl, .inl List.mem_cons_self⟩, trivial, rfl, ⟨rfl, .inr rfl⟩, trivial⟩
  · simp only [List.forall_mem_cons, ranTwice, played]
    refine ⟨trivial, trivial, fun _ => ⟨rfl, rfl, rfl, ?_⟩, trivial, trivial, trivial, trivial,
      trivial, trivial, trivial, fun _ => ⟨rfl, rfl, rfl, fun _ => rfl⟩, by simp⟩
    rintro (_ | k) <;> rfl

open Lifecycle in
/-- The manager's context ends while the run waits for the cache. -/
def cutOff : List (Lifecycle × Act) × Lifecycle :=
  played lifecycle [] {}
    [.start 0 10, .preCheck 0 true, .doStart 0 .ok, .endContext 0, .cacheSync 0 false,
      .start 1 11]

theorem not_restarted_cutOff : Run lifecycle cutOff.1 cutOff.2 ∧
    ¬∀ p ∈ cutOff.1, p.1.Launches p.2 := by
  refine ⟨.plays (.init rfl) ?_, fun h => ?_⟩
  · exact ⟨trivial, rfl, ⟨rfl, .inr rfl⟩, trivial, rfl, trivial, trivial⟩
  · have hover : (played lifecycle [] {} [.start 0 10, .preCheck 0 true, .doStart 0 .ok,
        .endContext 0, .cacheSync 0 false]).2.Over := by
      intro k hk
      obtain rfl : k = 0 := by cases hk; rfl
      exact .inr List.mem_cons_self
    cases (h _ List.mem_cons_self hover).1

end ClusterRegistry.Clusters
