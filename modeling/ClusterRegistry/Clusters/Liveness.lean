import ClusterRegistry.Api.Types
import ClusterRegistry.Lib.Run

/-!
# Liveness and the manager of a cluster

`pkg/clusters/cluster.go`: the liveness check marks a cluster alive or dead,
starts a controller manager when the cluster comes back and cancels it when
the cluster goes away. The fields are reset later, by the goroutine that ran
the manager. Contexts are numbered in the order they are made and a manager
has the number of the context it was started with.

`StartManager` does nothing while `mgrCtx` is set, so a recovery brings a
manager back as long as the field is clear when it happens; a stopped run that
has not yet cleaned up, or an earlier start that failed, leaves it set.
-/

namespace ClusterRegistry.Clusters

open Lib

/-- The fields of a `Cluster` that the liveness check and the manager share. -/
structure Vitals where
  alive : Bool := false
  clusterID : String := ""
  mgrStopped : Bool := false
  mgrCtx : Option Nat := none
  mgrCtxCancel : Option Nat := none
  mgr : Option Nat := none
  /-- The number of contexts made so far, and those cancelled. -/
  contexts : Nat := 0
  cancelled : List Nat := []
  /-- The manager runs that have not reset the fields. -/
  runs : List Nat := []
  /-- The contexts made before the last dead-to-alive transition, and whether
  `ctrl.NewManager` would have succeeded there. -/
  since : Nat := 0
  startable : Bool := false

namespace Vitals

/-- `StartManager`, up to the start of the controllers; `newManager` is the
outcome of `ctrl.NewManager`. -/
def startManager (s : Vitals) (newManager : Bool) : Vitals :=
  match s.mgrCtx with
  | some _ => s
  | none =>
    let s := { s with
      mgrStopped := false, mgrCtx := some s.contexts, mgrCtxCancel := some s.contexts,
      contexts := s.contexts + 1 }
    if newManager then { s with mgr := s.mgrCtx, runs := s.mgrCtx.toList ++ s.runs }
    else { s with mgr := none }

def stopManager (s : Vitals) : Vitals :=
  match s.mgrCtx, s.mgrCtxCancel with
  | some _, some k => { s with cancelled := k :: s.cancelled }
  | _, _ => s

/-- The recovery, for later states to refer to. -/
def noteRecovery (s : Vitals) (newManager : Bool) : Vitals :=
  { s with since := s.contexts, startable := newManager }

def setAlive (s : Vitals) (newManager : Bool) : Vitals :=
  if s.alive then s
  else
    let s := s.noteRecovery newManager
    { (if s.mgrStopped then s else s.startManager newManager) with alive := true }

def setDead (s : Vitals) : Vitals :=
  if s.alive then { s.stopManager with alive := false } else s

/-- `livenessCheck`: what reading the `kube-system` namespace gave. -/
def livenessCheck (s : Vitals) (newManager : Bool) : Except Err String → Vitals
  | .error _ => s.setDead
  | .ok uid => { s.setAlive newManager with clusterID := uid }

/-- The end of the goroutine in `StartManager`. -/
def cleanup (s : Vitals) (k : Nat) : Vitals :=
  { s with mgrCtx := none, mgrCtxCancel := none, mgr := none, runs := s.runs.erase k }

inductive Act where
  | check (read : Except Err String) (newManager : Bool)
  | cleanup (k : Nat)

def step (s : Vitals) : Act → Vitals
  | .check read newManager => s.livenessCheck newManager read
  | .cleanup k => s.cleanup k

/-- The goroutine waits for the context that the field holds. -/
def Allowed (s : Vitals) : Act → Prop
  | .check _ _ => True
  | .cleanup k => k ∈ s.runs ∧ ∃ j, s.mgrCtx = some j ∧ j ∈ s.cancelled

/-- No stopped run is waiting to clean up. -/
def Settled (s : Vitals) : Prop := ∀ k ∈ s.runs, k ∉ s.cancelled

instance (s : Vitals) : Decidable s.Settled := inferInstanceAs (Decidable (∀ k ∈ s.runs, _))

/-- A manager that was started after the last recovery is set, and runs. -/
def Running (s : Vitals) : Prop :=
  ∃ k, s.mgr = some k ∧ s.since ≤ k ∧ s.mgrCtx = some k ∧ k ∉ s.cancelled

/-- A recovery that can start a manager finds the fields of the last one reset. -/
def FindsReset (s : Vitals) : Act → Prop
  | .check (.ok _) newManager => s.alive = false → newManager = true → s.mgrCtx = none
  | _ => True

end Vitals

def vitals : System Vitals Vitals.Act where
  init s := s = {}
  ok _ s a := s.Allowed a
  step := Vitals.step

namespace Vitals

variable {s : Vitals}

/-- The contexts in use have been made; unless it failed to start, the manager
of a live cluster is running. -/
structure Inv (s : Vitals) : Prop where
  started : s.mgrStopped = false
  made : ∀ k, k ∈ s.cancelled ∨ s.mgrCtxCancel = some k → k < s.contexts
  running : s.alive = true → s.startable = true → s.Running

theorem startManager_set {k : Nat} (h : s.mgrCtx = some k) (newManager : Bool) :
    s.startManager newManager = s := by
  unfold startManager
  rw [h]

theorem startManager_reset (h : s.mgrCtx = none) (newManager : Bool) :
    s.startManager newManager = { s with
      mgrStopped := false, mgrCtx := some s.contexts, mgrCtxCancel := some s.contexts,
      contexts := s.contexts + 1, mgr := if newManager then some s.contexts else none,
      runs := if newManager then s.contexts :: s.runs else s.runs } := by
  unfold startManager
  rw [h]
  cases newManager <;> rfl

theorem setAlive_eq (ha : s.alive = false) (hs : s.mgrStopped = false) (newManager : Bool) :
    s.setAlive newManager =
      { (s.noteRecovery newManager).startManager newManager with alive := true } := by
  unfold setAlive
  rw [if_neg (by simp [ha])]
  have hn : (s.noteRecovery newManager).mgrStopped = false := hs
  simp only [hn, Bool.false_eq_true, if_false]

theorem Inv.setDead (h : s.Inv) : s.setDead.Inv := by
  unfold Vitals.setDead stopManager
  split
  · refine ⟨?_, ?_, nofun⟩
    · split
      · exact h.started
      · exact h.started
    · split
      · next k _ hk =>
        intro j hj
        rcases hj with hj | hj
        · rcases List.mem_cons.mp hj with rfl | hj
          · exact h.made j (.inr hk)
          · exact h.made j (.inl hj)
        · exact h.made j (.inr hj)
      · exact h.made
  · exact h

/-- A recovery that finds the field clear starts a manager, unless
`ctrl.NewManager` fails. -/
theorem Inv.setAlive (h : s.Inv) {newManager : Bool}
    (hf : s.alive = false → newManager = true → s.mgrCtx = none) :
    (s.setAlive newManager).Inv := by
  by_cases ha : s.alive = true
  · rw [Vitals.setAlive, if_pos ha]
    exact h
  have hdead : s.alive = false := by simpa using ha
  rw [setAlive_eq hdead h.started]
  by_cases hm : s.mgrCtx = none
  · rw [startManager_reset (by exact hm)]
    have hmade : ∀ k, k ∈ s.cancelled ∨ some s.contexts = some k → k < s.contexts + 1 := by
      rintro k (hk | hk)
      · have := h.made k (.inl hk); omega
      · cases hk; omega
    cases newManager with
    | false => exact ⟨rfl, hmade, nofun⟩
    | true =>
      refine ⟨rfl, hmade, fun _ _ => ⟨s.contexts, rfl, le_refl _, rfl, fun hk => ?_⟩⟩
      exact absurd (h.made _ (.inl hk)) (lt_irrefl _)
  · obtain ⟨j, hj⟩ := Option.ne_none_iff_exists'.mp hm
    rw [startManager_set (by exact hj)]
    exact ⟨h.started, h.made, fun _ hn => absurd (hf hdead hn) hm⟩

/-- The manager of a live cluster runs, so its goroutine does not get this far. -/
theorem Inv.cleanup (h : s.Inv) {k : Nat} (ha : s.Allowed (.cleanup k)) : (s.cleanup k).Inv := by
  obtain ⟨-, j, hj, hc⟩ := ha
  refine ⟨h.started, fun i hi => h.made i (hi.imp id nofun), fun halive hstart => ?_⟩
  obtain ⟨i, -, -, hi, hn⟩ := h.running halive hstart
  rw [hj] at hi
  cases hi
  exact absurd hc hn

theorem Inv.step (h : s.Inv) {a : Act} (ha : s.Allowed a) (hf : s.FindsReset a) :
    (s.step a).Inv := by
  cases a with
  | check read newManager =>
    cases read with
    | error e => exact h.setDead
    | ok uid =>
      have h' := h.setAlive hf
      exact ⟨h'.started, h'.made, h'.running⟩
  | cleanup k => exact h.cleanup ha

end Vitals

/-- **A recovered cluster has a running manager**: in every run whose
recoveries find the manager's fields reset, in every state in which no stopped
run is waiting to clean up. -/
theorem recovered_running (tr : List (Vitals × Vitals.Act)) (s : Vitals) (h : Run vitals tr s)
    (hf : ∀ p ∈ tr, p.1.FindsReset p.2) :
    ∀ t ∈ states tr s, t.Settled → t.alive = true → t.startable = true → t.Running := by
  have hinv := h.always (G := Vitals.Inv) (C := Vitals.FindsReset)
    (fun s hs => by
      cases (show s = {} from hs)
      exact ⟨rfl, fun k hk => by simp at hk, nofun⟩)
    (fun _ _ _ _ ih ha hc => ih.step ha hc) hf
  exact fun t ht _ => (hinv t ht).running

/-- The cluster comes up, fails a check, cleans up and comes back. -/
def restarted : List (Vitals × Vitals.Act) × Vitals :=
  played vitals [] {}
    [.check (.ok "a") true, .check (.error (.new "timeout")) true, .cleanup 0,
      .check (.ok "a") true]

theorem recovered_running_restarted :
    restarted.2.alive = true ∧ restarted.2.mgr = some 1 ∧ restarted.2.Running := by
  refine ⟨rfl, rfl, recovered_running restarted.1 restarted.2 (.plays (.init rfl) ?_) ?_ _
    List.mem_cons_self ?_ rfl rfl⟩
  · exact ⟨trivial, trivial, ⟨List.mem_cons_self, 0, rfl, List.mem_cons_self⟩, trivial, trivial⟩
  · simp only [List.forall_mem_cons, restarted, played]
    exact ⟨fun _ _ => rfl, trivial, trivial, fun _ _ => rfl, by simp⟩
  · decide +kernel

/-- The same, but the cluster is back before the stopped run has cleaned up. -/
def overtaken : List (Vitals × Vitals.Act) × Vitals :=
  played vitals [] {}
    [.check (.ok "a") true, .check (.error (.new "timeout")) true, .check (.ok "a") true,
      .cleanup 0]

theorem not_running_overtaken : Run vitals overtaken.1 overtaken.2 ∧ overtaken.2.Settled ∧
    overtaken.2.alive = true ∧ overtaken.2.startable = true ∧ ¬overtaken.2.Running := by
  refine ⟨.plays (.init rfl) ?_, by decide +kernel, rfl, rfl, ?_⟩
  · exact ⟨trivial, trivial, trivial, ⟨List.mem_cons_self, 0, rfl, List.mem_cons_self⟩, trivial⟩
  · rintro ⟨k, hk, -⟩
    cases hk

end ClusterRegistry.Clusters
