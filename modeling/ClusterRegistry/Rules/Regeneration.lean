import ClusterRegistry.Clusters.Lifecycle
import ClusterRegistry.Clusters.Liveness
import ClusterRegistry.Rules.Registry

/-!
# Waiting for a controller to stop

When the spec of a rule has changed, `syncClusterController` removes the
controller, waits for `ctrl.Stopped()` and makes a new one. `Stopped` is
`c.ctrlContext.Done()`, and the field is nil before the first `Start` and again
after the goroutine of a run has cleaned up.

Here is one registered cluster with everything that bears on the field: the
liveness check and the manager, the loop in `StartManager`, the goroutines of the
controllers, features that come and go, rules that are added and deleted, and any
number of `syncClusterController` calls. The operations of the cluster are steps;
between those of one call anything else may happen.
-/

namespace ClusterRegistry.Rules

open Lib Clusters

/-- Where a `syncClusterController` call that needs to regenerate is. -/
inductive Stage where
  /-- About to call `RemoveController`. -/
  | remove (ctrl : Nat) (sr : ResourceSyncRule)
  /-- About to evaluate `ctrl.Stopped()`. -/
  | stopped (ctrl : Nat) (sr : ResourceSyncRule)
  /-- Waiting for the context it got. -/
  | wait (ctrl ctx : Nat) (sr : ResourceSyncRule)

/-- A cluster; its controllers are numbered in the order they are made. -/
structure Regen where
  vitals : Vitals := {}
  features : Map String ClusterFeature := ∅
  objects : List (ManagedController Reconciler) := []
  life : Nat → Lifecycle := fun _ => {}
  controllers : Map String Nat := ∅
  pendingControllers : Map String Nat := ∅
  /-- The liveness check is in the loop of `StartManager`, about to start a controller. -/
  looping : Bool := false
  cursor : Option Nat := none
  workers : Nat → Option Stage := fun _ => none
  /-- A nil context was dereferenced. -/
  crashed : Bool := false

namespace Regen

inductive Act where
  | check (read : Except Err String) (newManager : Bool)
  | loopNext (name : String)
  | loopStart
  | loopEnd
  /-- The goroutine of the manager resets the fields. -/
  | cleanupManager (k : Nat)
  /-- The context of the cluster ends. -/
  | stopCluster
  | goroutine (ctrl : Nat) (a : Lifecycle.Act)
  | setFeature (feature : ClusterFeature)
  | deleteFeature (uid : String)
  /-- A turn of the loop in `AddFeature`, and of the one in `RemoveFeature`. -/
  | retryPending (name : String)
  | recheckActive (name : String)
  | addController (ctrl : ManagedController Reconciler)
  | removeControllerByName (name : String)
  /-- `syncClusterController` up to `RemoveController`, and on from there. -/
  | compare (w : Nat) (sr : ResourceSyncRule)
  | removeController (w : Nat)
  | stopped (w : Nat)
  | initNew (w : Nat) (newRateLimiter : Except Err Unit)

/-- A step on a controller. -/
def touch (s : Regen) (id : Nat) (a : Lifecycle.Act) : Regen :=
  { s with life := Function.update s.life id ((s.life id).step a) }

/-- The contexts of the manager are the parents of those of the controllers. -/
def withVitals (s : Regen) (v : Vitals) : Regen :=
  { s with vitals := v, life := fun id => { s.life id with ended := v.cancelled } }

/-- `IsManagerRunning`, with the context and the manager for `Start`. -/
def running (s : Regen) : Option (Nat × Nat) :=
  if s.vitals.mgrStopped then none else s.vitals.mgrCtx.bind fun k => s.vitals.mgr.map (k, ·)

def start (s : Regen) (id : Nat) : Option (Nat × Nat) → Regen
  | some (ctx, mgr) => s.touch id (.start ctx mgr)
  | none => s

def nameOf (s : Regen) (id : Nat) : String := ((s.objects[id]?).map (·.name)).getD ""

section

variable (x : External)

/-- The unexported `addController`. -/
def addReadyController (s : Regen) (id : Nat) (name : String) : Regen :=
  match s.controllers.lookup name with
  | some _ => s
  | none =>
    { s with
      pendingControllers := s.pendingControllers.erase name
      controllers := s.controllers.insert name id }.start id s.running

def addController (s : Regen) (id : Nat) : Regen :=
  match s.objects[id]? with
  | none => s
  | some ctrl =>
    if meets x s.features ctrl then s.addReadyController id ctrl.name
    else { s with pendingControllers := s.pendingControllers.insert ctrl.name id }

/-- `NewManagedController`. -/
def make (s : Regen) (ctrl : ManagedController Reconciler) : Regen :=
  { s with objects := s.objects ++ [ctrl] }

def removeControllerByName (s : Regen) (name : String) : Regen :=
  let s := { s with pendingControllers := s.pendingControllers.erase name }
  match s.controllers.lookup name with
  | none => s
  | some id => { s with controllers := s.controllers.erase name }.touch id .stop

/-- The check goes through `StartManager` to its loop. -/
def startsLoop (s : Regen) (read : Except Err String) (newManager : Bool) : Bool :=
  read.isOk && !s.vitals.alive && !s.vitals.mgrStopped && s.vitals.mgrCtx.isNone && newManager

def goto (s : Regen) (w : Nat) (stage : Option Stage) : Regen :=
  { s with workers := Function.update s.workers w stage }

def step (s : Regen) : Act → Regen
  | .check read newManager =>
    { s.withVitals (s.vitals.livenessCheck newManager read) with
      looping := s.startsLoop read newManager }
  | .loopNext name => { s with cursor := s.controllers.lookup name }
  | .loopStart =>
    match s.cursor with
    | none => s
    | some id =>
      { s.start id (s.vitals.mgrCtx.bind fun k => s.vitals.mgr.map (k, ·)) with cursor := none }
  | .loopEnd => { s with looping := false }
  | .cleanupManager k => s.withVitals (s.vitals.cleanup k)
  | .stopCluster =>
    s.withVitals { s.vitals with cancelled := s.vitals.mgrCtx.toList ++ s.vitals.cancelled }
  | .goroutine id a => s.touch id a
  | .setFeature feature => { s with features := s.features.insert feature.uid feature }
  | .deleteFeature uid => { s with features := s.features.erase uid }
  | .retryPending name =>
    match s.pendingControllers.lookup name with
    | none => s
    | some id => s.addController x id
  | .recheckActive name =>
    match s.controllers.lookup name with
    | none => s
    | some id =>
      if (s.objects[id]?).any (meets x s.features) then s
      else
        let s := s.removeControllerByName name
        { s with pendingControllers := s.pendingControllers.insert name id }
  | .addController ctrl => (s.make ctrl).addController x s.objects.length
  | .removeControllerByName name => s.removeControllerByName name
  | .compare w sr =>
    match s.controllers.lookup sr.name with
    | none => s
    | some id => s.goto w (some (.remove id sr))
  | .removeController w =>
    match s.workers w with
    | some (.remove id sr) =>
      (s.removeControllerByName (s.nameOf id)).goto w (some (.stopped id sr))
    | _ => s
  | .stopped w =>
    match s.workers w with
    | some (.stopped id sr) =>
      match (s.life id).ctrlContext with
      | none => { s with crashed := true }
      | some ctx => s.goto w (some (.wait id ctx sr))
    | _ => s
  | .initNew w newRateLimiter =>
    match s.workers w, newRateLimiter with
    | some (.wait _ _ sr), .ok _ =>
      ((s.goto w none).make (newController sr s.vitals.clusterID)).addController x s.objects.length
    | _, _ => s.goto w none

end

/-- What the goroutine of a run does. -/
def isGoroutine : Lifecycle.Act → Bool
  | .start _ _ => false
  | .stop => false
  | .endContext _ => false
  | _ => true

def Allowed (s : Regen) (a : Act) : Prop :=
  s.crashed = false ∧
  match a with
  | .check _ _ => s.looping = false
  | .loopNext name => s.looping = true ∧ (s.controllers.lookup name).isSome
  | .loopStart => s.looping = true ∧ s.cursor.isSome ∧ s.vitals.mgrCtx.isSome ∧ s.vitals.mgr.isSome
  | .loopEnd => s.looping = true
  | .cleanupManager k => s.vitals.Allowed (.cleanup k)
  | .goroutine id a => isGoroutine a = true ∧ (s.life id).Allowed a
  | .compare w sr => s.workers w = none ∧ ∃ id ctrl, s.controllers.lookup sr.name = some id ∧
      s.objects[id]? = some ctrl ∧ ctrl.reconciler.spec.getD emptySpec ≠ sr.spec
  | .removeController w => ∃ id sr, s.workers w = some (.remove id sr)
  | .stopped w => ∃ id sr, s.workers w = some (.stopped id sr)
  | .initNew w _ => ∃ id ctx sr, s.workers w = some (.wait id ctx sr) ∧ (s.life id).Done ctx
  | _ => True

end Regen

/-- Any history of one cluster. -/
def regeneration (x : External) : System Regen Regen.Act where
  init s := s = {}
  ok _ s a := s.Allowed a
  step := Regen.step x

/-! ## When the context is there -/

namespace Regen

variable {x : External} {s : Regen}

/-- `AddController` comes to start the controller. -/
def Adds (x : External) (s : Regen) (id : Nat) : Prop :=
  ∃ ctrl, s.objects[id]? = some ctrl ∧ meets x s.features ctrl = true ∧
    s.controllers.lookup ctrl.name = none ∧ s.running.isSome

/-- The step calls `Start` on the controller: the controller is added while the
manager runs, or the loop of `StartManager` gets to it. -/
def Starts (x : External) (s : Regen) : Act → Nat → Prop
  | .loopStart, id => s.cursor = some id
  | .retryPending name, id => s.pendingControllers.lookup name = some id ∧ s.Adds x id
  | .addController ctrl, id => id = s.objects.length ∧ (s.make ctrl).Adds x id
  | .initNew w (.ok _), id => ∃ ctrl ctx sr, s.workers w = some (.wait ctrl ctx sr) ∧
      id = s.objects.length ∧ (s.make (newController sr s.vitals.clusterID)).Adds x id
  | _, _ => False

/-- The step launches a run of the controller: `Start` finds no cancel function. -/
def Launches (x : External) (id : Nat) (s : Regen) (a : Act) : Prop :=
  s.Starts x a id ∧ (s.life id).ctrlContextCancel = none

/-- The goroutine of some run of the controller resets the fields. -/
def CleansUp (id : Nat) (_ : Regen) (a : Act) : Prop := ∃ k, a = .goroutine id (.cleanup k)

/-- The field is set. -/
def HasContext (s : Regen) (id : Nat) : Prop := (s.life id).ctrlContext ≠ none

theorem life_touch (s : Regen) (id' : Nat) (a : Lifecycle.Act) (id : Nat) :
    (s.touch id' a).life id = if id = id' then (s.life id').step a else s.life id :=
  Function.update_apply s.life id' _ id

/-- Stopping a controller leaves the field. -/
theorem hasContext_stop (id' id : Nat) : (s.touch id' .stop).HasContext id ↔ s.HasContext id := by
  unfold HasContext
  rw [life_touch]
  split
  · next e => rw [e]; rfl
  · rfl

/-- A goroutine leaves the field until it cleans up. -/
theorem hasContext_goroutine {id' id : Nat} {a : Lifecycle.Act} (ha : isGoroutine a = true) :
    (s.touch id' a).HasContext id ↔
      ¬(id = id' ∧ ∃ k, a = .cleanup k) ∧ s.HasContext id := by
  unfold HasContext
  rw [life_touch]
  by_cases e : id = id'
  · subst e
    rw [if_pos rfl]
    cases a with
    | start ctx mgr => cases ha
    | stop => cases ha
    | endContext ctx => cases ha
    | cleanup k => simp [Lifecycle.step]
    | doStart k outcome => cases outcome <;> simp [Lifecycle.step, Lifecycle.goto, Lifecycle.setup]
    | preCheck | select | tick | quit | cacheSync | reconcilerStart | ctrlReturned =>
      simp [Lifecycle.step, Lifecycle.goto]
  · simp [e]

theorem hasContext_start {id' id : Nat} {w : Option (Nat × Nat)} :
    (s.start id' w).HasContext id ↔
      (id = id' ∧ w.isSome ∧ (s.life id).ctrlContextCancel = none) ∨ s.HasContext id := by
  unfold HasContext
  rcases w with _ | ⟨ctx, mgr⟩
  · simp [start]
  · simp only [start, life_touch]
    by_cases e : id = id'
    · subst e
      rw [if_pos rfl]
      cases hc : (s.life id).ctrlContextCancel with
      | none => simp [Lifecycle.step, hc]
      | some k => simp [Lifecycle.step, hc]
    · simp [e]

theorem hasContext_addController {id' id : Nat} : (s.addController x id').HasContext id ↔
    (id = id' ∧ s.Adds x id ∧ (s.life id).ctrlContextCancel = none) ∨ s.HasContext id := by
  unfold addController
  cases hobj : s.objects[id']? with
  | none =>
    refine (or_iff_right ?_).symm
    rintro ⟨rfl, ⟨ctrl, hc, -⟩, -⟩
    rw [hobj] at hc
    cases hc
  | some ctrl =>
    have honly : ∀ {c}, s.objects[id']? = some c → c = ctrl := fun h =>
      Option.some.inj (h.symm.trans hobj)
    simp only
    by_cases hm : meets x s.features ctrl = true
    · rw [if_pos hm]
      unfold addReadyController
      cases hl : s.controllers.lookup ctrl.name with
      | some _ =>
        refine (or_iff_right ?_).symm
        rintro ⟨rfl, ⟨c, hc, -, hnone, -⟩, -⟩
        rw [honly hc, hl] at hnone
        cases hnone
      | none =>
        simp only
        rw [hasContext_start]
        refine or_congr_left (and_congr_right fun e => ?_)
        subst e
        refine and_congr_left fun _ => ⟨fun hr => ⟨ctrl, hobj, hm, hl, hr⟩, ?_⟩
        rintro ⟨-, -, -, -, hr⟩
        exact hr
    · rw [if_neg hm]
      refine (or_iff_right ?_).symm
      rintro ⟨rfl, ⟨c, hc, hmeets, -⟩, -⟩
      exact hm (honly hc ▸ hmeets)

theorem hasContext_remove (name : String) (id : Nat) :
    (s.removeControllerByName name).HasContext id ↔ s.HasContext id := by
  unfold removeControllerByName
  simp only
  split
  · rfl
  · exact hasContext_stop _ _

/-- Launches and clean-ups account for the field after the step. -/
def Accounts (x : External) (s : Regen) (a : Act) (id : Nat) : Prop :=
  (s.step x a).HasContext id ↔ Launches x id s a ∨ ¬CleansUp id s a ∧ s.HasContext id

theorem not_cleansUp {a : Act} {id : Nat} (h : ∀ ctrl b, a ≠ .goroutine ctrl b) :
    ¬CleansUp id s a := fun ⟨_, e⟩ => h _ _ e

/-- A step that calls no `Start` and is none of a goroutine. -/
theorem accounts_quiet {a : Act} {id : Nat} (hs : ¬s.Starts x a id)
    (hc : ∀ ctrl b, a ≠ .goroutine ctrl b)
    (h : (s.step x a).HasContext id ↔ s.HasContext id) : s.Accounts x a id := by
  have hl : ¬Launches x id s a := fun hl => hs hl.1
  unfold Accounts
  rw [h]
  simp only [hl, not_cleansUp hc, not_false_iff, true_and, false_or]

/-- A step that ends in `AddController`, and leaves the controllers alone before. -/
theorem accounts_adding {a : Act} {t : Regen} {id' id : Nat}
    (hstep : s.step x a = t.addController x id') (hlife : t.life = s.life)
    (hs : s.Starts x a id ↔ id = id' ∧ t.Adds x id) (hc : ∀ ctrl b, a ≠ .goroutine ctrl b) :
    s.Accounts x a id := by
  have hsame : t.HasContext id ↔ s.HasContext id := by rw [HasContext, HasContext, hlife]
  unfold Accounts Launches
  rw [hstep, hasContext_addController, hsame, hlife, hs, and_assoc]
  simp only [not_cleansUp hc, not_false_iff, true_and]

theorem accounts_goroutine {ctrl id : Nat} {b : Lifecycle.Act} (hb : isGoroutine b = true) :
    s.Accounts x (.goroutine ctrl b) id := by
  refine (hasContext_goroutine hb).trans ?_
  simp only [Launches, Starts, false_and, false_or, CleansUp, Act.goroutine.injEq]
  refine and_congr_left fun _ => not_congr ?_
  constructor
  · rintro ⟨rfl, k, rfl⟩
    exact ⟨k, rfl, rfl⟩
  · rintro ⟨k, rfl, rfl⟩
    exact ⟨rfl, k, rfl⟩

theorem accounts_loopStart (h : s.Allowed .loopStart) (id : Nat) : s.Accounts x .loopStart id := by
  obtain ⟨-, -, hcur, hctx, hmgr⟩ := h
  obtain ⟨id', hid⟩ := Option.isSome_iff_exists.mp hcur
  obtain ⟨k, hk⟩ := Option.isSome_iff_exists.mp hctx
  obtain ⟨m, hm⟩ := Option.isSome_iff_exists.mp hmgr
  have hstep : (s.step x .loopStart).HasContext id ↔
      (s.start id' (some (k, m))).HasContext id := by
    simp only [step, hid, hk, hm]
    rfl
  have hclean : ¬CleansUp id s .loopStart := not_cleansUp nofun
  unfold Accounts
  rw [hstep, hasContext_start]
  simp only [Launches, Starts, hid, Option.some.injEq, hclean, not_false_iff, true_and,
    Option.isSome_some, eq_comm]

theorem accounts_retryPending (name : String) (id : Nat) :
    s.Accounts x (.retryPending name) id := by
  cases hl : s.pendingControllers.lookup name with
  | none =>
    refine accounts_quiet ?_ nofun ?_
    · rintro ⟨hname, -⟩
      rw [hl] at hname
      cases hname
    · simp only [step, hl]
  | some id' =>
    have hstep : s.step x (.retryPending name) = s.addController x id' := by simp only [step, hl]
    refine accounts_adding hstep rfl ?_ nofun
    simp only [Starts, hl, Option.some.injEq, eq_comm]

theorem accounts_initNew {w : Nat} {newRateLimiter : Except Err Unit}
    (h : s.Allowed (.initNew w newRateLimiter)) (id : Nat) :
    s.Accounts x (.initNew w newRateLimiter) id := by
  obtain ⟨-, ctrl, ctx, sr, hw, -⟩ := h
  cases newRateLimiter with
  | error e =>
    refine accounts_quiet (fun h => h) nofun ?_
    simp only [step, hw]
    rfl
  | ok u =>
    have hstep : s.step x (.initNew w (.ok u)) = ((s.goto w none).make
        (newController sr s.vitals.clusterID)).addController x s.objects.length := by
      simp only [step, hw]
    refine accounts_adding hstep rfl ⟨?_, ?_⟩ nofun
    · rintro ⟨_, _, _, hw', hid, hadds⟩
      cases hw.symm.trans hw'
      exact ⟨hid, hadds⟩
    · rintro ⟨hid, hadds⟩
      exact ⟨ctrl, ctx, sr, hw, hid, hadds⟩

/-- **The field after a step**: a launch sets it, a clean-up resets it, and nothing
else touches it. -/
theorem hasContext_step {a : Act} (h : s.Allowed a) (id : Nat) :
    (s.step x a).HasContext id ↔ Launches x id s a ∨ ¬CleansUp id s a ∧ s.HasContext id := by
  show s.Accounts x a id
  cases a with
  | check read newManager => exact accounts_quiet (fun h => h) nofun Iff.rfl
  | loopNext name => exact accounts_quiet (fun h => h) nofun Iff.rfl
  | loopStart => exact accounts_loopStart h id
  | loopEnd => exact accounts_quiet (fun h => h) nofun Iff.rfl
  | cleanupManager k => exact accounts_quiet (fun h => h) nofun Iff.rfl
  | stopCluster => exact accounts_quiet (fun h => h) nofun Iff.rfl
  | goroutine ctrl b => exact accounts_goroutine h.2.1
  | setFeature feature => exact accounts_quiet (fun h => h) nofun Iff.rfl
  | deleteFeature uid => exact accounts_quiet (fun h => h) nofun Iff.rfl
  | retryPending name => exact accounts_retryPending name id
  | recheckActive name =>
    refine accounts_quiet (fun h => h) nofun ?_
    simp only [step]
    split
    · rfl
    · split
      · rfl
      · exact hasContext_remove name id
  | addController ctrl => exact accounts_adding rfl rfl Iff.rfl nofun
  | removeControllerByName name =>
    exact accounts_quiet (fun h => h) nofun (hasContext_remove name id)
  | compare w sr =>
    refine accounts_quiet (fun h => h) nofun ?_
    simp only [step]
    split <;> rfl
  | removeController w =>
    refine accounts_quiet (fun h => h) nofun ?_
    simp only [step]
    split
    · exact hasContext_remove _ id
    · rfl
  | stopped w =>
    refine accounts_quiet (fun h => h) nofun ?_
    simp only [step]
    split
    · split <;> rfl
    · rfl
  | initNew w newRateLimiter => exact accounts_initNew h id

/-- The call is about to evaluate `Stopped()` on the controller. -/
def Awaits (s : Regen) (w id : Nat) : Prop := ∃ sr, s.workers w = some (.stopped id sr)

/-- The step evaluates `Stopped()` on a controller without a context. -/
def WaitsOnNil (s : Regen) (a : Act) : Prop :=
  ∃ w id, a = .stopped w ∧ s.Awaits w id ∧ (s.life id).ctrlContext = none

end Regen

open Regen

theorem context_iff_since {x : External} {tr : List (Regen × Regen.Act)} {s : Regen}
    (h : Run (regeneration x) tr s) (id : Nat) :
    s.HasContext id ↔ Since (Launches x id) (CleansUp id) tr := by
  refine h.since_iff (P := fun s => s.HasContext id) (fun s hs => ?_) fun _ _ _ _ hok =>
    hasContext_step hok id
  cases (show s = {} from hs)
  exact fun h => h rfl

/-- **No wait on a missing context**: in a history no call evaluates `Stopped()` on a
nil context, exactly if whenever one evaluates it, the controller has been launched
and no run of it has cleaned up since. -/
theorem waits_on_context_iff (x : External) (tr : List (Regen × Regen.Act)) (s : Regen)
    (h : Run (regeneration x) tr s) :
    (∀ p ∈ tr, ¬p.1.WaitsOnNil p.2) ↔
      ∀ after t w before id, tr = after ++ (t, .stopped w) :: before → t.Awaits w id →
        Since (Launches x id) (CleansUp id) before := by
  constructor
  · rintro hnot after t w before id rfl hw
    refine (context_iff_since h.before.1 id).mp fun hnil => ?_
    exact hnot (t, .stopped w) (List.mem_append_right _ List.mem_cons_self) ⟨w, id, rfl, hw, hnil⟩
  · rintro hsince ⟨t, a⟩ hp ⟨w, id, rfl, hw, hnil⟩
    obtain ⟨after, before, rfl⟩ := List.append_of_mem hp
    exact (context_iff_since h.before.1 id).mpr (hsince after t w before id rfl hw) hnil

/-- A rule, and the same with another spec. -/
def ruleFor (gvk : GVK) : ResourceSyncRule := ⟨"rule", "", ⟨none, gvk, some [{}]⟩⟩

def configMaps : ResourceSyncRule := ruleFor ⟨"", "v1", "ConfigMap"⟩

def secretsToo : ResourceSyncRule := ruleFor ⟨"", "v1", "Secret"⟩

/-- The cluster is alive when the rule is added and when it changes. -/
def regenerated : List (Regen × Regen.Act) × Regen :=
  played (regeneration .bare) [] {}
    [.check (.ok "R") true, .loopEnd, .addController (newController configMaps "R"),
      .compare 0 secretsToo, .removeController 0, .stopped 0, .initNew 0 (.ok ())]

/-- The cluster dies, the controller cleans up, and then the rule changes. -/
def regeneratedDead : List (Regen × Regen.Act) × Regen :=
  played (regeneration .bare) [] {}
    [.check (.ok "R") true, .loopEnd, .addController (newController configMaps "R"),
      .goroutine 0 (.preCheck 0 true), .goroutine 0 (.doStart 0 .ok),
      .goroutine 0 (.cacheSync 0 true), .goroutine 0 (.reconcilerStart 0 true),
      .check (.error (.new "timeout")) true, .goroutine 0 (.ctrlReturned 0),
      .goroutine 0 (.cleanup 0), .compare 0 secretsToo, .removeController 0, .stopped 0]

theorem run_regenerated : Run (regeneration .bare) regenerated.1 regenerated.2 := by
  refine .plays (.init rfl) ?_
  refine ⟨⟨rfl, rfl⟩, ⟨rfl, rfl⟩, ⟨rfl, trivial⟩, ⟨rfl, rfl, 0, newController configMaps "R", ?_,
    rfl, by decide⟩, ⟨rfl, 0, secretsToo, ?_⟩, ⟨rfl, 0, secretsToo, ?_⟩,
    ⟨rfl, 0, 0, secretsToo, ?_, ?_⟩, trivial⟩
  · decide +kernel
  · rfl
  · rfl
  · rfl
  · exact .inl (by decide +kernel)

theorem waits_on_context_iff_regenerated :
    regenerated.2.controllers.lookup "rule" = some 1 ∧ (∀ p ∈ regenerated.1, ¬p.1.WaitsOnNil p.2) ∧
      Since (Launches .bare 0) (CleansUp 0) (regenerated.1.drop 2) := by
  have hnot : ∀ p ∈ regenerated.1, ¬p.1.WaitsOnNil p.2 := by
    simp only [List.forall_mem_cons, regenerated, played]
    refine ⟨?_, ?_, ?_, ?_, ?_, ?_, ?_, by simp⟩
    case refine_2 =>
      rintro ⟨w, id, e, ⟨sr, hw⟩, hnil⟩
      cases e
      cases hw
      cases hnil
    all_goals
      rintro ⟨w, id, e, -⟩
      cases e
  refine ⟨by decide +kernel, hnot, ?_⟩
  exact (waits_on_context_iff .bare regenerated.1 regenerated.2 run_regenerated).mp hnot [_] _ 0 _ 0
    rfl ⟨secretsToo, rfl⟩

theorem waits_on_nil_regeneratedDead :
    Run (regeneration .bare) regeneratedDead.1 regeneratedDead.2 ∧
      regeneratedDead.2.vitals.alive = false ∧
      ¬∀ p ∈ regeneratedDead.1, ¬p.1.WaitsOnNil p.2 := by
  refine ⟨.plays (.init rfl) ?_, by decide +kernel, fun h => ?_⟩
  · refine ⟨⟨rfl, rfl⟩, ⟨rfl, rfl⟩, ⟨rfl, trivial⟩, ⟨rfl, rfl, rfl⟩, ⟨rfl, rfl, rfl, .inr rfl⟩,
      ⟨rfl, rfl, rfl⟩, ⟨rfl, rfl, rfl⟩, ⟨rfl, rfl⟩, ⟨rfl, rfl, rfl, rfl⟩,
      ⟨rfl, rfl, 0, rfl, .inr (by decide +kernel)⟩,
      ⟨rfl, rfl, 0, newController configMaps "R", by decide +kernel, rfl, by decide⟩,
      ⟨rfl, 0, secretsToo, rfl⟩, ⟨rfl, 0, secretsToo, rfl⟩, trivial⟩
  · exact h _ List.mem_cons_self ⟨0, 0, rfl, ⟨secretsToo, rfl⟩, rfl⟩

end ClusterRegistry.Rules
