import ClusterRegistry.Lib.Run
import ClusterRegistry.Members.Dates

/-!
# When a condition last changed

Any number of calls of the two reconcilers for one resource, section by section and
in any interleaving, with users who change, delete and create the resource
meanwhile.
`transition_dated`: the stored time of the last transition of a condition is that
of the step which gave the condition its status.
-/

namespace ClusterRegistry.Members

open Lib Lib.Code

/-- The state, and what is left of the calls for the resource, with the times they began at. -/
structure Timeline where
  world : World
  running : Nat → Option (Nat × Proc Unit) := fun _ => none

namespace Timeline

inductive Act where
  /-- Users change, delete or create the resource; others do anything to the rest. -/
  | change (world : World)
  /-- A call begins; one of its number that is not over is cut off. -/
  | reconcile (k : Nat) (env : Env)
  | reconcileRemote (k : Nat) (env : RemoteEnv)
  /-- The next section of a call. -/
  | proceed (k : Nat)

section

variable (n : String) (s : Timeline)

def start (k now : Nat) (call : Proc Unit) : Timeline :=
  { s with running := Function.update s.running k (some (now, call)) }

def step : Act → Timeline
  | .change world => { s with world := world }
  | .reconcile k env => s.start k env.now (Members.reconcile env n)
  | .reconcileRemote k env => s.start k env.now (RemoteClusterReconciler.reconcile env n)
  | .proceed k =>
    match s.running k with
    | some (now, sect upd next) => { s with world := upd s.world }.start k now (next s.world)
    | _ => s

/-- The time that the step's call began at. -/
def time : Act → Option Nat
  | .proceed k => (s.running k).map Prod.fst
  | _ => none

/-- Users do not write the status. -/
def Allowed : Act → Prop
  | .change world => Moves n s.world world ∧ world.writes = s.world.writes ∧
      ∀ c, world.clusters.get n = some c → c.status.conditions = [] ∨
        ∃ c', s.world.clusters.get n = some c' ∧ c.status = c'.status
  | _ => True

/-- The condition that is stored. -/
def stored (t : ClusterConditionType) : Option ClusterCondition :=
  (s.world.clusters.get n).bind fun c => (getCurrentConditions c.status.conditions).lookup t

/-- The step changes the status of the condition, if only by adding or dropping it. -/
def Turns (t : ClusterConditionType) (a : Act) : Prop :=
  ((s.step n a).stored n t).map (·.status) ≠ (s.stored n t).map (·.status)

/-- No update was a retry. -/
def Calm : Prop := ∀ e ∈ s.world.writes, e.retried = false

/-- What is left of every call goes on as it should. -/
structure Sound : Prop where
  versioned : s.world.Versioned n
  running : ∀ k now m, s.running k = some (now, m) → DatingCall n now m s.world

end

end Timeline

/-- The two reconcilers at work on one resource; at first it has no conditions. -/
def timeline (n : String) : System Timeline Timeline.Act where
  init s := s.world.Versioned n ∧ s.world.writes = [] ∧ (∀ k, s.running k = none) ∧
    ∀ c, s.world.clusters.get n = some c → c.status.conditions = []
  ok _ s a := s.Allowed n a
  step s a := s.step n a

namespace Timeline

variable {n : String} {s : Timeline} {t : ClusterConditionType}

theorem Sound.start (h : s.Sound n) {k now : Nat} {m : Proc Unit}
    (hm : DatingCall n now m s.world) : (s.start k now m).Sound n := by
  refine ⟨h.versioned, fun k' now' m' hrun => ?_⟩
  have hrun : Function.update s.running k (some (now, m)) k' = some (now', m') := hrun
  rw [Function.update_apply] at hrun
  split at hrun
  · cases hrun
    exact hm
  · exact h.running k' now' m' hrun

theorem Sound.move (h : s.Sound n) {world : World} (hm : Moves n s.world world) :
    ({ s with world := world } : Timeline).Sound n := by
  refine ⟨hm.versioned h.versioned, fun k now m hrun => ?_⟩
  exact Ensures.others (R := fun _ : Unit => Moves n) (G := fun _ => Stamping n now)
    (P := fun _ _ _ => True) (k := ()) (fun _ _ _ => Moves.trans) (fun _ _ _ _ _ => trivial)
    (h.running k now m hrun) hm

/-- **One step** keeps the calls going, and a section dates what it stores. -/
theorem Sound.step (h : s.Sound n) {a : Act} (hok : s.Allowed n a) : (s.step n a).Sound n := by
  cases a with
  | change world => exact h.move hok.1
  | reconcile k env => exact h.start (dating_reconcile env h.versioned)
  | reconcileRemote k env => exact h.start (dating_remote env h.versioned)
  | proceed k =>
    unfold Timeline.step
    dsimp only
    split
    · next now upd next hrun =>
      obtain ⟨hstamping, hnext⟩ := h.running k now _ hrun s.world (moves_refl n _)
      exact (h.move hstamping.moves).start hnext
    · exact h

/-- What a section does, seen from outside. -/
theorem Sound.proceed (h : s.Sound n) (k : Nat) :
    s.step n (.proceed k) = s ∨ ∃ now, s.time (.proceed k) = some now ∧
      Stamping n now s.world (s.step n (.proceed k)).world := by
  cases hrun : s.running k with
  | none => exact .inl (by simp only [Timeline.step, hrun])
  | some p =>
    obtain ⟨now, m⟩ := p
    cases m with
    | ret u => exact .inl (by simp only [Timeline.step, hrun])
    | fail e => exact .inl (by simp only [Timeline.step, hrun])
    | sect upd next =>
      refine .inr ⟨now, by simp only [time, hrun, Option.map_some], ?_⟩
      simp only [Timeline.step, hrun]
      exact (h.running k now _ hrun s.world (moves_refl n _)).1

theorem stored_eq_some {cond : ClusterCondition} : s.stored n t = some cond ↔
    ∃ c, s.world.clusters.get n = some c ∧
      (getCurrentConditions c.status.conditions).lookup t = some cond := Option.bind_eq_some_iff

theorem stored_of_get {c : ClusterObject} (h : s.world.clusters.get n = some c) :
    s.stored n t = (getCurrentConditions c.status.conditions).lookup t := by
  unfold stored
  rw [h]
  rfl

theorem Sound.calm (h : s.Sound n) {a : Act} (hok : s.Allowed n a) (hcalm : (s.step n a).Calm) :
    s.Calm := by
  cases a with
  | change world => exact fun e he => hcalm e (hok.2.1 ▸ he)
  | reconcile k env => exact hcalm
  | reconcileRemote k env => exact hcalm
  | proceed k =>
    rcases h.proceed k with hsame | ⟨now, -, hstamping⟩
    · rwa [hsame] at hcalm
    · intro e he
      refine hcalm e ?_
      cases hstamping with
      | still hj =>
        rw [show (s.step n (.proceed k)).world.writes = s.world.writes from
          congrArg (fun j => j.2.2) hj]
        exact he
      | update e' cur hcur hget hrev hwrites =>
        rw [hwrites]
        exact List.mem_cons_of_mem _ he

/-- **One step**: a condition that is stored after it is the one that was stored before, with
its time, or has a new status and the time of the step. -/
theorem Sound.stored (h : s.Sound n) {a : Act} (hok : s.Allowed n a)
    (hcalm : (s.step n a).Calm) {cond : ClusterCondition}
    (hcond : (s.step n a).stored n t = some cond) :
    (∃ old, s.stored n t = some old ∧ old.status = cond.status ∧
      ∀ time, old.lastTransitionTime = some time → cond.lastTransitionTime = some time) ∨
    (s.stored n t).map (·.status) ≠ some cond.status ∧
      ∃ now, s.time a = some now ∧ cond.lastTransitionTime = some now := by
  have hkept : s.stored n t = some cond → ∃ old, s.stored n t = some old ∧
      old.status = cond.status ∧ ∀ time, old.lastTransitionTime = some time →
        cond.lastTransitionTime = some time := fun h => ⟨cond, h, rfl, fun _ htime => htime⟩
  cases a with
  | change world =>
    obtain ⟨c, hc, hlookup⟩ := stored_eq_some.mp hcond
    rcases hok.2.2 c hc with hnil | ⟨c', hc', hstatus⟩
    · rw [hnil] at hlookup
      simp [getCurrentConditions] at hlookup
    · exact .inl (hkept (stored_eq_some.mpr ⟨c', hc', hstatus ▸ hlookup⟩))
  | reconcile k env => exact .inl (hkept hcond)
  | reconcileRemote k env => exact .inl (hkept hcond)
  | proceed k =>
    rcases h.proceed k with hsame | ⟨now, htime, hstamping⟩
    · exact .inl (hkept (hsame ▸ hcond))
    · cases hstamping with
      | still hj =>
        have hclusters : (s.step n (.proceed k)).world.clusters = s.world.clusters :=
          congrArg Prod.fst hj
        obtain ⟨c, hc, hlookup⟩ := stored_eq_some.mp hcond
        exact .inl (hkept (stored_eq_some.mpr ⟨c, hclusters ▸ hc, hlookup⟩))
      | update e cur hcur hget hrev hwrites hstamped =>
        have hretried : e.retried = false := hcalm e (hwrites ▸ List.mem_cons_self ..)
        rw [stored_of_get hget] at hcond
        rw [stored_of_get hcur]
        rcases hstamped hretried t cond hcond with hold | ⟨hne, hnow⟩
        · exact .inl hold
        · exact .inr ⟨hne, now, htime, hnow⟩

/-- The time is that of the step which gave the condition its status. -/
def Dated (n : String) (t : ClusterConditionType) (time : Nat) (tr : List (Timeline × Act)) :
    Prop :=
  Since (fun s a => s.Turns n t a ∧ s.time a = some time) (fun s a => s.Turns n t a) tr

theorem dated_step {tr : List (Timeline × Act)} {a : Act} (h : s.Sound n) (hok : s.Allowed n a)
    (hdated : s.Calm → ∀ cond, s.stored n t = some cond →
      ∃ time, cond.lastTransitionTime = some time ∧ Dated n t time tr)
    (hcalm : (s.step n a).Calm) {cond : ClusterCondition}
    (hcond : (s.step n a).stored n t = some cond) :
    ∃ time, cond.lastTransitionTime = some time ∧ Dated n t time ((s, a) :: tr) := by
  rcases h.stored hok hcalm hcond with ⟨old, hold, hstatus, htime⟩ | ⟨hne, now, htime, hnow⟩
  · obtain ⟨time, hlast, hsince⟩ := hdated (h.calm hok hcalm) old hold
    refine ⟨time, htime time hlast, since_cons.mpr (.inr ⟨fun hturns => hturns ?_, hsince⟩)⟩
    rw [hcond, hold]
    exact congrArg some hstatus.symm
  · refine ⟨now, hnow, since_cons.mpr (.inl ⟨fun hsame => hne ?_, htime⟩)⟩
    rw [← hsame, hcond]
    rfl

/-- **Times tell when**: whatever calls of the two reconcilers and changes by users come
together, in any interleaving, the stored time of the last transition of a condition is
that of the step which gave the condition its status, as long as no update was a retry. -/
theorem transition_dated {tr : List (Timeline × Act)} (h : Run (timeline n) tr s)
    (hcalm : s.Calm) {cond : ClusterCondition} (hcond : s.stored n t = some cond) :
    ∃ time, cond.lastTransitionTime = some time ∧ Dated n t time tr := by
  have hrun : s.Sound n ∧ (s.Calm → ∀ cond, s.stored n t = some cond →
      ∃ time, cond.lastTransitionTime = some time ∧ Dated n t time tr) := by
    refine Run.history (P := fun tr s => s.Sound n ∧ (s.Calm → ∀ cond, s.stored n t = some cond →
      ∃ time, cond.lastTransitionTime = some time ∧ Dated n t time tr)) ?_ ?_ h
    · rintro s ⟨hversioned, -, hidle, hnew⟩
      refine ⟨⟨hversioned, fun k now m hrun => ?_⟩, fun _ cond hcond => ?_⟩
      · cases (hidle k).symm.trans hrun
      · obtain ⟨c, hc, hlookup⟩ := stored_eq_some.mp hcond
        rw [hnew c hc] at hlookup
        simp [getCurrentConditions] at hlookup
    · rintro tr s a - ⟨hsound, hdated⟩ hok
      exact ⟨hsound.step hok, fun hcalm cond => dated_step hsound hok hdated hcalm⟩
  exact hrun.2 hcalm cond hcond

/-- A peer that is not what it was taken for. -/
def mistaken (now : Nat) : RemoteEnv where
  now := now
  clusterID := .ok "other"
  clusterMetadata := .ok ""
  remoteClusters := .ok []

def far : ClusterObject := { name := "p", spec := { clusterID := "far" } }

/-- Two calls find so. -/
def foundTwice : List (Timeline × Act) × Timeline :=
  played (timeline "p") []
    { world := { kubeSystemUID := "home", clusters := Table.empty.put far } }
    [.reconcileRemote 0 (mistaken 5), .proceed 0, .proceed 0, .reconcileRemote 1 (mistaken 9),
      .proceed 1, .proceed 1]

theorem transition_dated_foundTwice : Dated "p" .clustersSynced 5 foundTwice.1 := by
  have hcond : (foundTwice.2.stored "p" .clustersSynced).map
      (fun c => (c.lastTransitionTime, c.lastHeartbeatTime)) = some (some 5, some 9) := by
    decide +kernel
  have hcalm : foundTwice.2.world.writes.all (fun e => !e.retried) = true := by decide +kernel
  obtain ⟨cond, hstored, htimes⟩ := Option.map_eq_some_iff.mp hcond
  have hrun : Run (timeline "p") foundTwice.1 foundTwice.2 := by
    refine .plays (.init ⟨?_, rfl, fun _ => rfl, ?_⟩) ⟨trivial, trivial, trivial, trivial, trivial,
      trivial, trivial⟩
    · intro c hc
      have hc : some _ = some c := hc
      cases hc
      exact Nat.le_refl 0
    · intro c hc
      have hc : some _ = some c := hc
      cases hc
      rfl
  obtain ⟨time, hlast, hdated⟩ := transition_dated hrun
    (fun e he => by simpa using List.all_eq_true.mp hcalm e he) hstored
  cases hlast.symm.trans (congrArg Prod.fst htimes)
  exact hdated

end Timeline

end ClusterRegistry.Members
