import ClusterRegistry.Lib.Run
import ClusterRegistry.Lib.Table

/-!
# Controllers that come and go while the manager starts

`StartManager` of `pkg/clusters/cluster.go` takes its steps without the lock of the
cluster: it makes a context, creates the manager, waits for its cache and then
goes over the controllers to start each of them. Meanwhile other goroutines add
and remove controllers. `addController` looks for a controller of that name in a
section of its own, and starts the new one itself if the manager is there by then;
`RemoveControllerByName` fetches the controller in one section, and stops it and
deletes the name in another.

No controller falls between the two places that start one
(`started_of_finished`). What can go wrong is the other way round: a controller
runs and the cluster has lost it. `leaked_iff` lists how.
-/

namespace ClusterRegistry.Clusters

open Lib

/-- Where `StartManager` is. The loop has names it has not come to, and a controller
it is about to start. -/
inductive StartPhase (ι : Type) where
  | idle
  /-- The context is set, and `ctrl.NewManager` is under way. -/
  | creating
  | failed
  /-- The manager is set, and `WaitForCacheSync` is under way. -/
  | syncing
  | looping (left : Finset String) (picked : Option ι)
  | finished

namespace StartPhase

variable {ι : Type}

def isManagerRunning : StartPhase ι → Bool
  | syncing | looping _ _ | finished => true
  | _ => false

/-- The loop has begun. -/
def begun : StartPhase ι → Bool
  | looping _ _ | finished => true
  | _ => false

def left : StartPhase ι → Finset String
  | looping left _ => left
  | _ => ∅

def picked : StartPhase ι → Option ι
  | looping _ picked => picked
  | _ => none

/-- An entry that is deleted before the loop has come to it is not produced, unless it
is made anew and the loop happens to come to that. -/
def forget (n : String) : StartPhase ι → StartPhase ι
  | looping left picked => looping (left.erase n) picked
  | p => p

@[simp] theorem begun_forget (p : StartPhase ι) (n : String) : (p.forget n).begun = p.begun := by
  cases p <;> rfl

@[simp] theorem left_forget (p : StartPhase ι) (n : String) :
    (p.forget n).left = p.left.erase n := by
  cases p <;> simp [forget, left]

@[simp] theorem picked_forget (p : StartPhase ι) (n : String) :
    (p.forget n).picked = p.picked := by
  cases p <;> rfl

theorem isManagerRunning_of_begun {p : StartPhase ι} (h : p.begun = true) :
    p.isManagerRunning = true := by
  cases p <;> first | rfl | cases h

end StartPhase

structure Starting (ι : Type) where
  controllers : Map String ι := ∅
  /-- The controllers that have a context: `Start` was called, and no `Stop` since. -/
  started : Finset ι := ∅
  phase : StartPhase ι := .idle

namespace Starting

inductive Act (ι : Type) where
  | startManager
  | newManager (ok : Bool)
  | cacheSynced
  | pick (name : String)
  | startPicked
  | finish
  /-- The last section of `addController`. -/
  | add (c : ι)
  /-- The last section of `RemoveControllerByName`, with what the one before has fetched. -/
  | remove (name : String) (fetched : Option ι)

variable {ι : Type} [DecidableEq ι] (name : ι → String)

/-- The loop has come to this name. -/
def pickName (s : Starting ι) (n : String) : Starting ι :=
  match s.phase with
  | .looping left _ => { s with phase := .looping (left.erase n) (s.controllers.lookup n) }
  | _ => s

/-- `Start`, which does nothing if there is a context. -/
def startPicked (s : Starting ι) : Starting ι :=
  match s.phase with
  | .looping left (some c) =>
    { s with phase := .looping left none, started := insert c s.started }
  | _ => s

def step (s : Starting ι) : Act ι → Starting ι
  | .startManager => { s with phase := .creating }
  | .newManager ok => { s with phase := if ok then .syncing else .failed }
  | .cacheSynced => { s with phase := .looping s.controllers.keys none }
  | .pick n => s.pickName n
  | .startPicked => s.startPicked
  | .finish => { s with phase := .finished }
  | .add c =>
    { s with
      controllers := s.controllers.insert (name c) c
      started := if s.phase.isManagerRunning then insert c s.started else s.started }
  | .remove _ none => s
  | .remove n (some c) =>
    { s with
      controllers := s.controllers.erase n
      started := s.started.erase c
      phase := s.phase.forget n }

/-- The reads of a call lie anywhere in the run so far. The loop visits the entries that
were there when it began and have not been deleted since, and perhaps later ones. -/
def Allowed (tr : List (Starting ι × Act ι)) (s : Starting ι) : Act ι → Prop
  | .startManager => s.phase = .idle
  | .newManager _ => s.phase = .creating
  | .cacheSynced => s.phase = .syncing
  | .pick n => n ∈ s.controllers ∧ ∃ left, s.phase = .looping left none
  | .startPicked => ∃ left c, s.phase = .looping left (some c)
  | .finish => s.phase = .looping ∅ none
  | .add c => ∃ t ∈ states tr s, t.controllers.lookup (name c) = none
  | .remove n fetched => ∃ t ∈ states tr s, t.controllers.lookup n = fetched

end Starting

/-- The cluster is new and its manager has not been started. -/
def starting {ι : Type} [DecidableEq ι] (name : ι → String) :
    System (Starting ι) (Starting.Act ι) where
  init s := s = {}
  ok := Starting.Allowed name
  step := Starting.step name

namespace Starting

section

variable {ι : Type}

theorem controllers_pickName (s : Starting ι) (n : String) :
    (s.pickName n).controllers = s.controllers := by
  unfold pickName
  split <;> rfl

theorem started_pickName (s : Starting ι) (n : String) : (s.pickName n).started = s.started := by
  unfold pickName
  split <;> rfl

end

variable {ι : Type} [DecidableEq ι] {name : ι → String} {s : Starting ι}
  {tr : List (Starting ι × Act ι)}

theorem controllers_startPicked (s : Starting ι) : s.startPicked.controllers = s.controllers := by
  unfold startPicked
  split <;> rfl

@[simp] theorem lookup_add (s : Starting ι) (c : ι) (n : String) :
    (s.step name (.add c)).controllers.lookup n =
      if n = name c then some c else s.controllers.lookup n :=
  Map.lookup_insert_if s.controllers (name c) n c

@[simp] theorem lookup_remove (s : Starting ι) (n : String) (c : ι) (m : String) :
    (s.step name (.remove n (some c))).controllers.lookup m =
      if m = n then none else s.controllers.lookup m :=
  Map.lookup_erase_if s.controllers n m

/-! ## Names -/

/-- Controllers are held under their names. -/
def Named (name : ι → String) (s : Starting ι) : Prop :=
  ∀ n c, s.controllers.lookup n = some c → name c = n

theorem Named.step (h : s.Named name) (a : Act ι) : (s.step name a).Named name := by
  cases a with
  | startManager | newManager | cacheSynced | finish => exact h
  | pick n =>
    unfold Named
    rw [show s.step name (.pick n) = s.pickName n from rfl, controllers_pickName]
    exact h
  | startPicked =>
    unfold Named
    rw [show s.step name .startPicked = s.startPicked from rfl, controllers_startPicked]
    exact h
  | add c =>
    intro n d hd
    rw [lookup_add] at hd
    split at hd
    · next e =>
      cases hd
      exact e.symm
    · exact h n d hd
  | remove n fetched =>
    cases fetched with
    | none => exact h
    | some c =>
      intro m d hd
      rw [lookup_remove] at hd
      split at hd
      · cases hd
      · exact h m d hd

theorem named_of_run (h : Run (starting name) tr s) : s.Named name := by
  refine h.invariant (P := Named name) (fun s hi => ?_) fun _ _ a _ hs _ => hs.step a
  cases hi
  exact fun n c hc => nomatch hc

/-- What a removal has fetched is a controller of that name. -/
theorem name_of_fetched (h : Run (starting name) tr s) {n : String} {c : ι}
    (ha : Allowed name tr s (.remove n (some c))) : name c = n := by
  obtain ⟨t, ht, hc⟩ := ha
  rcases mem_states.mp ht with rfl | ⟨a, hm⟩
  · exact named_of_run h n c hc
  · obtain ⟨tr', hr, -⟩ := h.of_mem hm
    exact named_of_run hr n c hc

/-! ## Every controller is started -/

/-- Once the loop has begun, a controller has been started or the loop still comes to it. -/
def Covered (s : Starting ι) : Prop :=
  s.phase.begun = true → ∀ n c, s.controllers.lookup n = some c →
    c ∈ s.started ∨ n ∈ s.phase.left ∨ s.phase.picked = some c

theorem Covered.step (hr : Run (starting name) tr s) (h : s.Covered) {a : Act ι}
    (ha : Allowed name tr s a) : (s.step name a).Covered := by
  cases a with
  | startManager => exact nofun
  | newManager ok => cases ok <;> exact nofun
  | cacheSynced =>
    intro _ n c hc
    exact .inr (.inl (Finmap.mem_keys.mpr (Finmap.mem_of_lookup_eq_some hc)))
  | pick n =>
    obtain ⟨-, left, hphase⟩ := ha
    intro _ m c hc
    rw [show s.step name (.pick n) = s.pickName n from rfl, controllers_pickName] at hc
    have hcov := h (by rw [hphase]; rfl) m c hc
    rw [hphase] at hcov
    simp only [Starting.step, pickName, hphase, StartPhase.left, StartPhase.picked]
    by_cases hm : m = n
    · exact .inr (.inr (hm ▸ hc))
    · rcases hcov with hs | hl | hp
      · exact .inl hs
      · exact .inr (.inl (Finset.mem_erase.mpr ⟨hm, hl⟩))
      · cases hp
  | startPicked =>
    obtain ⟨left, d, hphase⟩ := ha
    intro _ m c hc
    rw [show s.step name .startPicked = s.startPicked from rfl, controllers_startPicked] at hc
    have hcov := h (by rw [hphase]; rfl) m c hc
    rw [hphase] at hcov
    simp only [Starting.step, Starting.startPicked, hphase, StartPhase.left, StartPhase.picked]
    rcases hcov with hs | hl | hp
    · exact .inl (Finset.mem_insert_of_mem hs)
    · exact .inr (.inl hl)
    · cases hp
      exact .inl (Finset.mem_insert_self ..)
  | finish =>
    have hphase : s.phase = .looping ∅ none := ha
    intro _ m c hc
    rcases h (by rw [hphase]; rfl) m c hc with hs | hl | hp
    · exact .inl hs
    · rw [hphase] at hl
      exact absurd hl (Finset.notMem_empty m)
    · rw [hphase] at hp
      cases hp
  | add d =>
    intro hb m c hc
    have hb : s.phase.begun = true := hb
    rw [lookup_add] at hc
    show c ∈ (if s.phase.isManagerRunning then insert d s.started else s.started) ∨ _
    rw [if_pos (StartPhase.isManagerRunning_of_begun hb)]
    split at hc
    · cases hc
      exact .inl (Finset.mem_insert_self ..)
    · exact (h hb m c hc).imp_left Finset.mem_insert_of_mem
  | remove n fetched =>
    cases fetched with
    | none => exact h
    | some d =>
      intro hb m c hc
      have hb : s.phase.begun = true := (StartPhase.begun_forget s.phase n).symm.trans hb
      rw [lookup_remove] at hc
      split at hc
      · cases hc
      · next hm =>
        have hother : c ≠ d := by
          rintro rfl
          exact hm ((named_of_run hr m c hc).symm.trans (name_of_fetched hr ha))
        simp only [Starting.step, StartPhase.left_forget, StartPhase.picked_forget,
          Finset.mem_erase]
        exact (h hb m c hc).imp (⟨hother, ·⟩) (Or.imp_left (⟨hm, ·⟩))

/-- **No controller is missed**: when `StartManager` has gone through the controllers,
each controller of the cluster has been started, whatever was added and removed
in the meantime. -/
theorem started_of_finished (h : Run (starting name) tr s) (hf : s.phase = .finished) {n : String}
    {c : ι} (hc : s.controllers.lookup n = some c) : c ∈ s.started := by
  have hcov : s.Covered := by
    refine h.invariant (P := Covered) (fun s hi => ?_) fun _ _ _ hr hs ha => hs.step hr ha
    cases hi
    exact nofun
  rcases hcov (by rw [hf]; rfl) n c hc with hs | hl | hp
  · exact hs
  · rw [hf] at hl
    exact absurd hl (Finset.notMem_empty n)
  · rw [hf] at hp
    cases hp

/-- A controller is added while the manager is being created. -/
def addedMeanwhile : List (Starting String × Act String) × Starting String :=
  played (starting id) [] {}
    [.add "a", .startManager, .add "b", .newManager true, .cacheSynced, .pick "b", .startPicked,
      .add "c", .pick "a", .startPicked, .finish]

theorem started_of_finished_addedMeanwhile : addedMeanwhile.2.controllers.lookup "b" = some "b" ∧
    "b" ∈ addedMeanwhile.2.started := by
  have hrun : Run (starting id) addedMeanwhile.1 addedMeanwhile.2 := by
    refine .plays (.init rfl) ?_
    refine ⟨⟨_, List.mem_cons_self, rfl⟩, rfl, ⟨_, List.mem_cons_self, rfl⟩, rfl, rfl, ?_⟩
    refine ⟨⟨by decide, _, rfl⟩, ⟨_, _, rfl⟩, ⟨_, List.mem_cons_self, rfl⟩, ?_⟩
    exact ⟨⟨by decide, _, rfl⟩, ⟨_, _, rfl⟩, rfl, trivial⟩
  exact ⟨rfl, started_of_finished (n := "b") hrun rfl rfl⟩

/-! ## Controllers that the cluster has lost -/

section

variable (name : ι → String) (c : ι)

/-- The controller runs and the cluster does not have it. -/
def Leaked (s : Starting ι) : Prop :=
  c ∈ s.started ∧ s.controllers.lookup (name c) ≠ some c

/-- The loop starts the controller after its removal; or, while it runs, another one takes
its place or the name is deleted on behalf of another one. -/
def Loses (s : Starting ι) : Act ι → Prop
  | .startPicked => s.phase.picked = some c ∧ s.controllers.lookup (name c) ≠ some c
  | .add d => d ≠ c ∧ name d = name c ∧ c ∈ s.started ∧ s.controllers.lookup (name c) = some c
  | .remove n (some d) =>
    d ≠ c ∧ n = name c ∧ c ∈ s.started ∧ s.controllers.lookup (name c) = some c
  | _ => False

/-- The controller is added once more, or stopped. -/
def Regained (_ : Starting ι) : Act ι → Prop
  | .add d => d = c
  | .remove _ (some d) => d = c
  | _ => False

end

theorem leaked_startPicked (s : Starting ι) (c : ι) :
    s.startPicked.Leaked name c ↔ s.Loses name c .startPicked ∨ s.Leaked name c := by
  unfold Leaked Loses
  rw [controllers_startPicked, ← or_and_right]
  refine and_congr_left fun _ => ?_
  unfold startPicked
  cases s.phase with
  | looping left picked =>
    cases picked with
    | none => simp [StartPhase.picked]
    | some d => simp [StartPhase.picked, eq_comm]
  | idle | creating | failed | syncing | finished => simp [StartPhase.picked]

theorem leaked_step (c : ι) (a : Act ι) : (s.step name a).Leaked name c ↔
    s.Loses name c a ∨ ¬Regained c s a ∧ s.Leaked name c := by
  cases a with
  | startManager | newManager | cacheSynced | finish => simp [Loses, Regained, Leaked, step]
  | pick n =>
    unfold Leaked
    rw [show s.step name (.pick n) = s.pickName n from rfl, controllers_pickName,
      started_pickName]
    simp [Loses, Regained]
  | startPicked =>
    rw [show s.step name .startPicked = s.startPicked from rfl, leaked_startPicked]
    simp [Regained]
  | add d =>
    unfold Leaked Loses Regained
    rw [lookup_add]
    by_cases hd : d = c
    · simp [hd]
    · have hstarted : c ∈ (s.step name (.add d)).started ↔ c ∈ s.started := by
        simp only [step]
        split
        · simp [Ne.symm hd]
        · rfl
      rw [hstarted]
      by_cases hn : name d = name c
      · simp only [hn, if_true, Option.some.injEq, hd, not_false_eq_true, ne_eq, true_and]
        tauto
      · simp [hd, hn, Ne.symm hn]
  | remove n fetched =>
    cases fetched with
    | none => simp [Loses, Regained, Leaked, step]
    | some d =>
      unfold Leaked Loses Regained
      rw [lookup_remove]
      have hstarted : c ∈ (s.step name (.remove n (some d))).started ↔ c ≠ d ∧ c ∈ s.started :=
        Finset.mem_erase
      rw [hstarted]
      by_cases hd : d = c
      · simp [hd]
      · by_cases hn : n = name c
        · simp only [hn, if_true, hd, Ne.symm hd, not_false_eq_true, ne_eq, true_and,
            reduceCtorEq, and_true]
          tauto
        · simp [hd, hn, Ne.symm hn, Ne.symm hd]

/-- **Lost controllers**: a controller runs that the cluster does not have exactly if the
loop has started it after its removal, or it was overwritten or deleted in place
of another one of its name, and it has not been added or stopped since. -/
theorem leaked_iff (h : Run (starting name) tr s) (c : ι) :
    s.Leaked name c ↔ Since (Loses name c) (Regained c) tr := by
  refine h.since_iff (P := Leaked name c) (fun s hi hl => ?_) fun _ _ a _ _ => leaked_step c a
  cases hi
  exact absurd hl.1 (Finset.notMem_empty c)

/-- A rule is removed when the loop is about to start its controller. -/
def removedLate : List (Starting Nat × Act Nat) × Starting Nat :=
  played (starting fun _ => "rule") [] {}
    [.add 0, .startManager, .newManager true, .cacheSynced, .pick "rule", .remove "rule" (some 0),
      .startPicked]

theorem leaked_iff_removedLate : removedLate.2.Leaked (fun _ => "rule") 0 ∧
    Since (Loses (fun _ => "rule") 0) (Regained 0) removedLate.1 := by
  have hleaked : removedLate.2.Leaked (fun _ => "rule") 0 := ⟨by decide +kernel, nofun⟩
  refine ⟨hleaked, (leaked_iff (.plays (.init rfl) ?_) 0).mp hleaked⟩
  refine ⟨⟨_, List.mem_cons_self, rfl⟩, rfl, rfl, rfl, ⟨by decide, _, rfl⟩, ?_⟩
  exact ⟨⟨_, List.mem_cons_self, rfl⟩, ⟨_, _, rfl⟩, trivial⟩

end Starting

end ClusterRegistry.Clusters
