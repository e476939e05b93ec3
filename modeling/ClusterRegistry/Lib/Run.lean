import Mathlib.Logic.Basic

/-!
# Runs of a system that may look back

A `System` has initial states, a step function on actions, and a guard that
says which actions are allowed; the guard sees the run so far, so that a
lagging read ("some version the store held earlier") is an ordinary action.
`Run S tr s` says that `s` is reached and `tr` lists the states left behind
with the action taken there, newest first.

`Run.invariant` and `Run.history` are the induction rules; `Run.always` carries
an invariant through the runs whose steps satisfy a condition, and
`Run.good_iff` turns an exact condition for one step into the exact condition
for a run. `Run.since_iff` reads a flag off the steps taken: it is set if a step
has set it and none has reset it since. `Run.project` takes a run of many parts to the
run of one of them.
-/

namespace Lib

structure System (σ α : Type) where
  init : σ → Prop
  /-- The action is allowed in the state, after the run so far. -/
  ok : List (σ × α) → σ → α → Prop
  step : σ → α → σ

variable {σ α : Type}

inductive Run (S : System σ α) : List (σ × α) → σ → Prop where
  | init {s : σ} : S.init s → Run S [] s
  | step {tr : List (σ × α)} {s : σ} (a : α) : Run S tr s → S.ok tr s a →
      Run S ((s, a) :: tr) (S.step s a)

/-- The states of a run: the last one and those passed before it. -/
def states (tr : List (σ × α)) (s : σ) : List σ := s :: tr.map Prod.fst

theorem mem_states {tr : List (σ × α)} {s t : σ} :
    t ∈ states tr s ↔ t = s ∨ ∃ a, (t, a) ∈ tr := by
  simp [states]

theorem states_step (tr : List (σ × α)) (s s' : σ) (a : α) :
    states ((s, a) :: tr) s' = s' :: states tr s := rfl

/-- Every action of the list is allowed when its turn comes. -/
def Plays (S : System σ α) : List (σ × α) → σ → List α → Prop
  | _, _, [] => True
  | tr, s, a :: l => S.ok tr s a ∧ Plays S ((s, a) :: tr) (S.step s a) l

instance Plays.decidable (S : System σ α) [∀ tr s a, Decidable (S.ok tr s a)]
    (tr : List (σ × α)) (s : σ) : (l : List α) → Decidable (Plays S tr s l)
  | [] => .isTrue trivial
  | a :: l =>
    have := Plays.decidable S ((s, a) :: tr) (S.step s a) l
    inferInstanceAs (Decidable (_ ∧ _))

theorem plays_of_ok {S : System σ α} (hok : ∀ tr s a, S.ok tr s a) :
    ∀ (tr : List (σ × α)) (s : σ) (l : List α), Plays S tr s l
  | _, _, [] => trivial
  | tr, s, a :: l => ⟨hok tr s a, plays_of_ok hok _ _ l⟩

/-- The trace and the state that a list of actions leads to. -/
def played (S : System σ α) : List (σ × α) → σ → List α → List (σ × α) × σ
  | tr, s, [] => (tr, s)
  | tr, s, a :: l => played S ((s, a) :: tr) (S.step s a) l

theorem forall_mem_played {S : System σ α} {C : α → Prop} {tr : List (σ × α)} {s : σ} {l : List α}
    (htr : ∀ p ∈ tr, C p.2) (hl : ∀ a ∈ l, C a) : ∀ p ∈ (played S tr s l).1, C p.2 := by
  induction l generalizing tr s with
  | nil => exact htr
  | cons a l ih =>
    obtain ⟨ha, hl⟩ := List.forall_mem_cons.mp hl
    exact ih (List.forall_mem_cons.mpr ⟨ha, htr⟩) hl

/-- Some step of the run was one of `L`, and none after it was one of `C`. -/
def Since (L C : σ → α → Prop) (tr : List (σ × α)) : Prop :=
  ∃ after s a before, tr = after ++ (s, a) :: before ∧ L s a ∧ ∀ p ∈ after, ¬C p.1 p.2

theorem since_cons {L C : σ → α → Prop} {s : σ} {a : α} {tr : List (σ × α)} :
    Since L C ((s, a) :: tr) ↔ L s a ∨ ¬C s a ∧ Since L C tr := by
  constructor
  · rintro ⟨after, t, b, before, htr, hL, hC⟩
    cases after with
    | nil => cases htr; exact .inl hL
    | cons p after =>
      cases htr
      obtain ⟨hp, hafter⟩ := List.forall_mem_cons.mp hC
      exact .inr ⟨hp, after, t, b, before, rfl, hL, hafter⟩
  · rintro (hL | ⟨hn, after, t, b, before, rfl, hL, hC⟩)
    · exact ⟨[], s, a, tr, rfl, hL, nofun⟩
    · exact ⟨(s, a) :: after, t, b, before, rfl, hL, List.forall_mem_cons.mpr ⟨hn, hC⟩⟩

/-- The step is taken if there is one, and otherwise nothing changes. -/
def System.Takes (S : System σ α) (tr : List (σ × α)) (s : σ) : Option α → σ → Prop
  | none, s' => s' = s
  | some a, s' => S.ok tr s a ∧ s' = S.step s a

/-- The steps of a run as a part of the system makes them: those that it takes part in. -/
def projected {τ β : Type} (view : σ → τ) (move : σ → α → Option β) (tr : List (σ × α)) :
    List (τ × β) :=
  tr.filterMap fun p => (move p.1 p.2).map (view p.1, ·)

namespace Run

variable {S : System σ α} {tr : List (σ × α)} {s : σ}

/-- **Run rule**: a property of the run so far that every allowed step keeps. -/
theorem history {P : List (σ × α) → σ → Prop} (h0 : ∀ s, S.init s → P [] s)
    (hstep : ∀ tr s a, Run S tr s → P tr s → S.ok tr s a → P ((s, a) :: tr) (S.step s a))
    (h : Run S tr s) : P tr s := by
  induction h with
  | init hi => exact h0 _ hi
  | step a hr hok ih => exact hstep _ _ a hr ih hok

/-- **Invariant rule**: a property of states that every allowed step keeps. -/
theorem invariant {P : σ → Prop} (h0 : ∀ s, S.init s → P s)
    (hstep : ∀ tr s a, Run S tr s → P s → S.ok tr s a → P (S.step s a))
    (h : Run S tr s) : P s :=
  history (P := fun _ s => P s) h0 hstep h

/-- A run up to one of its steps. -/
theorem before {after before : List (σ × α)} {t : σ} {a : α}
    (h : Run S (after ++ (t, a) :: before) s) : Run S before t ∧ S.ok before t a := by
  induction after generalizing s with
  | nil =>
    cases h with
    | step _ hr hok => exact ⟨hr, hok⟩
  | cons p after ih =>
    cases h with
    | step _ hr hok => exact ih hr

/-- Every step of a run was allowed where it was taken. -/
theorem of_mem {t : σ} {a : α} (h : Run S tr s) (hm : (t, a) ∈ tr) :
    ∃ tr', Run S tr' t ∧ S.ok tr' t a := by
  obtain ⟨after, before, rfl⟩ := List.append_of_mem hm
  exact ⟨before, h.before⟩

theorem plays {l : List α} (h : Run S tr s) (hl : Plays S tr s l) :
    Run S (played S tr s l).1 (played S tr s l).2 := by
  induction l generalizing tr s with
  | nil => exact h
  | cons a l ih => exact ih (.step a h hl.1) hl.2

/-- **Conditional invariant rule**: if `C` makes a step keep `G`, all states of a
run whose steps satisfy `C` are good. -/
theorem always {G : σ → Prop} {C : σ → α → Prop} (h0 : ∀ s, S.init s → G s)
    (hstep : ∀ tr s a, Run S tr s → G s → S.ok tr s a → C s a → G (S.step s a))
    (h : Run S tr s) (hc : ∀ p ∈ tr, C p.1 p.2) : ∀ t ∈ states tr s, G t := by
  induction h with
  | init hi => simpa [states] using h0 _ hi
  | @step tr s a hr hok ih =>
    have hold := ih fun p hp => hc p (List.mem_cons_of_mem _ hp)
    intro t ht
    rcases List.mem_cons.mp ht with rfl | ht
    · exact hstep tr s a hr (hold s List.mem_cons_self) hok (hc _ List.mem_cons_self)
    · exact hold t ht

/-- **Exact condition of a run**: if, from a good state, a step leads to a
good state exactly when `C` holds of it, then all states of a run are good
exactly when `C` holds of all its steps. -/
theorem good_iff {G : σ → Prop} {C : σ → α → Prop} (h0 : ∀ s, S.init s → G s)
    (hstep : ∀ tr s a, Run S tr s → G s → S.ok tr s a → (G (S.step s a) ↔ C s a))
    (h : Run S tr s) :
    (∀ t ∈ states tr s, G t) ↔ ∀ p ∈ tr, C p.1 p.2 := by
  induction h with
  | init hi => simpa [states] using h0 _ hi
  | @step tr s a hr hok ih =>
    rw [states_step]
    constructor
    · intro hg p hp
      have hold : ∀ t ∈ states tr s, G t := fun t ht => hg t (List.mem_cons_of_mem _ ht)
      rcases List.mem_cons.mp hp with rfl | hp
      · exact (hstep tr s a hr (hold s List.mem_cons_self) hok).mp (hg _ List.mem_cons_self)
      · exact ih.mp hold p hp
    · intro hc t ht
      have hold := ih.mpr fun p hp => hc p (List.mem_cons_of_mem _ hp)
      rcases List.mem_cons.mp ht with rfl | ht
      · exact (hstep tr s a hr (hold s List.mem_cons_self) hok).mpr (hc _ List.mem_cons_self)
      · exact hold t ht

/-- **Conditional flag rule**: what the steps of `L` set and those of `C` reset, as long as
`D` holds of the steps of a run, holds exactly if it was set and not reset since. -/
theorem since_iff_of {P : σ → Prop} {L C D : σ → α → Prop} (h0 : ∀ s, S.init s → ¬P s)
    (hstep : ∀ tr s a, Run S tr s → S.ok tr s a → D s a →
      (P (S.step s a) ↔ L s a ∨ ¬C s a ∧ P s))
    (h : Run S tr s) (hd : ∀ p ∈ tr, D p.1 p.2) : P s ↔ Since L C tr := by
  induction h with
  | init hi =>
    refine iff_of_false (h0 _ hi) ?_
    rintro ⟨after, _, _, _, htr, -⟩
    cases after <;> cases htr
  | step a hr hok ih =>
    obtain ⟨hda, hd⟩ := List.forall_mem_cons.mp hd
    rw [hstep _ _ a hr hok hda, since_cons, ih hd]

/-- **Flag rule**: what the steps of `L` set and those of `C` reset holds exactly if
it was set and not reset since. -/
theorem since_iff {P : σ → Prop} {L C : σ → α → Prop} (h0 : ∀ s, S.init s → ¬P s)
    (hstep : ∀ tr s a, Run S tr s → S.ok tr s a → (P (S.step s a) ↔ L s a ∨ ¬C s a ∧ P s))
    (h : Run S tr s) : P s ↔ Since L C tr :=
  since_iff_of (D := fun _ _ => True) h0 (fun tr s a hr hok _ => hstep tr s a hr hok) h
    fun _ _ => trivial

/-- **Projection rule**: a part that takes every step, or stays as it is, has a run of its
own. -/
theorem project {τ β : Type} {T : System τ β} {view : σ → τ} {move : σ → α → Option β}
    (h0 : ∀ s, S.init s → T.init (view s))
    (hstep : ∀ tr s a, S.ok tr s a →
      T.Takes (projected view move tr) (view s) (move s a) (view (S.step s a)))
    (h : Run S tr s) : Run T (projected view move tr) (view s) := by
  induction h with
  | init hi => exact .init (h0 _ hi)
  | @step tr s a _ hok ih =>
    have htakes := hstep tr s a hok
    unfold projected
    rw [List.filterMap_cons]
    cases hb : move s a with
    | none =>
      rw [hb] at htakes
      rw [htakes]
      exact ih
    | some b =>
      rw [hb] at htakes
      obtain ⟨hok', hview⟩ := htakes
      rw [hview]
      exact .step b ih hok'

end Run

end Lib
