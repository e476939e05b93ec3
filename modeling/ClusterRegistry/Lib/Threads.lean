import Mathlib.Logic.Function.Basic

/-!
# Threads of atomic sections

A `Prog` is a sequence of atomic sections on a shared state, each of which
decides from what it saw how to go on. Between two sections other threads may
change the state; `Within v Q p s` says that as long as they leave the view
`v` alone, `p` returns with the view in `Q`, if it does not panic.

Threads work on keys: `jobs i = some (k, p)` says thread `i` is in the middle
of the program `p` for the key `k`. `Owned` is the invariant of a key that is
worked on by one thread at a time, with the rules for a section, for the start
of a job, and for everything that happens elsewhere.
-/

namespace Lib

inductive Prog (σ : Type) where
  | ret
  | panic
  | sect (upd : σ → σ) (next : σ → Prog σ)

namespace Prog

variable {σ β : Type}

/-- A section that only reads. -/
def read (next : σ → Prog σ) : Prog σ := sect id next

def write (upd : σ → σ) (p : Prog σ) : Prog σ := sect upd fun _ => p

/-- The state after the program, run alone. -/
def run : Prog σ → σ → Option σ
  | ret, s => some s
  | panic, _ => none
  | sect upd next, s => (next s).run (upd s)

@[simp] theorem run_read (next : σ → Prog σ) (s : σ) : (read next).run s = (next s).run s := rfl

@[simp] theorem run_write (upd : σ → σ) (p : Prog σ) (s : σ) :
    (write upd p).run s = p.run (upd s) := rfl

/-- As long as the others keep the view, the program returns with the view in `Q`, if it
returns. -/
def Within (v : σ → β) (Q : β → Prop) : Prog σ → σ → Prop
  | ret, s => Q (v s)
  | panic, _ => True
  | sect upd next, s => ∀ s', v s' = v s → Within v Q (next s') (upd s')

/-- Every section of the program, run where `I` holds, satisfies `G`. -/
def Guarantees (I : σ → Prop) (G : σ → σ → Prop) : Prog σ → Prop
  | ret => True
  | panic => True
  | sect upd next => ∀ s, I s → G s (upd s) ∧ (next s).Guarantees I G

section

variable {v : σ → β} {Q : β → Prop} {s s' : σ}

theorem Within.congr {p : Prog σ} (h : p.Within v Q s) (hv : v s' = v s) : p.Within v Q s' := by
  cases p with
  | ret => unfold Within at h ⊢; rw [hv]; exact h
  | panic => exact h
  | sect upd next => exact fun t ht => h t (ht.trans hv)

theorem Within.mono {Q' : β → Prop} {p : Prog σ} (h : p.Within v Q s) (hQ : ∀ b, Q b → Q' b) :
    p.Within v Q' s := by
  induction p generalizing s with
  | ret => exact hQ _ h
  | panic => exact h
  | sect upd next ih => exact fun t ht => ih t (h t ht)

theorem within_ret (h : Q (v s)) : ret.Within v Q s := h

theorem within_read {next : σ → Prog σ}
    (h : ∀ t, v t = v s → (next t).Within v Q t) : (read next).Within v Q s := h

theorem within_write {upd : σ → σ} {p : Prog σ}
    (h : ∀ t, v t = v s → p.Within v Q (upd t)) : (write upd p).Within v Q s := h

end

section

variable {I : σ → Prop} {G : σ → σ → Prop}

theorem guarantees_read (hG : ∀ s, I s → G s s) {next : σ → Prog σ}
    (h : ∀ s, I s → (next s).Guarantees I G) : (read next).Guarantees I G :=
  fun s hs => ⟨hG s hs, h s hs⟩

theorem guarantees_write {upd : σ → σ} (hG : ∀ s, I s → G s (upd s)) {p : Prog σ}
    (h : p.Guarantees I G) : (write upd p).Guarantees I G :=
  fun s hs => ⟨hG s hs, h⟩

end

/-- What is left of a job: nothing once the program has returned. -/
def job {κ : Type} (k : κ) : Prog σ → Option (κ × Prog σ)
  | ret => none
  | p => some (k, p)

theorem job_eq_some {κ : Type} {k k' : κ} {p q : Prog σ} (h : p.job k = some (k', q)) :
    k' = k ∧ q = p := by
  cases p with
  | ret => cases h
  | panic => cases h; exact ⟨rfl, rfl⟩
  | sect upd next => cases h; exact ⟨rfl, rfl⟩

end Prog

/-! ## A key worked on by one thread at a time -/

section owned

variable {ι κ σ β : Type} {v : σ → β} {Q : β → Prop} {k : κ}
  {jobs : ι → Option (κ × Prog σ)} {s s' : σ}

/-- At most one thread works on `k`; it ends in `Q`, or `Q` holds already. -/
structure Owned (v : σ → β) (Q : β → Prop) (k : κ) (jobs : ι → Option (κ × Prog σ)) (s : σ) :
    Prop where
  one : ∀ i j p q, jobs i = some (k, p) → jobs j = some (k, q) → i = j
  working : ∀ i p, jobs i = some (k, p) → p.Within v Q s
  free : (∀ i p, jobs i ≠ some (k, p)) → Q (v s)

/-- A step that keeps the view and does not touch jobs on `k`. -/
theorem Owned.frame {jobs' : ι → Option (κ × Prog σ)} (h : Owned v Q k jobs s)
    (hv : v s' = v s) (hj : ∀ i p, jobs' i = some (k, p) ↔ jobs i = some (k, p)) :
    Owned v Q k jobs' s' where
  one i j p q hi hq := h.one i j p q ((hj i p).mp hi) ((hj j q).mp hq)
  working i p hi := (h.working i p ((hj i p).mp hi)).congr hv
  free hf := by rw [hv]; exact h.free fun i p => mt (hj i p).mpr (hf i p)

variable [DecidableEq ι]

/-- A thread begins to work on `k` when no other does. -/
theorem Owned.begin {i : ι} {p : Prog σ} (hfree : ∀ i p, jobs i ≠ some (k, p))
    (hp : p.Within v Q s) : Owned v Q k (Function.update jobs i (some (k, p))) s where
  one j j' q q' hj hj' := by
    have only : ∀ l r, Function.update jobs i (some (k, p)) l = some (k, r) → l = i := by
      intro l r hl
      by_contra e
      rw [Function.update_of_ne e] at hl
      exact hfree l r hl
    rw [only j q hj, only j' q' hj']
  working j q hj := by
    by_cases e : j = i
    · rw [e, Function.update_self] at hj; cases hj; exact hp
    · rw [Function.update_of_ne e] at hj; exact absurd hj (hfree j q)
  free hf := absurd (Function.update_self i _ jobs) (hf i p)

/-- A free thread begins to work on another key. -/
theorem Owned.beginElsewhere {i : ι} {k' : κ} {p : Prog σ} (h : Owned v Q k jobs s)
    (hi : jobs i = none) (hk : k' ≠ k) :
    Owned v Q k (Function.update jobs i (some (k', p))) s := by
  refine h.frame rfl fun j q => ?_
  by_cases e : j = i
  · rw [e, Function.update_self, hi]
    exact ⟨fun hj => by cases hj; exact absurd rfl hk, fun hj => by cases hj⟩
  · rw [Function.update_of_ne e]

/-- The thread that works on `k` runs its next section. -/
theorem Owned.sect {i : ι} {upd : σ → σ} {next : σ → Prog σ} (h : Owned v Q k jobs s)
    (hi : jobs i = some (k, .sect upd next)) :
    Owned v Q k (Function.update jobs i ((next s).job k)) (upd s) := by
  have hw : (next s).Within v Q (upd s) := h.working i _ hi s rfl
  have only : ∀ j p, Function.update jobs i ((next s).job k) j = some (k, p) →
      j = i ∧ p = next s := by
    intro j p hj
    by_cases e : j = i
    · rw [e, Function.update_self] at hj; exact ⟨e, (Prog.job_eq_some hj).2⟩
    · rw [Function.update_of_ne e] at hj; exact absurd (h.one j i _ _ hj hi) e
  refine ⟨fun j j' p q hj hj' => (only j p hj).1.trans (only j' q hj').1.symm,
    fun j p hj => (only j p hj).2 ▸ hw, fun hf => ?_⟩
  have hjob : Function.update jobs i ((next s).job k) i = (next s).job k :=
    Function.update_self i _ jobs
  cases hn : next s with
  | ret => rw [hn] at hw; exact hw
  | panic => rw [hn] at hf hjob; exact absurd hjob (hf i _)
  | sect u n => rw [hn] at hf hjob; exact absurd hjob (hf i _)

/-- A thread that works elsewhere, and keeps the view, runs its next section. -/
theorem Owned.elsewhere {i : ι} {k' : κ} {upd : σ → σ} {next : σ → Prog σ}
    (h : Owned v Q k jobs s) (hi : jobs i = some (k', .sect upd next)) (hk : k ≠ k')
    (hv : v (upd s) = v s) :
    Owned v Q k (Function.update jobs i ((next s).job k')) (upd s) := by
  refine h.frame hv fun j p => ?_
  by_cases e : j = i
  · rw [e, Function.update_self, hi]
    refine ⟨fun hj => absurd (Prog.job_eq_some hj).1 hk, fun hj => ?_⟩
    cases hj; exact absurd rfl hk
  · rw [Function.update_of_ne e]

end owned

end Lib
