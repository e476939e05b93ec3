import ClusterRegistry.Lib.Effect
import Mathlib.Logic.Function.Basic

/-!
# Calls as sequences of atomic sections

`Code σ ε α` is a call that returns a value or an error after a number of
atomic sections on a shared state, each of which decides from what it saw how
to go on. Run alone it is an `Eff`. With other threads in between,
`Ensures R G P c s` says: from `s`, as long as the others change the state
within `R`, every section of the call stays within `G`, and the call ends in a
result and a state that satisfy `P`.

Threads work on keys, one at a time on a key. `Sound` is the invariant of a
pool of such threads in which a section on one key stays within what the
threads on other keys rely on. Where what a thread relies on is that its own
view of the state stays the same, `Sees v k A c Q` is a triple on that view, and
reasoning is sequential.
-/

namespace Lib

inductive Code (σ ε α : Type) where
  | ret (a : α)
  | fail (e : ε)
  | sect (upd : σ → σ) (next : σ → Code σ ε α)

namespace Code

variable {σ ε α β : Type}

protected def bind : Code σ ε α → (α → Code σ ε β) → Code σ ε β
  | ret a, f => f a
  | fail e, _ => fail e
  | sect upd next, f => sect upd fun s => (next s).bind f

instance : Monad (Code σ ε) where
  pure := ret
  bind := Code.bind

def ofExcept : Except ε α → Code σ ε α
  | .ok a => ret a
  | .error e => fail e

/-- A section that only reads. -/
def read (f : σ → α) : Code σ ε α := sect id fun s => ret (f s)

def write (f : σ → σ) : Code σ ε Unit := sect f fun _ => ret ()

/-- A whole call as one section. -/
def atomic (m : Eff σ ε α) : Code σ ε α := sect (fun s => (m s).2) fun s => ofExcept (m s).1

/-- The call with its error as a value, for the caller to look at. -/
def attempt {ε' : Type} : Code σ ε α → Code σ ε' (Except ε α)
  | ret a => ret (.ok a)
  | fail e => ret (.error e)
  | sect upd next => sect upd fun s => (next s).attempt

def mapError {ε' : Type} (g : ε → ε') : Code σ ε α → Code σ ε' α
  | ret a => ret a
  | fail e => fail (g e)
  | sect upd next => sect upd fun s => (next s).mapError g

/-! ## Run alone -/

def run : Code σ ε α → Eff σ ε α
  | ret a => Pure.pure a
  | fail e => Eff.throw e
  | sect upd next => fun s => (next s).run (upd s)

section

variable {ε' : Type} {s t : σ}

theorem run_ofExcept (r : Except ε α) (s : σ) : (ofExcept r : Code σ ε α).run s = (r, s) := by
  cases r <;> rfl

theorem run_atomic (m : Eff σ ε α) (s : σ) : (atomic m).run s = m s := run_ofExcept (m s).1 (m s).2

theorem run_bind (m : Code σ ε α) (f : α → Code σ ε β) (s : σ) :
    (m >>= f).run s = (m.run >>= fun a => (f a).run) s := by
  induction m generalizing s with
  | ret a => rfl
  | fail e => rfl
  | sect upd next ih => exact ih s (upd s)

theorem run_bind_ok {m : Code σ ε α} {a : α} (h : m.run s = (.ok a, t)) (f : α → Code σ ε β) :
    (m >>= f).run s = (f a).run t := by
  rw [run_bind, Eff.bind_of_ok h]

theorem run_read_bind (f : σ → α) (g : α → Code σ ε β) (s : σ) :
    (read f >>= g).run s = (g (f s)).run s := rfl

theorem run_bind_error {m : Code σ ε α} {e : ε} (h : m.run s = (.error e, t))
    (f : α → Code σ ε β) : (m >>= f).run s = (.error e, t) := by
  rw [run_bind, Eff.bind_of_error h]

theorem run_bind_congr {m m' : Code σ ε α} (h : m.run s = m'.run s) (f : α → Code σ ε β) :
    (m >>= f).run s = (m' >>= f).run s := by
  rcases hrun : m'.run s with ⟨e | a, t⟩
  · rw [run_bind_error hrun, run_bind_error (h.trans hrun)]
  · rw [run_bind_ok hrun, run_bind_ok (h.trans hrun)]

theorem run_attempt (m : Code σ ε α) (s : σ) :
    (m.attempt : Code σ ε' (Except ε α)).run s = (.ok (m.run s).1, (m.run s).2) := by
  induction m generalizing s with
  | ret a => rfl
  | fail e => rfl
  | sect upd next ih => exact ih s (upd s)

theorem run_attempt_bind {m : Code σ ε' α} {r : Except ε' α} (h : m.run s = (r, t))
    (f : Except ε' α → Code σ ε β) : (m.attempt >>= f).run s = (f r).run t := by
  refine run_bind_ok ?_ f
  rw [run_attempt, h]

theorem run_mapError (g : ε → ε') (m : Code σ ε α) (s : σ) :
    (m.mapError g).run s = ((m.run s).1.mapError g, (m.run s).2) := by
  induction m generalizing s with
  | ret a => rfl
  | fail e => rfl
  | sect upd next ih => exact ih s (upd s)

end

/-! ## With others in between -/

/-- As long as the others stay within `R`, every section stays within `G` and
the call ends in `P`. -/
def Ensures (R G : σ → σ → Prop) (P : Except ε α → σ → Prop) : Code σ ε α → σ → Prop
  | ret a, s => P (.ok a) s
  | fail e, s => P (.error e) s
  | sect upd next, s => ∀ t, R s t → G t (upd t) ∧ Ensures R G P (next t) (upd t)

section

variable {ε' : Type} {R G : σ → σ → Prop} {P : Except ε β → σ → Prop} {s : σ}

theorem Ensures.mono {m : Code σ ε β} {Q : Except ε β → σ → Prop} (h : m.Ensures R G P s)
    (hPQ : ∀ r t, P r t → Q r t) : m.Ensures R G Q s := by
  induction m generalizing s with
  | ret a => exact hPQ _ _ h
  | fail e => exact hPQ _ _ h
  | sect upd next ih => exact fun t ht => ⟨(h t ht).1, ih t (h t ht).2⟩

theorem Ensures.bind {Q : Except ε α → σ → Prop} {m : Code σ ε α} {f : α → Code σ ε β}
    (hm : m.Ensures R G Q s) (herr : ∀ e t, Q (.error e) t → P (.error e) t)
    (hok : ∀ a t, Q (.ok a) t → (f a).Ensures R G P t) : (m >>= f).Ensures R G P s := by
  induction m generalizing s with
  | ret a => exact hok a s hm
  | fail e => exact herr e s hm
  | sect upd next ih => exact fun t ht => ⟨(hm t ht).1, ih t (hm t ht).2⟩

theorem Ensures.attempt {m : Code σ ε' α} {P : Except ε (Except ε' α) → σ → Prop}
    (h : m.Ensures R G (fun r t => P (.ok r) t) s) : (m.attempt).Ensures R G P s := by
  induction m generalizing s with
  | ret a => exact h
  | fail e => exact h
  | sect upd next ih => exact fun t ht => ⟨(h t ht).1, ih t (h t ht).2⟩

theorem Ensures.mapError {g : ε' → ε} {m : Code σ ε' β}
    (h : m.Ensures R G (fun r t => match r with
      | .ok b => P (.ok b) t
      | .error e => P (.error (g e)) t) s) : (m.mapError g).Ensures R G P s := by
  induction m generalizing s with
  | ret a => exact h
  | fail e => exact h
  | sect upd next ih => exact fun t ht => ⟨(h t ht).1, ih t (h t ht).2⟩

/-- An attempt does not fail. -/
theorem Ensures.bindAttempt {Q : Except ε' α → σ → Prop} {m : Code σ ε' α}
    {f : Except ε' α → Code σ ε β} (hm : m.Ensures R G Q s)
    (hok : ∀ r t, Q r t → (f r).Ensures R G P t) : (m.attempt >>= f).Ensures R G P s := by
  induction m generalizing s with
  | ret a => exact hok _ s hm
  | fail e => exact hok _ s hm
  | sect upd next ih => exact fun t ht => ⟨(hm t ht).1, ih t (hm t ht).2⟩

/-- Run alone. -/
theorem Ensures.ends {m : Code σ ε β} (h : m.Ensures R G P s) (hR : ∀ s, R s s) :
    Eff.Ends m.run P s := by
  induction m generalizing s with
  | ret a => exact h
  | fail e => exact h
  | sect upd next ih => exact ih s (h s (hR s)).2

theorem ensures_ofExcept {r : Except ε β} (h : P r s) : (ofExcept r).Ensures R G P s := by
  cases r <;> exact h

theorem ensures_atomic {m : Eff σ ε β}
    (h : ∀ t, R s t → G t (m t).2 ∧ P (m t).1 (m t).2) : (atomic m).Ensures R G P s :=
  fun t ht => ⟨(h t ht).1, ensures_ofExcept (h t ht).2⟩

end

/-! ## Threads on keys -/

section threads

variable {ι κ : Type}

/-- What is left of a job: nothing once the call has returned. -/
def left (k : κ) : Code σ ε α → Option (κ × Code σ ε α)
  | ret _ => none
  | fail _ => none
  | c => some (k, c)

/-- One thread at a time works on a key, and it will end in `P`; a key on which
no thread works is in `F`. -/
structure Sound (R G : κ → σ → σ → Prop) (P : κ → Except ε α → σ → Prop) (F : κ → σ → Prop)
    (jobs : ι → Option (κ × Code σ ε α)) (s : σ) : Prop where
  one : ∀ i j k p q, jobs i = some (k, p) → jobs j = some (k, q) → i = j
  working : ∀ i k p, jobs i = some (k, p) → p.Ensures (R k) (G k) (P k) s
  free : ∀ k, (∀ i p, jobs i ≠ some (k, p)) → F k s

variable {R G : κ → σ → σ → Prop} {P : κ → Except ε α → σ → Prop} {F : κ → σ → Prop}
  {jobs : ι → Option (κ × Code σ ε α)} {s t : σ}

/-- What the others do within `R` leaves the rest of a call as good. -/
theorem Ensures.others {k : κ} {p : Code σ ε α} (htrans : ∀ s t u, R k s t → R k t u → R k s u)
    (hP : ∀ r s t, P k r s → R k s t → P k r t) (h : p.Ensures (R k) (G k) (P k) s)
    (hR : R k s t) : p.Ensures (R k) (G k) (P k) t := by
  cases p with
  | ret a => exact hP _ s t h hR
  | fail e => exact hP _ s t h hR
  | sect upd next => exact fun u hu => h u (htrans s t u hR hu)

theorem Sound.others (h : Sound R G P F jobs s) (htrans : ∀ k s t u, R k s t → R k t u → R k s u)
    (hP : ∀ k r s t, P k r s → R k s t → P k r t) (hF : ∀ k s t, F k s → R k s t → F k t)
    (hR : ∀ k, R k s t) : Sound R G P F jobs t where
  one := h.one
  working i k p hi := (h.working i k p hi).others (htrans k) (hP k) (hR k)
  free k hk := hF k s t (h.free k hk) (hR k)

variable [DecidableEq ι]

/-- A thread begins to work on a key on which no other does. -/
theorem Sound.begin (h : Sound R G P F jobs s) {i : ι} {k : κ} {p : Code σ ε α}
    (hi : jobs i = none) (hfree : ∀ i p, jobs i ≠ some (k, p))
    (hp : p.Ensures (R k) (G k) (P k) s) :
    Sound R G P F (Function.update jobs i (some (k, p))) s where
  one j j' l q q' hj hj' := by
    rw [Function.update_apply] at hj hj'
    split at hj <;> split at hj'
    · next e e' => rw [e, e']
    · cases hj; exact absurd hj' (hfree j' q')
    · cases hj'; exact absurd hj (hfree j q)
    · exact h.one j j' l q q' hj hj'
  working j l q hj := by
    rw [Function.update_apply] at hj
    split at hj
    · cases hj; exact hp
    · exact h.working j l q hj
  free l hl := by
    refine h.free l fun j q hj => ?_
    have hne : j ≠ i := fun e => by rw [e, hi] at hj; cases hj
    exact hl j q ((Function.update_of_ne hne _ _).trans hj)

/-- A thread runs its next section: the section stays within `G`, and what is
left is as good, for this thread and for those on other keys. -/
theorem Sound.section (h : Sound R G P F jobs s) {i : ι} {k : κ} {upd : σ → σ}
    {next : σ → Code σ ε α} (hi : jobs i = some (k, sect upd next))
    (hrefl : ∀ k s, R k s s) (htrans : ∀ k s t u, R k s t → R k t u → R k s u)
    (hP : ∀ k r s t, P k r s → R k s t → P k r t) (hF : ∀ k s t, F k s → R k s t → F k t)
    (hPF : ∀ k r s, P k r s → F k s) (hcompat : ∀ k k' s t, k' ≠ k → G k s t → R k' s t) :
    G k s (upd s) ∧ Sound R G P F (Function.update jobs i ((next s).left k)) (upd s) := by
  obtain ⟨hG, hnext⟩ := h.working i k _ hi s (hrefl k s)
  have own : ∀ l q, (next s).left k = some (l, q) → l = k ∧ q = next s := by
    intro l q e
    cases hn : next s with
    | ret a => rw [hn] at e; cases e
    | fail a => rw [hn] at e; cases e
    | sect u n => rw [hn] at e; cases e; exact ⟨rfl, rfl⟩
  refine ⟨hG, ?_, ?_, ?_⟩
  · intro j j' l q q' hj hj'
    rw [Function.update_apply] at hj hj'
    split at hj <;> split at hj'
    · next e e' => rw [e, e']
    · next e _ => obtain ⟨rfl, -⟩ := own l q hj; rw [e]; exact h.one i j' l _ q' hi hj'
    · next _ e => obtain ⟨rfl, -⟩ := own l q' hj'; rw [e]; exact h.one j i l q _ hj hi
    · exact h.one j j' l q q' hj hj'
  · intro j l q hj
    rw [Function.update_apply] at hj
    split at hj
    · obtain ⟨rfl, rfl⟩ := own l q hj; exact hnext
    · next e =>
      have hne : l ≠ k := fun el => e (h.one j i k q _ (el ▸ hj) hi)
      exact (h.working j l q hj).others (htrans l) (hP l) (hcompat k l s _ hne hG)
  · intro l hl
    by_cases e : l = k
    · subst e
      have hi' : (next s).left l = none := by
        refine Option.eq_none_iff_forall_ne_some.mpr fun ⟨l', q⟩ e => ?_
        obtain ⟨rfl, -⟩ := own l' q e
        exact hl i q ((Function.update_self _ _ _).trans e)
      cases hn : next s with
      | ret a => rw [hn] at hnext; exact hPF l _ _ hnext
      | fail a => rw [hn] at hnext; exact hPF l _ _ hnext
      | sect u n => rw [hn] at hi'; cases hi'
    · refine hF l s _ (h.free l fun j q hj => ?_) (hcompat k l s _ e hG)
      have hne : j ≠ i := fun ej => by rw [ej, hi] at hj; cases hj; exact e rfl
      exact hl j q ((Function.update_of_ne hne _ _).trans hj)

end threads

/-! ## Threads with a view of their own -/

section views

variable {κ γ ε' : Type} (v : κ → σ → γ)

/-- The view of one key stays the same. -/
def Same (k : κ) (s t : σ) : Prop := v k t = v k s

/-- The views of all the other keys stay the same. -/
def SameElsewhere (k : κ) (s t : σ) : Prop := ∀ k', k' ≠ k → v k' t = v k' s

/-- With the view of `k` in `A`, the call ends in a result and a view in `Q`,
and leaves the views of other keys alone. -/
def Sees (k : κ) (A : γ → Prop) (c : Code σ ε α) (Q : Except ε α → γ → Prop) : Prop :=
  ∀ s, A (v k s) → c.Ensures (Same v k) (SameElsewhere v k) (fun r t => Q r (v k t)) s

/-- No section of the call changes any view. -/
def Quiet : Code σ ε α → Prop
  | ret _ => True
  | fail _ => True
  | sect upd next => (∀ s k, v k (upd s) = v k s) ∧ ∀ s, (next s).Quiet

variable {v} {k : κ} {A A' : γ → Prop} {Q : Except ε β → γ → Prop}

namespace Sees

theorem pure {b : β} (h : ∀ c, A c → Q (.ok b) c) : Sees v k A (Pure.pure b) Q :=
  fun _ hs => h _ hs

theorem fail {e : ε} (h : ∀ c, A c → Q (.error e) c) : Sees v k A (Code.fail e) Q :=
  fun _ hs => h _ hs

theorem read {f : σ → β} (h : ∀ s, A (v k s) → Q (.ok (f s)) (v k s)) :
    Sees v k A (Code.read f) Q := by
  intro s hs t ht
  have hA : A (v k t) := ht ▸ hs
  exact ⟨fun _ _ => rfl, h t hA⟩

theorem sect {upd : σ → σ} {next : σ → Code σ ε β} {B : σ → γ → Prop}
    (hupd : ∀ s, A (v k s) → SameElsewhere v k s (upd s) ∧ B s (v k (upd s)))
    (hnext : ∀ s, Sees v k (B s) (next s) Q) : Sees v k A (Code.sect upd next) Q := by
  intro s hs t ht
  have hA : A (v k t) := ht ▸ hs
  exact ⟨(hupd t hA).1, hnext t (upd t) (hupd t hA).2⟩

theorem write {f : σ → σ} {Q : Except ε Unit → γ → Prop}
    (h : ∀ s, A (v k s) → SameElsewhere v k s (f s) ∧ Q (.ok ()) (v k (f s))) :
    Sees v k A (Code.write f) Q := by
  intro s hs t ht
  have hA : A (v k t) := ht ▸ hs
  exact h t hA

theorem atomic {m : Eff σ ε β}
    (h : ∀ s, A (v k s) → SameElsewhere v k s (m s).2 ∧ Q (m s).1 (v k (m s).2)) :
    Sees v k A (Code.atomic m) Q := by
  intro s hs t ht
  have hA : A (v k t) := ht ▸ hs
  exact ⟨(h t hA).1, ensures_ofExcept (h t hA).2⟩

/-- What is known of a value read earlier, and not of the view. -/
theorem given {p : Prop} {c : Code σ ε β} (h : p → Sees v k A c Q) :
    Sees v k (fun b => p ∧ A b) c Q := fun s hs => h hs.1 s hs.2

theorem pre {c : Code σ ε β} (h : Sees v k A c Q) (hA : ∀ b, A' b → A b) : Sees v k A' c Q :=
  fun s hs => h s (hA _ hs)

theorem post {c : Code σ ε β} {Q' : Except ε β → γ → Prop} (h : Sees v k A c Q)
    (hQ : ∀ r b, Q r b → Q' r b) : Sees v k A c Q' :=
  fun s hs => (h s hs).mono fun r t => hQ r (v k t)

theorem bind {B : Except ε α → γ → Prop} {m : Code σ ε α} {f : α → Code σ ε β}
    (hm : Sees v k A m B) (herr : ∀ e c, B (.error e) c → Q (.error e) c)
    (hok : ∀ a, Sees v k (B (.ok a)) (f a) Q) : Sees v k A (m >>= f) Q :=
  fun s hs => (hm s hs).bind (fun e t => herr e (v k t)) fun a t ht => hok a t ht

/-- The first call does not fail. -/
theorem bindOk {B : α → γ → Prop} {m : Code σ ε α} {f : α → Code σ ε β}
    (hm : Sees v k A m fun r c => ∃ a, r = .ok a ∧ B a c) (hok : ∀ a, Sees v k (B a) (f a) Q) :
    Sees v k A (m >>= f) Q := by
  refine bind hm ?_ fun a => (hok a).pre ?_
  · rintro e c ⟨a, he, -⟩
    cases he
  · rintro c ⟨a', he, hc⟩
    cases he
    exact hc

/-- The first call gives one value. -/
theorem bindEq {B : γ → Prop} {m : Code σ ε α} {f : α → Code σ ε β} {a : α}
    (hm : Sees v k A m fun r c => r = .ok a ∧ B c) (hok : Sees v k B (f a) Q) :
    Sees v k A (m >>= f) Q := by
  refine bindOk (B := fun a' c => a' = a ∧ B c) (hm.post fun r c h => ⟨a, h.1, rfl, h.2⟩)
    fun a' => given ?_
  rintro rfl
  exact hok

theorem attempt {m : Code σ ε' α} {Q : Except ε (Except ε' α) → γ → Prop}
    (h : Sees v k A m fun r c => Q (.ok r) c) : Sees v k A m.attempt Q :=
  fun s hs => (h s hs).attempt

/-- An attempt does not fail. -/
theorem bindAttempt {B : Except ε' α → γ → Prop} {m : Code σ ε' α}
    {f : Except ε' α → Code σ ε β} (hm : Sees v k A m B) (hok : ∀ r, Sees v k (B r) (f r) Q) :
    Sees v k A (m.attempt >>= f) Q :=
  bindOk (attempt (hm.post fun r _ h => ⟨r, rfl, h⟩)) hok

/-- A read does not fail. -/
theorem bindRead {B : α → γ → Prop} {f : σ → α} {g : α → Code σ ε β}
    (hf : ∀ s, A (v k s) → B (f s) (v k s)) (hok : ∀ a, Sees v k (B a) (g a) Q) :
    Sees v k A (Code.read f >>= g) Q :=
  bindOk (read fun s hs => ⟨f s, rfl, hf s hs⟩) hok

theorem mapError {g : ε' → ε} {m : Code σ ε' β}
    (h : Sees v k A m fun r c => match r with
      | .ok b => Q (.ok b) c
      | .error e => Q (.error (g e)) c) : Sees v k A (m.mapError g) Q :=
  fun s hs => Ensures.mapError ((h s hs).mono fun r t hr => by cases r <;> exact hr)

/-- `mapError` where the result does not matter. -/
theorem rename {g : ε' → ε} {m : Code σ ε' β} (h : Sees v k A m fun _ => A') :
    Sees v k A (m.mapError g) fun _ => A' :=
  mapError (h.post fun r _ hr => by cases r <;> exact hr)

theorem ends {c : Code σ ε β} {s : σ} (h : Sees v k A c Q) (hs : A (v k s)) :
    Eff.Ends c.run (fun r t => Q r (v k t)) s := (h s hs).ends fun _ => rfl

theorem final {c : Code σ ε β} {s t : σ} {r : Except ε β} (h : Sees v k A c Q) (hs : A (v k s))
    (hrun : c.run s = (r, t)) : Q r (v k t) := by
  have hend := h.ends hs
  unfold Eff.Ends at hend
  rwa [hrun] at hend

end Sees

namespace Quiet

theorem ofExcept (r : Except ε α) : Quiet v (Code.ofExcept r : Code σ ε α) := by
  cases r <;> exact trivial

theorem read (f : σ → α) : Quiet v (Code.read f : Code σ ε α) :=
  ⟨fun _ _ => rfl, fun _ => trivial⟩

theorem write {f : σ → σ} (h : ∀ s k, v k (f s) = v k s) : Quiet v (Code.write f : Code σ ε Unit) :=
  ⟨h, fun _ => trivial⟩

theorem atomic {m : Eff σ ε α} (h : ∀ s k, v k (m s).2 = v k s) : Quiet v (Code.atomic m) :=
  ⟨h, fun _ => ofExcept _⟩

theorem bind {m : Code σ ε α} {f : α → Code σ ε β} (hm : Quiet v m) (hf : ∀ a, Quiet v (f a)) :
    Quiet v (m >>= f) := by
  induction m with
  | ret a => exact hf a
  | fail e => exact trivial
  | sect upd next ih => exact ⟨hm.1, fun s => ih s (hm.2 s)⟩

theorem attempt {m : Code σ ε' α} (hm : Quiet v m) : Quiet v (m.attempt : Code σ ε _) := by
  induction m with
  | ret a => exact trivial
  | fail e => exact trivial
  | sect upd next ih => exact ⟨hm.1, fun s => ih s (hm.2 s)⟩

theorem mapError {g : ε' → ε} {m : Code σ ε' α} (hm : Quiet v m) : Quiet v (m.mapError g) := by
  induction m with
  | ret a => exact trivial
  | fail e => exact trivial
  | sect upd next ih => exact ⟨hm.1, fun s => ih s (hm.2 s)⟩

theorem ite {c : Prop} [Decidable c] {m m' : Code σ ε α} (h : Quiet v m) (h' : Quiet v m') :
    Quiet v (if c then m else m') := by
  split
  · exact h
  · exact h'

/-- What does not change a view does not change what can be read off it. -/
theorem through {κ' γ' : Type} {u : κ' → σ → γ'} {c : Code σ ε β} (h : Quiet u c) (f : κ → κ')
    (g : κ → γ' → γ) (hv : ∀ k s, v k s = g k (u (f k) s)) : Quiet v c := by
  induction c with
  | ret b => exact trivial
  | fail e => exact trivial
  | sect upd next ih =>
    exact ⟨fun s k => by rw [hv, hv, h.1 s (f k)], fun s => ih s (h.2 s)⟩

theorem ends {c : Code σ ε β} (h : Quiet v c) (s : σ) :
    Eff.Ends c.run (fun _ t => v k t = v k s) s := by
  induction c generalizing s with
  | ret b => exact (rfl : v k s = v k s)
  | fail e => exact (rfl : v k s = v k s)
  | sect upd next ih =>
    exact (ih s (h.2 s) (upd s)).mono fun _ t ht => ht.trans (h.1 s k)

/-- What held of the view before a quiet call holds after it. -/
theorem sees {c : Code σ ε β} (h : Quiet v c) : Sees v k A c fun _ b => A b := by
  induction c with
  | ret b => exact fun s hs => hs
  | fail e => exact fun s hs => hs
  | sect upd next ih =>
    exact Sees.sect (B := fun _ => A) (fun s hs => ⟨fun k' _ => h.1 s k', (h.1 s k).symm ▸ hs⟩)
      fun s => ih s (h.2 s)

end Quiet

/-- No section of the call changes any view, and the result is in `Q`. -/
def Yields (v : κ → σ → γ) (Q : Except ε α → Prop) : Code σ ε α → Prop
  | ret a => Q (.ok a)
  | fail e => Q (.error e)
  | sect upd next => (∀ s k, v k (upd s) = v k s) ∧ ∀ s, (next s).Yields v Q

theorem Quiet.yields {c : Code σ ε α} (h : Quiet v c) : c.Yields v fun _ => True := by
  induction c with
  | ret a => exact trivial
  | fail e => exact trivial
  | sect upd next ih => exact ⟨h.1, fun s => ih s (h.2 s)⟩

namespace Yields

theorem bind {Q : Except ε α → Prop} {P : Except ε β → Prop} {m : Code σ ε α}
    {f : α → Code σ ε β} (hm : m.Yields v Q) (herr : ∀ e, Q (.error e) → P (.error e))
    (hok : ∀ a, Q (.ok a) → (f a).Yields v P) : (m >>= f).Yields v P := by
  induction m with
  | ret a => exact hok a hm
  | fail e => exact herr e hm
  | sect upd next ih => exact ⟨hm.1, fun s => ih s (hm.2 s)⟩

/-- After a quiet call the rest only depends on what it returned. -/
theorem after {P : Except ε β → Prop} {m : Code σ ε α} {f : α → Code σ ε β} (hm : Quiet v m)
    (herr : ∀ e, P (.error e)) (hok : ∀ a, (f a).Yields v P) : (m >>= f).Yields v P :=
  bind hm.yields (fun e _ => herr e) fun a _ => hok a

theorem bindRead {P : Except ε β → Prop} {f : σ → α} {g : α → Code σ ε β}
    (h : ∀ a, (g a).Yields v P) : (Code.read f >>= g).Yields v P :=
  ⟨fun _ _ => rfl, fun s => h (f s)⟩

/-- An attempt does not fail. -/
theorem attempt {m : Code σ ε' α} (hm : Quiet v m) :
    (m.attempt : Code σ ε _).Yields v fun r => ∃ a, r = .ok a := by
  induction m with
  | ret a => exact ⟨_, rfl⟩
  | fail e => exact ⟨_, rfl⟩
  | sect upd next ih => exact ⟨hm.1, fun s => ih s (hm.2 s)⟩

/-- The errors of a call after they have been mapped. -/
theorem mapError {Q : Except ε α → Prop} {g : ε' → ε} {m : Code σ ε' α} (hm : Quiet v m)
    (hok : ∀ a, Q (.ok a)) (herr : ∀ e, Q (.error (g e))) : (m.mapError g).Yields v Q := by
  induction m with
  | ret a => exact hok a
  | fail e => exact herr e
  | sect upd next ih => exact ⟨hm.1, fun s => ih s (hm.2 s)⟩

/-- Run alone. -/
theorem ends {Q : Except ε α → Prop} {c : Code σ ε α} (h : c.Yields v Q) (s : σ) :
    Eff.Ends c.run (fun r t => Q r ∧ ∀ k, v k t = v k s) s := by
  induction c generalizing s with
  | ret a => exact ⟨h, fun _ => rfl⟩
  | fail e => exact ⟨h, fun _ => rfl⟩
  | sect upd next ih =>
    obtain ⟨hr, ht⟩ := ih s (h.2 s) (upd s)
    exact ⟨hr, fun k => (ht k).trans (h.1 s k)⟩

/-- What a call that changes no view keeps to, with others in between. -/
theorem ensures {R G : σ → σ → Prop} {Q : Except ε α → Prop} {I : σ → Prop} {c : Code σ ε α}
    {s : σ} (h : c.Yields v Q) (hG : ∀ s t, (∀ k, v k t = v k s) → G s t)
    (hR : ∀ s t, R s t → I s → I t) (hI : ∀ s t, (∀ k, v k t = v k s) → I s → I t) (hs : I s) :
    c.Ensures R G (fun r t => Q r ∧ I t) s := by
  induction c generalizing s with
  | ret a => exact ⟨h, hs⟩
  | fail e => exact ⟨h, hs⟩
  | sect upd next ih =>
    intro t ht
    exact ⟨hG t _ (h.1 t), ih t (h.2 t) (hI t _ (h.1 t) (hR s t ht hs))⟩

end Yields

/-- A pool of threads on keys, each of which keeps its own view in `F`. -/
abbrev Guarded {ι : Type} (v : κ → σ → γ) (F : γ → Prop) (jobs : ι → Option (κ × Code σ ε α))
    (s : σ) : Prop :=
  Sound (Same v) (SameElsewhere v) (fun k _ s => F (v k s)) (fun k s => F (v k s)) jobs s

namespace Guarded

variable {ι : Type} {F : γ → Prop} {jobs : ι → Option (κ × Code σ ε α)} {s t : σ}

theorem others (h : Guarded v F jobs s) (hv : ∀ k, v k t = v k s) : Guarded v F jobs t :=
  Sound.others h (fun _ _ _ _ h₁ h₂ => h₂.trans h₁) (fun _ _ _ _ hF e => e.symm ▸ hF)
    (fun _ _ _ hF e => e.symm ▸ hF) hv

variable [DecidableEq ι]

theorem begin {i : ι} {p : Code σ ε α} (h : Guarded v F jobs s) (hi : jobs i = none)
    (hfree : ∀ i p, jobs i ≠ some (k, p)) (hp : Sees v k F p fun _ => F) :
    Guarded v F (Function.update jobs i (some (k, p))) s :=
  Sound.begin h hi hfree (hp s (h.free k hfree))

theorem turn {i : ι} {upd : σ → σ} {next : σ → Code σ ε α} (h : Guarded v F jobs s)
    (hi : jobs i = some (k, Code.sect upd next)) :
    Guarded v F (Function.update jobs i ((next s).left k)) (upd s) :=
  (Sound.section h hi (fun _ _ => rfl) (fun _ _ _ _ h₁ h₂ => h₂.trans h₁)
    (fun _ _ _ _ hF e => e.symm ▸ hF) (fun _ _ _ hF e => e.symm ▸ hF) (fun _ _ _ hF => hF)
    fun _ k' _ _ hne hG => hG k' hne).2

end Guarded

end views

end Code

end Lib
