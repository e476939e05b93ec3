import Mathlib.Logic.Basic

/-!
# Calls that fail halfway

`Eff σ ε α` is a call that reads and changes a state `σ` and returns a value
or an error. Unlike a transaction, what it did before the error stays done.
`Ends m P s`: run from `s`, the call ends with a result and a state that
satisfy `P`. The rules follow the shape of the program; `Ends.bind` is the
one for sequencing. `Keeps v m` is the frame condition: whatever the call does,
`v` reads the same afterwards.
-/

namespace Lib

/-- An error has no value to ask anything of. -/
theorem no_value {ε α : Type} {P : α → Prop} {e : ε} (a : α)
    (h : (Except.error e : Except ε α) = .ok a) : P a := nomatch h

def Eff (σ ε α : Type) : Type := σ → Except ε α × σ

namespace Eff

variable {σ ε α β : Type}

protected def pure (a : α) : Eff σ ε α := fun s => (.ok a, s)

protected def bind (m : Eff σ ε α) (f : α → Eff σ ε β) : Eff σ ε β := fun s =>
  match m s with
  | (.ok a, s') => f a s'
  | (.error e, s') => (.error e, s')

instance : Monad (Eff σ ε) where
  pure := Eff.pure
  bind := Eff.bind

def throw (e : ε) : Eff σ ε α := fun s => (.error e, s)

def get : Eff σ ε σ := fun s => (.ok s, s)

def modify (f : σ → σ) : Eff σ ε Unit := fun s => (.ok (), f s)

/-- A computation that touches no state. -/
def lift (r : Except ε α) : Eff σ ε α := fun s => (r, s)

def mapError (f : ε → ε) (m : Eff σ ε α) : Eff σ ε α := fun s =>
  match m s with
  | (.ok a, s') => (.ok a, s')
  | (.error e, s') => (.error (f e), s')

/-- The call among calls that can fail in more ways. -/
def liftError {ε' : Type} (f : ε → ε') (m : Eff σ ε α) : Eff σ ε' α := fun s =>
  ((m s).1.mapError f, (m s).2)

/-- The call with its error as a value, for the caller to look at. -/
def attempt (m : Eff σ ε α) : Eff σ ε (Except ε α) := fun s => (.ok (m s).1, (m s).2)

/-- The state a call leaves behind. -/
def final (m : Eff σ ε α) (s : σ) : σ := (m s).2

/-- Run from `s`, the call ends in a result and a state satisfying `P`. -/
def Ends (m : Eff σ ε α) (P : Except ε α → σ → Prop) (s : σ) : Prop := P (m s).1 (m s).2

section rules

variable {P Q : Except ε β → σ → Prop} {s : σ}

@[simp] theorem ends_pure (b : β) : Ends (pure b : Eff σ ε β) P s ↔ P (.ok b) s := Iff.rfl

@[simp] theorem ends_throw (e : ε) : Ends (throw e : Eff σ ε β) P s ↔ P (.error e) s := Iff.rfl

@[simp] theorem ends_get {P : Except ε σ → σ → Prop} : Ends get P s ↔ P (.ok s) s := Iff.rfl

@[simp] theorem ends_modify (f : σ → σ) {P : Except ε Unit → σ → Prop} :
    Ends (modify f) P s ↔ P (.ok ()) (f s) := Iff.rfl

@[simp] theorem ends_lift (r : Except ε β) : Ends (lift r) P s ↔ P r s := Iff.rfl

/-- **Sequencing**: the first call must end so that an error is already what
is wanted, and a value is what the rest starts from. -/
@[simp] theorem ends_bind (m : Eff σ ε α) (f : α → Eff σ ε β) :
    Ends (m >>= f) P s ↔ Ends m (fun r s' => match r with
      | .ok a => Ends (f a) P s'
      | .error e => P (.error e) s') s := by
  show P (Eff.bind m f s).1 (Eff.bind m f s).2 ↔ _
  unfold Ends Eff.bind
  rcases m s with ⟨r | r, s'⟩ <;> rfl

@[simp] theorem ends_ite (c : Prop) [Decidable c] (m₁ m₂ : Eff σ ε β) :
    Ends (if c then m₁ else m₂) P s ↔ if c then Ends m₁ P s else Ends m₂ P s := by
  split <;> rfl

@[simp] theorem ends_mapError (f : ε → ε) (m : Eff σ ε β) :
    Ends (mapError f m) P s ↔ Ends m (fun r s' => match r with
      | .ok b => P (.ok b) s'
      | .error e => P (.error (f e)) s') s := by
  unfold Ends mapError
  rcases m s with ⟨r | r, s'⟩ <;> rfl

@[simp] theorem ends_attempt (m : Eff σ ε α) {P : Except ε (Except ε α) → σ → Prop} :
    Ends (attempt m) P s ↔ Ends m (fun r s' => P (.ok r) s') s := Iff.rfl

theorem Ends.mono {m : Eff σ ε β} (h : Ends m P s) (hPQ : ∀ r s', P r s' → Q r s') :
    Ends m Q s := hPQ _ _ h

theorem Ends.bind {R : Except ε α → σ → Prop} {m : Eff σ ε α} {f : α → Eff σ ε β}
    (hm : Ends m R s) (herr : ∀ e s', R (.error e) s' → P (.error e) s')
    (hok : ∀ a s', R (.ok a) s' → Ends (f a) P s') : Ends (m >>= f) P s := by
  rw [ends_bind]
  refine hm.mono fun r s' hr => ?_
  cases r with
  | error e => exact herr e s' hr
  | ok a => exact hok a s' hr

end rules

theorem bind_of_ok {m : Eff σ ε α} {s s' : σ} {a : α} (h : m s = (.ok a, s'))
    (f : α → Eff σ ε β) : (m >>= f) s = f a s' := by
  show Eff.bind m f s = _
  unfold Eff.bind
  rw [h]

theorem bind_of_error {m : Eff σ ε α} {s s' : σ} {e : ε} (h : m s = (.error e, s'))
    (f : α → Eff σ ε β) : (m >>= f) s = (.error e, s') := by
  show Eff.bind m f s = _
  unfold Eff.bind
  rw [h]

theorem get_bind (f : σ → Eff σ ε β) (s : σ) : (get >>= f) s = f s s := rfl

theorem lift_ok_bind (a : α) (f : α → Eff σ ε β) (s : σ) : (lift (.ok a) >>= f) s = f a s := rfl

theorem lift_error_bind (e : ε) (f : α → Eff σ ε β) (s : σ) :
    (lift (.error e) >>= f) s = (.error e, s) := rfl

theorem final_mapError (f : ε → ε) (m : Eff σ ε α) (s : σ) : (mapError f m s).2 = (m s).2 := by
  unfold mapError
  rcases m s with ⟨_ | _, s'⟩ <;> rfl

/-- The call leaves what `v` reads of the state alone. -/
def Keeps {γ : Type} (v : σ → γ) (m : Eff σ ε α) : Prop := ∀ s, v (m s).2 = v s

namespace Keeps

variable {γ : Type} {v : σ → γ}

theorem pure (a : α) : Keeps v (Pure.pure a : Eff σ ε α) := fun _ => rfl

theorem throw (e : ε) : Keeps v (Eff.throw e : Eff σ ε α) := fun _ => rfl

theorem get : Keeps v (Eff.get : Eff σ ε σ) := fun _ => rfl

theorem lift (r : Except ε α) : Keeps v (Eff.lift r : Eff σ ε α) := fun _ => rfl

theorem modify {f : σ → σ} (h : ∀ s, v (f s) = v s) : Keeps v (Eff.modify f : Eff σ ε Unit) := h

theorem attempt {m : Eff σ ε α} (h : Keeps v m) : Keeps v (Eff.attempt m) := h

theorem mapError {f : ε → ε} {m : Eff σ ε α} (h : Keeps v m) : Keeps v (Eff.mapError f m) :=
  fun s => (congrArg v (final_mapError f m s)).trans (h s)

theorem bind {m : Eff σ ε α} {f : α → Eff σ ε β} (hm : Keeps v m) (hf : ∀ a, Keeps v (f a)) :
    Keeps v (m >>= f) := by
  intro s
  have hs := hm s
  rcases h : m s with ⟨e | a, s'⟩ <;> rw [h] at hs
  · rw [bind_of_error h]; exact hs
  · rw [bind_of_ok h]; exact (hf a s').trans hs

/-- What the rest of a call leaves alone is as the first part left it. -/
theorem after {m : Eff σ ε α} {f : α → Eff σ ε β} (hf : ∀ a, Keeps v (f a)) (s : σ) :
    v ((m >>= f) s).2 = v (m s).2 := by
  rcases h : m s with ⟨e | a, s'⟩
  · rw [bind_of_error h]
  · rw [bind_of_ok h]; exact hf a s'

theorem ite {c : Prop} [Decidable c] {m₁ m₂ : Eff σ ε α} (h₁ : Keeps v m₁) (h₂ : Keeps v m₂) :
    Keeps v (if c then m₁ else m₂) := by
  split
  · exact h₁
  · exact h₂

end Keeps

end Eff

/-! ## Checks that may fail -/

section checks

variable {ε α : Type}

/-- Two checks, the second only if the first passes. -/
def andThen (a b : Except ε Bool) : Except ε Bool := do
  if ← a then b else return false

@[simp] theorem andThen_ok (a b : Bool) :
    andThen (.ok a : Except ε Bool) (.ok b) = .ok (a && b) := by
  cases a <;> rfl

theorem andThen_eq_error {a b : Except ε Bool} {e : ε} :
    andThen a b = .error e ↔ a = .error e ∨ a = .ok true ∧ b = .error e := by
  unfold andThen
  rcases a with e' | _ | _ <;> simp [bind, Except.bind, pure, Except.pure]

/-- A loop that looks for a yes, when no check fails. -/
theorem anyM_of_ok {f : α → Except ε Bool} {p : α → Bool} {l : List α}
    (h : ∀ a ∈ l, f a = .ok (p a)) : l.anyM f = .ok (l.any p) := by
  induction l with
  | nil => rfl
  | cons a l ih =>
    rw [List.anyM_cons, h a List.mem_cons_self, ih fun b hb => h b (List.mem_cons_of_mem _ hb),
      List.any_cons]
    cases p a <;> rfl

/-- It fails when it meets a check that fails before it has met a yes. -/
theorem anyM_eq_error {f : α → Except ε Bool} {l : List α} {e : ε} :
    l.anyM f = .error e ↔ ∃ before a after,
      l = before ++ a :: after ∧ f a = .error e ∧ ∀ b ∈ before, f b = .ok false := by
  constructor
  · intro h
    induction l with
    | nil => cases h
    | cons a l ih =>
      rw [List.anyM_cons] at h
      rcases ha : f a with e' | _ | _ <;> rw [ha] at h
      · cases h
        exact ⟨[], a, l, rfl, ha, by simp⟩
      · obtain ⟨before, c, after, rfl, hc, hb⟩ := ih h
        exact ⟨a :: before, c, after, rfl, hc, List.forall_mem_cons.mpr ⟨ha, hb⟩⟩
      · cases h
  · rintro ⟨before, a, after, rfl, ha, hb⟩
    induction before with
    | nil =>
      rw [List.nil_append, List.anyM_cons, ha]
      rfl
    | cons b before ih =>
      obtain ⟨hhead, htail⟩ := List.forall_mem_cons.mp hb
      rw [List.cons_append, List.anyM_cons, hhead]
      exact ih htail

/-- A loop that tries until it has a value or fails, at most `steps` times. -/
def tryUpTo (timeout : ε) (attempt : Nat → Except ε (Option α)) : (steps i : Nat) → Except ε α
  | 0, _ => .error timeout
  | steps + 1, i =>
    match attempt i with
    | .error e => .error e
    | .ok (some a) => .ok a
    | .ok none => tryUpTo timeout attempt steps (i + 1)

/-- It succeeds with the first attempt that has a value, if none before it fails. -/
theorem tryUpTo_eq_ok {timeout : ε} {attempt : Nat → Except ε (Option α)} {steps i : Nat} {a : α} :
    tryUpTo timeout attempt steps i = .ok a ↔
      ∃ k < steps, attempt (i + k) = .ok (some a) ∧ ∀ j < k, attempt (i + j) = .ok none := by
  induction steps generalizing i with
  | zero => simp [tryUpTo]
  | succ steps ih =>
    have hfirst : ∀ {k}, attempt i ≠ .ok none → (∀ j < k, attempt (i + j) = .ok none) → k = 0 :=
      fun hne hbefore => Nat.eq_zero_of_not_pos fun hpos => hne (hbefore 0 hpos)
    unfold tryUpTo
    rcases hi : attempt i with e | - | b
    · refine iff_of_false nofun ?_
      rintro ⟨k, -, hk, hbefore⟩
      cases hfirst (by simp [hi]) hbefore
      cases hi.symm.trans hk
    · dsimp only
      rw [ih]
      constructor
      · rintro ⟨k, hk, hok, hbefore⟩
        refine ⟨k + 1, by omega, by rwa [← Nat.add_assoc, Nat.add_right_comm], fun j hj => ?_⟩
        cases j with
        | zero => exact hi
        | succ j =>
          rw [← Nat.add_assoc, Nat.add_right_comm]
          exact hbefore j (by omega)
      · rintro ⟨k, hk, hok, hbefore⟩
        cases k with
        | zero => cases hi.symm.trans hok
        | succ k =>
          refine ⟨k, by omega, by rwa [Nat.add_right_comm, Nat.add_assoc], fun j hj => ?_⟩
          rw [Nat.add_right_comm, Nat.add_assoc]
          exact hbefore (j + 1) (by omega)
    · constructor
      · intro h
        cases h
        exact ⟨0, by omega, hi, by simp⟩
      · rintro ⟨k, -, hok, hbefore⟩
        cases hfirst (by simp [hi]) hbefore
        cases hi.symm.trans hok
        rfl

end checks

end Lib
