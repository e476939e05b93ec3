import Mathlib.Logic.Basic

/-!
# Cutting at the first separators

`cut sep l` is the list before and the list after the first separator.
`splitN sep n l` cuts at most `n - 1` times and leaves the last part whole, so
that separators in it are kept, as `strings.SplitN` does in Go.
-/

namespace Lib

section

variable {α : Type} [DecidableEq α]

/-- The list before and the list after the first separator, if there is one. -/
def cut (sep : α) : List α → Option (List α × List α)
  | [] => none
  | a :: l => if a = sep then some ([], l) else (cut sep l).map fun p => (a :: p.1, p.2)

/-- At most `n` parts, the last one with the separators that are left. -/
def splitN (sep : α) : Nat → List α → List (List α)
  | 0, _ => []
  | 1, l => [l]
  | n + 2, l =>
    match cut sep l with
    | none => [l]
    | some (before, after) => before :: splitN sep (n + 1) after

variable {sep : α} {l : List α}

/-- **Where the first separator falls**: nowhere in the part before it. -/
theorem cut_eq_some {before after : List α} :
    cut sep l = some (before, after) ↔ l = before ++ sep :: after ∧ sep ∉ before := by
  induction l generalizing before with
  | nil => simp [cut]
  | cons a l ih =>
    unfold cut
    by_cases ha : a = sep
    · subst ha
      cases before with
      | nil => simp [eq_comm]
      | cons b before =>
        rw [if_pos rfl]
        refine iff_of_false (by simp) ?_
        rintro ⟨e, hb⟩
        exact hb (by simp [(List.cons.inj e).1])
    · rw [if_neg ha]
      cases before with
      | nil => simp [ha]
      | cons b before =>
        constructor
        · intro h
          obtain ⟨p, hp, e⟩ := Option.map_eq_some_iff.mp h
          cases e
          obtain ⟨rfl, hb⟩ := ih.mp hp
          exact ⟨rfl, by simpa [Ne.symm ha] using hb⟩
        · rintro ⟨e, hb⟩
          obtain ⟨rfl, rfl⟩ := List.cons.inj e
          rw [ih.mpr ⟨rfl, fun h => hb (List.mem_cons_of_mem _ h)⟩]
          rfl

theorem splitN_eq_pair {before after : List α} :
    splitN sep 2 l = [before, after] ↔ l = before ++ sep :: after ∧ sep ∉ before := by
  rw [← cut_eq_some, splitN]
  cases cut sep l with
  | none => simp
  | some p => simp [splitN, Prod.ext_iff]

end

/-- `splitN` on the characters of a string. -/
def splitText (sep : Char) (n : Nat) (s : String) : List String :=
  (splitN sep n s.toList).map String.ofList

/-- The text is cut in two at the first separator. -/
theorem splitText_eq_pair {sep : Char} {s before after : String} :
    splitText sep 2 s = [before, after] ↔
      s.toList = before.toList ++ sep :: after.toList ∧ sep ∉ before.toList := by
  rw [← splitN_eq_pair]
  unfold splitText
  constructor
  · intro h
    simpa [Function.comp_def] using congrArg (List.map String.toList) h
  · intro h
    simp [h]

end Lib
