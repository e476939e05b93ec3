import Mathlib.Data.Finmap

/-!
# Maps and tables

`Map α β` is a finite map (Mathlib's `Finmap` with one value type), with the
lookups of its updates in `if` form. A loop over a map has no fixed order:
`IsOrder m l` says `l` is one of the orders, `rangeUpdate` is the loop that
rewrites each value in place, and `rangeWhile` the one that may stop on its way.

A `Table key` holds records under the key each record carries itself; the
field `keyed` makes a record under a foreign key unrepresentable. Unlike a
`Map` it can be listed; a `Shuffle` is an order in which a list call, or a
loop over a map, may present the entries.
-/

namespace Lib

/-- **Loop rule**: if each turn of a loop over distinct keys changes what is
seen at its own key by `g`, the loop does so at every key it visits. -/
theorem foldl_pointwise {σ κ β : Type} [DecidableEq κ] {I : σ → Prop} {L : σ → κ → β}
    {f : σ → κ → σ} {g : β → β} (hI : ∀ s k, I s → I (f s k))
    (hf : ∀ s k, I s → ∀ k', L (f s k) k' = if k' = k then g (L s k) else L s k')
    {l : List κ} (hl : l.Nodup) {s : σ} (hs : I s) :
    I (l.foldl f s) ∧
      ∀ k, L (l.foldl f s) k = if k ∈ l then g (L s k) else L s k := by
  induction l generalizing s with
  | nil => exact ⟨hs, fun k => by simp⟩
  | cons a l ih =>
    obtain ⟨ha, hl⟩ := List.nodup_cons.mp hl
    obtain ⟨hI', hlook⟩ := ih hl (hI s a hs)
    refine ⟨hI', fun k => ?_⟩
    rw [List.foldl_cons, hlook k, hf s a hs k]
    by_cases e : k = a
    · subst e; simp [ha]
    · simp [e]

/-- **Last write**: if each turn of a loop replaces what is seen by what it writes,
if it writes anything, the last write is seen in the end. -/
theorem foldl_last {σ α β : Type} {f : σ → α → σ} {v : σ → Option β} {w : α → Option β}
    (hf : ∀ s a, v (f s a) = (w a).or (v s)) (l : List α) (s : σ) :
    v (l.foldl f s) = (l.filterMap w).getLast?.or (v s) := by
  induction l generalizing s with
  | nil => rfl
  | cons a l ih =>
    rw [List.foldl_cons, ih, hf, List.filterMap_cons]
    cases w a with
    | none => rfl
    | some b =>
      rw [List.getLast?_cons]
      cases (l.filterMap w).getLast? <;> rfl

/-- A flag that some steps of a fold set, and none takes back. -/
theorem foldl_flag {σ α : Type} {f : σ → α → σ} {P : σ → Prop} {Q : α → Prop}
    (hf : ∀ s a, P (f s a) ↔ P s ∨ Q a) (l : List α) (s : σ) :
    P (l.foldl f s) ↔ P s ∨ ∃ a ∈ l, Q a := by
  induction l generalizing s with
  | nil => simp
  | cons a l ih => rw [List.foldl_cons, ih, hf, List.exists_mem_cons_iff, or_assoc]

abbrev Map (α β : Type) : Type := Finmap fun _ : α => β

namespace Map

variable {α β : Type} [DecidableEq α]

theorem lookup_insert_if (m : Map α β) (a b : α) (v : β) :
    Finmap.lookup b (m.insert a v) = if b = a then some v else m.lookup b := by
  by_cases h : b = a
  · subst h; simp
  · rw [if_neg h, Finmap.lookup_insert_of_ne m h]

theorem lookup_erase_if (m : Map α β) (a b : α) :
    Finmap.lookup b (m.erase a) = if b = a then none else m.lookup b := by
  by_cases h : b = a
  · subst h; simp
  · rw [if_neg h, Finmap.lookup_erase_ne h]

theorem lookup_union_or (m₁ m₂ : Map α β) (a : α) :
    Finmap.lookup a (m₁ ∪ m₂) = (m₁.lookup a).or (m₂.lookup a) := by
  by_cases h : a ∈ m₁
  · rw [Finmap.lookup_union_left h]
    obtain ⟨v, hv⟩ := Finmap.mem_iff.mp h
    rw [hv]; rfl
  · rw [Finmap.lookup_union_right h, Finmap.lookup_eq_none.mpr h]; rfl

/-- Filling a map from a list: of several values with one key, the last one. -/
theorem lookup_foldl_insert (key : β → α) (l : List β) (m : Map α β) (a : α) :
    Finmap.lookup a (l.foldl (fun m b => m.insert (key b) b) m : Map α β) =
      (l.filter (key · = a)).getLast?.or (m.lookup a) := by
  rw [← List.filterMap_eq_filter]
  refine foldl_last (v := fun m : Map α β => m.lookup a) (fun m b => ?_) l m
  rw [lookup_insert_if]
  by_cases hb : key b = a
  · rw [if_pos hb.symm, Option.guard, if_pos (decide_eq_true hb)]
    rfl
  · rw [if_neg (Ne.symm hb), Option.guard, if_neg (by simpa using hb)]
    rfl

/-- Deleting a list of keys, one after the other. -/
def eraseAll (m : Map α β) (ks : List α) : Map α β := ks.foldl (fun m k => m.erase k) m

theorem lookup_eraseAll (m : Map α β) (ks : List α) (a : α) :
    (eraseAll m ks).lookup a = if a ∈ ks then none else m.lookup a := by
  unfold eraseAll
  induction ks generalizing m with
  | nil => simp
  | cons k ks ih =>
    rw [List.foldl_cons, ih, lookup_erase_if]
    by_cases h : a ∈ ks <;> by_cases e : a = k <;> simp [h, e]

/-- `l` lists the keys of `m` in some order. -/
def IsOrder (m : Map α β) (l : List α) : Prop := l.Nodup ∧ l.toFinset = m.keys

instance (m : Map α β) (l : List α) : Decidable (IsOrder m l) :=
  inferInstanceAs (Decidable (_ ∧ _))

theorem IsOrder.mem_iff {m : Map α β} {l : List α} (h : IsOrder m l) (a : α) :
    a ∈ l ↔ a ∈ m := by
  rw [← List.mem_toFinset, h.2, Finmap.mem_keys]

/-- A loop over the values whose result does not depend on the order. -/
def overValues {γ : Type} (f : List β → γ) (hf : ∀ l l', l.Perm l' → f l = f l')
    (m : Map α β) : γ :=
  Quot.liftOn m.entries (fun l => f (l.map Sigma.snd)) fun _ _ h => hf _ _ (h.map _)

/-- Any order of the keys will do. -/
theorem overValues_eq_of_order {γ : Type} {f : List β → γ} (hf : ∀ l l', l.Perm l' → f l = f l')
    {m : Map α β} {order : List α} (ho : IsOrder m order) :
    f (order.filterMap fun a => m.lookup a) = overValues f hf m := by
  induction m using Finmap.induction_on with
  | H s =>
    have hkeys : order.Perm s.keys :=
      (List.perm_ext_iff_of_nodup ho.1 s.nodupKeys).mpr fun a => (ho.mem_iff a).trans Iff.rfl
    have hvalues : s.keys.filterMap s.lookup = s.entries.map Sigma.snd := by
      rw [AList.keys, List.keys, List.filterMap_map, ← List.filterMap_eq_map]
      exact List.filterMap_congr fun e he => AList.mem_lookup_iff.mpr he
    show f (order.filterMap s.lookup) = f (s.entries.map Sigma.snd)
    rw [← hvalues]
    exact hf _ _ (hkeys.filterMap _)

/-- A loop that looks for a value satisfying `p`. -/
theorem overValues_any {f : List β → Bool} {p : β → Bool} (hp : ∀ l, f l = l.any p)
    (hf : ∀ l l', l.Perm l' → f l = f l') (m : Map α β) :
    overValues f hf m = true ↔ ∃ a v, m.lookup a = some v ∧ p v = true := by
  induction m using Finmap.induction_on with
  | H s =>
    show f (s.entries.map Sigma.snd) = true ↔ _
    rw [hp, List.any_eq_true]
    constructor
    · rintro ⟨v, hv, hpv⟩
      obtain ⟨⟨a, w⟩, he, rfl⟩ := List.mem_map.mp hv
      exact ⟨a, w, AList.mem_lookup_iff.mpr he, hpv⟩
    · rintro ⟨a, v, ha, hpv⟩
      exact ⟨v, List.mem_map.mpr ⟨⟨a, v⟩, AList.mem_lookup_iff.mp ha, rfl⟩, hpv⟩

/-- The value under a key, if there is one, replaced. -/
def modify (m : Map α β) (a : α) (f : β → β) : Map α β :=
  match m.lookup a with
  | some v => m.insert a (f v)
  | none => m

theorem lookup_modify (m : Map α β) (a b : α) (f : β → β) :
    (modify m a f).lookup b = if b = a then (m.lookup a).map f else m.lookup b := by
  unfold modify
  cases hv : m.lookup a with
  | none =>
    by_cases e : b = a
    · subst e; simp [hv]
    · simp [e]
  | some v => simp [lookup_insert_if]

theorem lookup_modify_eq_some {m : Map α β} {a b : α} {f : β → β} {v : β} :
    (modify m a f).lookup b = some v ↔ ∃ w, m.lookup b = some w ∧ v = if b = a then f w else w := by
  rw [lookup_modify]
  by_cases e : b = a
  · subst e; simp [eq_comm]
  · simp [e]

/-- The loop that replaces each value of the map, over the keys in `l`. -/
def rangeUpdate (f : β → β) (l : List α) (m : Map α β) : Map α β :=
  l.foldl (fun m a => modify m a f) m

theorem lookup_rangeUpdate (f : β → β) {l : List α} (hl : l.Nodup) (m : Map α β) (a : α) :
    (rangeUpdate f l m).lookup a = if a ∈ l then (m.lookup a).map f else m.lookup a :=
  (foldl_pointwise (I := fun _ => True) (L := fun m a => Finmap.lookup a m)
    (fun _ _ _ => trivial) (fun m a _ b => lookup_modify m a b f) hl trivial).2 a

/-- Over a full order the loop rewrites every value once. -/
theorem lookup_rangeUpdate_order (f : β → β) {l : List α} {m : Map α β} (hl : IsOrder m l)
    (a : α) : (rangeUpdate f l m).lookup a = (m.lookup a).map f := by
  rw [lookup_rangeUpdate f hl.1]
  by_cases h : a ∈ m
  · rw [if_pos ((hl.mem_iff a).mpr h)]
  · rw [if_neg (mt (hl.mem_iff a).mp h), Finmap.lookup_eq_none.mpr h]; rfl

/-- The loop that replaces each value in turn, as long as `f` lets it go on; the
flag says that it got to the end. -/
def rangeWhile (f : α → β → β × Bool) : List α → Map α β → Map α β × Bool
  | [], m => (m, true)
  | a :: l, m =>
    match m.lookup a with
    | none => rangeWhile f l m
    | some b =>
      if (f a b).2 then rangeWhile f l (m.insert a (f a b).1) else (m.insert a (f a b).1, false)

section

variable {f : α → β → β × Bool} {l : List α} {m : Map α β}

/-- The loop has replaced the values under the keys in `visited`. -/
def Replaced (f : α → β → β × Bool) (m m' : Map α β) (visited : List α) : Prop :=
  ∀ k, m'.lookup k = if k ∈ visited then (m.lookup k).map fun b => (f k b).1 else m.lookup k

theorem Replaced.cases {m' : Map α β} {visited : List α} (h : Replaced f m m' visited) (k : α) :
    m'.lookup k = m.lookup k ∨ m'.lookup k = (m.lookup k).map fun b => (f k b).1 := by
  rw [h k]
  by_cases hk : k ∈ visited
  · exact .inr (if_pos hk)
  · exact .inl (if_neg hk)

theorem Replaced.of_mem {k : α} {b : β} {m' : Map α β} {visited : List α}
    (h : Replaced f m m' visited) (hk : k ∈ visited) (hb : m.lookup k = some b) :
    m'.lookup k = some (f k b).1 := by
  rw [h k, if_pos hk, hb]
  rfl

theorem Replaced.cons_absent {a : α} {m' : Map α β} {visited : List α}
    (h : Replaced f m m' visited) (ha : m.lookup a = none) : Replaced f m m' (a :: visited) := by
  intro k
  rw [h k]
  by_cases e : k = a
  · rw [e, ha, if_pos List.mem_cons_self]
    split <;> rfl
  · simp [e]

theorem Replaced.cons {a : α} {b : β} {m' : Map α β} {visited : List α}
    (h : Replaced f (m.insert a (f a b).1) m' visited) (hnot : a ∉ visited)
    (ha : m.lookup a = some b) : Replaced f m m' (a :: visited) := by
  intro k
  rw [h k, lookup_insert_if]
  by_cases e : k = a
  · rw [e, if_neg hnot, if_pos rfl, if_pos List.mem_cons_self, ha]
    rfl
  · simp [e]

/-- **A loop that may stop**: it lets every value pass and gets to the end, or it stops
at the first one that it does not let pass. -/
theorem rangeWhile_cases (hl : l.Nodup) (m : Map α β) :
    ((rangeWhile f l m).2 = true ∧ (∀ a ∈ l, ∀ b, m.lookup a = some b → (f a b).2 = true) ∧
      Replaced f m (rangeWhile f l m).1 l) ∨
    ∃ before a b after, l = before ++ a :: after ∧ (rangeWhile f l m).2 = false ∧
      m.lookup a = some b ∧ (f a b).2 = false ∧
      Replaced f m (rangeWhile f l m).1 (before ++ [a]) := by
  induction l generalizing m with
  | nil => exact .inl ⟨rfl, nofun, fun k => rfl⟩
  | cons a l ih =>
    obtain ⟨ha, hl⟩ := List.nodup_cons.mp hl
    unfold rangeWhile
    cases hb : m.lookup a with
    | none =>
      rcases ih hl m with ⟨hdone, hall, hrep⟩ | ⟨before, a', b, after, rfl, hstop, hb', hf, hrep⟩
      · refine .inl ⟨hdone, List.forall_mem_cons.mpr ⟨fun b h => ?_, hall⟩, hrep.cons_absent hb⟩
        rw [hb] at h
        cases h
      · exact .inr ⟨a :: before, a', b, after, rfl, hstop, hb', hf, hrep.cons_absent hb⟩
    | some b =>
      have hnone : Replaced f (m.insert a (f a b).1) (m.insert a (f a b).1) [] := fun k => rfl
      have hfirst : Replaced f m (m.insert a (f a b).1) [a] := hnone.cons List.not_mem_nil hb
      have hne : ∀ k ∈ l, k ≠ a := fun k hk e => ha (e ▸ hk)
      simp only
      by_cases hf : (f a b).2 = true
      · rw [if_pos hf]
        rcases ih hl (m.insert a (f a b).1) with
          ⟨hdone, hall, hrep⟩ | ⟨before, a', b', after, rfl, hstop, hb', hf', hrep⟩
        · refine .inl ⟨hdone, List.forall_mem_cons.mpr ⟨fun b' h => ?_, fun k hk b' h => ?_⟩,
            hrep.cons ha hb⟩
          · rw [hb] at h
            cases h
            exact hf
          · refine hall k hk b' ?_
            rw [lookup_insert_if, if_neg (hne k hk), h]
        · have hmem : a' ∈ before ++ a' :: after :=
            List.mem_append_right _ List.mem_cons_self
          rw [lookup_insert_if, if_neg (hne a' hmem)] at hb'
          refine .inr ⟨a :: before, a', b', after, rfl, hstop, hb', hf', hrep.cons ?_ hb⟩
          rw [List.append_cons] at ha
          exact fun h => ha (List.mem_append_left _ h)
      · rw [if_neg hf]
        exact .inr ⟨[], a, b, l, rfl, rfl, hb, by simpa using hf, hfirst⟩

/-- The loop has got to the value, or it has not. -/
theorem lookup_rangeWhile (hl : l.Nodup) (m : Map α β) (k : α) :
    (rangeWhile f l m).1.lookup k = m.lookup k ∨
      (rangeWhile f l m).1.lookup k = (m.lookup k).map fun b => (f k b).1 := by
  rcases rangeWhile_cases (f := f) hl m with ⟨-, -, hrep⟩ | ⟨_, _, _, _, -, -, -, -, hrep⟩
  · exact hrep.cases k
  · exact hrep.cases k

end

end Map

variable {α κ : Type} [DecidableEq κ]

/-- Records under the keys they carry. -/
structure Table (key : α → κ) where
  map : AList fun _ : κ => α
  keyed : ∀ k a, map.lookup k = some a → key a = k

namespace Table

variable {key : α → κ}

def empty : Table key := ⟨∅, fun _ _ h => by simp at h⟩

def get (t : Table key) (k : κ) : Option α := t.map.lookup k

def put (t : Table key) (a : α) : Table key where
  map := t.map.insert (key a) a
  keyed k b h := by
    by_cases e : k = key a
    · subst e; rw [AList.lookup_insert] at h; cases h; rfl
    · rw [AList.lookup_insert_ne e] at h; exact t.keyed k b h

def erase (t : Table key) (k : κ) : Table key where
  map := t.map.erase k
  keyed k' b h := by
    by_cases e : k' = k
    · subst e; rw [AList.lookup_erase] at h; cases h
    · rw [AList.lookup_erase_ne e] at h; exact t.keyed k' b h

def toList (t : Table key) : List α := t.map.entries.map Sigma.snd

theorem get_empty (k : κ) : (empty : Table key).get k = none := by
  simp [get, empty]

theorem key_of_get {t : Table key} {k : κ} {a : α} (h : t.get k = some a) : key a = k :=
  t.keyed k a h

theorem get_put (t : Table key) (a : α) (k : κ) :
    (t.put a).get k = if k = key a then some a else t.get k := by
  unfold get put
  by_cases e : k = key a
  · subst e; simp
  · rw [if_neg e]; exact AList.lookup_insert_ne e

theorem get_erase (t : Table key) (k k' : κ) :
    (t.erase k).get k' = if k' = k then none else t.get k' := by
  unfold get erase
  by_cases e : k' = k
  · subst e; simp
  · rw [if_neg e]; exact AList.lookup_erase_ne e

theorem mem_toList {t : Table key} {a : α} : a ∈ t.toList ↔ t.get (key a) = some a := by
  unfold toList get
  constructor
  · intro h
    obtain ⟨⟨k, b⟩, hb, rfl⟩ := List.mem_map.mp h
    have hl : t.map.lookup k = some b := AList.mem_lookup_iff.mpr hb
    rwa [t.keyed k b hl]
  · intro h
    exact List.mem_map.mpr ⟨⟨key a, a⟩, AList.mem_lookup_iff.mp h, rfl⟩

theorem nodup_toList (t : Table key) : t.toList.Nodup := by
  unfold toList
  refine List.Nodup.map_on ?_ (List.NodupKeys.nodup t.map.nodupKeys)
  rintro ⟨k, a⟩ ha ⟨k', b⟩ hb rfl
  have h1 := t.keyed k a (AList.mem_lookup_iff.mpr ha)
  have h2 := t.keyed k' a (AList.mem_lookup_iff.mpr hb)
  rw [← h1, ← h2]

end Table

/-- A way to arrange a list. -/
structure Shuffle (α : Type) where
  arrange : List α → List α
  perm : ∀ l, (arrange l).Perm l

/-- As they come. -/
def Shuffle.refl (α : Type) : Shuffle α := ⟨id, fun l => .refl l⟩

theorem Shuffle.mem (f : Shuffle α) {l : List α} {a : α} : a ∈ f.arrange l ↔ a ∈ l :=
  (f.perm l).mem_iff

/-- With the element in front, if there is one. -/
def Shuffle.toFront [DecidableEq α] (a : α) : Shuffle α where
  arrange l := if a ∈ l then a :: l.erase a else l
  perm l := by
    split
    · next ha => exact (List.perm_cons_erase ha).symm
    · exact .refl l

/-- **The order shows** unless there is only one element. -/
theorem arrange_const_iff [DecidableEq α] {l : List α} :
    (∀ f g : Shuffle α, f.arrange l = g.arrange l) ↔ ∀ a ∈ l, ∀ b ∈ l, a = b := by
  constructor
  · intro h a ha b hb
    have hfront : (Shuffle.toFront a).arrange l = (Shuffle.toFront b).arrange l := h _ _
    simp only [Shuffle.toFront, if_pos ha, if_pos hb] at hfront
    exact (List.cons.inj hfront).1
  · intro h f g
    cases l with
    | nil => rw [List.perm_nil.mp (f.perm []), List.perm_nil.mp (g.perm [])]
    | cons a l =>
      have hall : ∀ f : Shuffle α, f.arrange (a :: l) = List.replicate (l.length + 1) a :=
        fun f => List.eq_replicate_iff.mpr
          ⟨(f.perm (a :: l)).length_eq, fun b hb => h b (f.mem.mp hb) a List.mem_cons_self⟩
      rw [hall f, hall g]

/-- The only element that passes is found, wherever it is. -/
theorem find_eq_some_of_unique {l : List α} {p : α → Bool} {a : α} (ha : a ∈ l) (hp : p a = true)
    (hu : ∀ b ∈ l, p b = true → b = a) : l.find? p = some a := by
  cases hf : l.find? p with
  | none => exact absurd hp (List.find?_eq_none.mp hf a ha)
  | some b => rw [hu b (List.mem_of_find?_eq_some hf) (List.find?_some hf)]

/-- Where no two answers differ, the order of those who are asked does not matter. -/
theorem findSome_eq_of_perm {l l' : List α} {f : α → Option β} (h : l.Perm l')
    (hu : ∀ a ∈ l, ∀ b ∈ l, ∀ x ∈ f a, ∀ y ∈ f b, x = y) : l.findSome? f = l'.findSome? f := by
  cases hl : l.findSome? f with
  | none =>
    rw [List.findSome?_eq_none_iff] at hl
    exact (List.findSome?_eq_none_iff.mpr fun a ha => hl a (h.mem_iff.mpr ha)).symm
  | some x =>
    obtain ⟨a, ha, hx⟩ := List.exists_of_findSome?_eq_some hl
    cases hl' : l'.findSome? f with
    | none =>
      rw [List.findSome?_eq_none_iff.mp hl' a (h.mem_iff.mp ha)] at hx
      cases hx
    | some y =>
      obtain ⟨b, hb, hy⟩ := List.exists_of_findSome?_eq_some hl'
      rw [hu a ha b (h.mem_iff.mpr hb) x hx y hy]

theorem pairwise_of_forall₂ {R : α → β → Prop} {P : α → α → Prop} {Q : β → β → Prop}
    {l : List α} {m : List β} (h : List.Forall₂ R l m) (hm : m.Pairwise Q)
    (hPQ : ∀ a a' b b', R a b → R a' b' → Q b b' → P a a') : l.Pairwise P := by
  obtain ⟨hlen, hR⟩ := List.forall₂_iff_get.mp h
  refine List.pairwise_iff_getElem.mpr fun i j hi hj hij => ?_
  have hi' : i < m.length := hlen ▸ hi
  have hj' : j < m.length := hlen ▸ hj
  exact hPQ _ _ _ _ (hR i hi hi') (hR j hj hj')
    (List.pairwise_iff_getElem.mp hm i j hi' hj' hij)

/-- A list without repeats filters to one element exactly when that element,
and no other, passes. -/
theorem filter_eq_singleton {l : List α} (hl : l.Nodup) {p : α → Bool} {a : α} :
    l.filter p = [a] ↔ a ∈ l ∧ p a = true ∧ ∀ b ∈ l, p b = true → b = a := by
  constructor
  · intro h
    have ha : a ∈ l.filter p := by rw [h]; exact List.mem_singleton_self a
    refine ⟨(List.mem_filter.mp ha).1, (List.mem_filter.mp ha).2, fun b hb hp => ?_⟩
    have : b ∈ l.filter p := List.mem_filter.mpr ⟨hb, hp⟩
    rw [h] at this
    exact List.mem_singleton.mp this
  · rintro ⟨ha, hp, huniq⟩
    refine List.perm_singleton.mp ((List.perm_ext_iff_of_nodup (hl.filter p) (by simp)).mpr ?_)
    intro b
    rw [List.mem_filter, List.mem_singleton]
    exact ⟨fun ⟨hb, hpb⟩ => huniq b hb hpb, fun e => e ▸ ⟨ha, hp⟩⟩

end Lib
