import ClusterRegistry.Api.Match
import ClusterRegistry.Lib.Effect

/-!
# What a rule selects

The meaning of `Match`, apart from how its loops run. A match block `Holds` of
an object when each of its lists is empty or has an entry that accepts the
object; a rule `Selects` an object when it has no match block or one that
holds. As long as all selectors can be converted the loops compute just that;
`Fails` says where they stop with an error otherwise.
-/

namespace ClusterRegistry

open Lib

variable (x : External)

/-! ## Selectors -/

/-- `LabelSelectorAsSelector` takes the selector. -/
def LabelSelector.converts (sel : LabelSelector) : Bool := (x.labelSelectorAsSelector sel).isOk

/-- The selector, converted, accepts the labels. -/
def LabelSelector.accepts (sel : LabelSelector) (labels : StringMap) : Bool :=
  match x.labelSelectorAsSelector sel with
  | .ok matcher => matcher labels
  | .error _ => false

/-- The label selector that stands for the annotation selector. -/
def AnnotationSelector.converted (sel : AnnotationSelector) : LabelSelector :=
  ⟨sel.matchAnnotations, sel.convertMatchExpressions⟩

/-- The value found under a key is the required one. -/
def IntOrString.Is : IntOrString → GJson → Prop
  | .int v, res => res.int = v
  | .string v, res => res.string = v

theorem labelSelectorAsSelector_cases (sel : LabelSelector) (labels : StringMap) :
    (sel.converts x = true ∧
      (x.labelSelectorAsSelector sel).map (· labels) = .ok (sel.accepts x labels)) ∨
    (sel.converts x = false ∧
      ∃ e, (x.labelSelectorAsSelector sel).map (· labels) = .error e) := by
  unfold LabelSelector.converts LabelSelector.accepts
  cases x.labelSelectorAsSelector sel with
  | ok matcher => exact .inl ⟨rfl, rfl⟩
  | error e => exact .inr ⟨rfl, e, rfl⟩

namespace SyncRuleMatch

/-- The label loop stops at the first selector that is not a plain no. -/
theorem matchLabels_eq (labels : StringMap) (l : List LabelSelector) :
    matchLabels x labels l = l.anyM fun sel => (x.labelSelectorAsSelector sel).map (· labels) := by
  induction l with
  | nil => rfl
  | cons sel rest ih =>
    rw [matchLabels, List.anyM_cons, ih]
    cases x.labelSelectorAsSelector sel with
    | error e => rfl
    | ok matcher =>
      show (if matcher labels = true then _ else _) = Except.bind (.ok (matcher labels)) _
      cases matcher labels <;> rfl

theorem matchLabels_of_converts {labels : StringMap} {l : List LabelSelector}
    (h : ∀ sel ∈ l, sel.converts x = true) :
    matchLabels x labels l = .ok (l.any (·.accepts x labels)) := by
  rw [matchLabels_eq]
  refine anyM_of_ok fun sel hsel => ?_
  rcases labelSelectorAsSelector_cases x sel labels with ⟨-, hok⟩ | ⟨hno, -⟩
  · exact hok
  · rw [h sel hsel] at hno; cases hno

/-- The annotation loop converts all selectors, whether one has accepted or not. -/
theorem matchAnnotations_of_converts {annotations : StringMap} {l : List AnnotationSelector}
    (h : ∀ sel ∈ l, sel.converted.converts x = true) (found : Bool) :
    matchAnnotations x annotations found l =
      .ok (found || l.any (·.converted.accepts x annotations)) := by
  induction l generalizing found with
  | nil => simp [matchAnnotations]
  | cons sel rest ih =>
    have hsel := h sel List.mem_cons_self
    have hrest := fun found => ih (fun s hs => h s (List.mem_cons_of_mem _ hs)) found
    unfold matchAnnotations
    rw [List.any_cons, ← Bool.or_assoc]
    unfold LabelSelector.converts AnnotationSelector.converted at hsel
    unfold LabelSelector.accepts AnnotationSelector.converted
    cases hc : x.labelSelectorAsSelector ⟨sel.matchAnnotations, sel.convertMatchExpressions⟩ with
    | error e => rw [hc] at hsel; cases hsel
    | ok matcher => exact hrest _

theorem matchAnnotations_fails_iff {annotations : StringMap} {l : List AnnotationSelector}
    {found : Bool} : (∃ e, matchAnnotations x annotations found l = .error e) ↔
      ∃ sel ∈ l, sel.converted.converts x = false := by
  constructor
  · rintro ⟨e, he⟩
    by_contra hall
    have hconv : ∀ sel ∈ l, sel.converted.converts x = true := fun sel hsel =>
      (Bool.eq_false_or_eq_true _).resolve_right fun hno => hall ⟨sel, hsel, hno⟩
    rw [matchAnnotations_of_converts x hconv] at he
    cases he
  · rintro ⟨sel, hsel, hno⟩
    induction l generalizing found with
    | nil => cases hsel
    | cons s rest ih =>
      unfold matchAnnotations
      cases hc : x.labelSelectorAsSelector ⟨s.matchAnnotations, s.convertMatchExpressions⟩ with
      | error e => exact ⟨e, rfl⟩
      | ok matcher =>
        rcases List.mem_cons.mp hsel with rfl | hsel
        · unfold LabelSelector.converts AnnotationSelector.converted at hno
          rw [hc] at hno
          cases hno
        · exact ih hsel

theorem matchContent_iff {find : String → Option GJson} {c : ContentSelector} :
    matchContent find c = true ↔ ∃ res, find c.key = some res ∧ c.value.Is res := by
  unfold matchContent IntOrString.Is
  cases find c.key with
  | none => simp
  | some res => cases c.value <;> simp

/-! ## Match blocks -/

/-- The checks of name and namespace. -/
def located (m : SyncRuleMatch) (obj : Obj) : Bool :=
  !(m.objectKey.name != "" && m.objectKey.name != obj.name) &&
    !(m.objectKey.namespace != "" && m.objectKey.namespace != obj.namespace) &&
    !((!(elems m.namespaces).isEmpty && obj.namespace != "") &&
      !(elems m.namespaces).contains obj.namespace)

/-- A check over a list of selectors that may be empty. -/
def unlessEmpty {α : Type} (l : List α) (check : List α → Except Err Bool) : Except Err Bool :=
  if l.isEmpty then .ok true else check l

/-- The checks of labels, annotations and content. -/
def labelled (m : SyncRuleMatch) (obj : Obj) : Except Err Bool :=
  unlessEmpty (elems m.labels) (matchLabels x obj.labels)

def annotated (m : SyncRuleMatch) (obj : Obj) : Except Err Bool :=
  unlessEmpty (elems m.annotations) (matchAnnotations x obj.annotations false)

def contains (m : SyncRuleMatch) (obj : Obj) : Except Err Bool :=
  unlessEmpty (elems m.content) fun l => (x.gjson obj).map fun find => l.all (matchContent find)

private theorem check_eq {α : Type} (l : List α) (check : List α → Except Err Bool)
    (rest : Except Err Bool) :
    (if (!l.isEmpty) = true then (do
      let ok ← check l
      if (!ok) = true then pure false else rest) else rest) =
        andThen (unlessEmpty l check) rest := by
  unfold andThen unlessEmpty
  cases l.isEmpty with
  | true => rfl
  | false =>
    simp only [Bool.not_false, if_true, Bool.false_eq_true, if_false]
    cases check l with
    | error e => rfl
    | ok ok => cases ok <;> rfl

/-- The checks of a block, each only if those before it passed. -/
theorem match_eq (m : SyncRuleMatch) (obj : Obj) : m.match x obj =
    andThen (.ok (m.located obj))
      (andThen (m.labelled x obj) (andThen (m.annotated x obj) (m.contains x obj))) := by
  have hcontent : (if (!(elems m.content).isEmpty) = true then (do
        let find ← x.gjson obj
        if (!(elems m.content).all (matchContent find)) = true then pure false else pure true)
      else pure true) = m.contains x obj := by
    unfold contains unlessEmpty
    cases (elems m.content).isEmpty with
    | true => rfl
    | false =>
      cases x.gjson obj with
      | error e => rfl
      | ok find =>
        show (if (!(elems m.content).all (matchContent find)) = true then _ else _) =
          Except.ok ((elems m.content).all (matchContent find))
        cases (elems m.content).all (matchContent find) <;> rfl
  unfold SyncRuleMatch.match
  simp only [check_eq, hcontent]
  unfold located
  cases m.objectKey.name != "" && m.objectKey.name != obj.name with
  | true => rfl
  | false =>
    cases m.objectKey.namespace != "" && m.objectKey.namespace != obj.namespace with
    | true => rfl
    | false =>
      cases !(elems m.namespaces).isEmpty && obj.namespace != "" with
      | false => rfl
      | true => cases (elems m.namespaces).contains obj.namespace <;> rfl

/-- The block accepts the object; `find` looks up paths in its JSON. -/
structure Holds (find : String → Option GJson) (m : SyncRuleMatch) (obj : Obj) : Prop where
  name : m.objectKey.name = "" ∨ m.objectKey.name = obj.name
  «namespace» : m.objectKey.namespace = "" ∨ m.objectKey.namespace = obj.namespace
  /-- A cluster-scoped object has no namespace. -/
  namespaces : elems m.namespaces = [] ∨ obj.namespace ∈ elems m.namespaces ∨ obj.namespace = ""
  labels : elems m.labels = [] ∨ ∃ sel ∈ elems m.labels, sel.accepts x obj.labels = true
  annotations : elems m.annotations = [] ∨
    ∃ sel ∈ elems m.annotations, sel.converted.accepts x obj.annotations = true
  content : ∀ c ∈ elems m.content, ∃ res, find c.key = some res ∧ c.value.Is res

/-- All selectors of the block can be converted. -/
def Convertible (m : SyncRuleMatch) : Prop :=
  (∀ sel ∈ elems m.labels, sel.converts x = true) ∧
    ∀ sel ∈ elems m.annotations, sel.converted.converts x = true

theorem located_iff {m : SyncRuleMatch} {obj : Obj} : m.located obj = true ↔
    (m.objectKey.name = "" ∨ m.objectKey.name = obj.name) ∧
      (m.objectKey.namespace = "" ∨ m.objectKey.namespace = obj.namespace) ∧
      (elems m.namespaces = [] ∨ obj.namespace ∈ elems m.namespaces ∨ obj.namespace = "") := by
  unfold located
  simp only [Bool.and_eq_true, Bool.not_eq_true', Bool.and_eq_false_iff, bne_eq_false_iff_eq,
    Bool.not_eq_false', List.isEmpty_iff, List.contains_iff_mem, and_assoc]
  rw [or_assoc, or_comm (a := obj.namespace = "")]

private theorem unlessEmpty_any {α : Type} {l : List α} {check : List α → Except Err Bool}
    {p : α → Bool} (h : check l = .ok (l.any p)) :
    ∃ b, unlessEmpty l check = .ok b ∧ (b = true ↔ l = [] ∨ ∃ a ∈ l, p a = true) := by
  unfold unlessEmpty
  cases l with
  | nil => exact ⟨true, rfl, by simp⟩
  | cons a l => exact ⟨_, h, by simp⟩

variable {x} {m : SyncRuleMatch} {obj : Obj} {find : String → Option GJson}

theorem labelled_of_convertible (obj : Obj) (h : m.Convertible x) : ∃ b, m.labelled x obj = .ok b ∧
    (b = true ↔ elems m.labels = [] ∨ ∃ sel ∈ elems m.labels, sel.accepts x obj.labels = true) :=
  unlessEmpty_any (matchLabels_of_converts x h.1)

theorem annotated_of_convertible (obj : Obj) (h : m.Convertible x) :
    ∃ b, m.annotated x obj = .ok b ∧ (b = true ↔ elems m.annotations = [] ∨
      ∃ sel ∈ elems m.annotations, sel.converted.accepts x obj.annotations = true) :=
  unlessEmpty_any (matchAnnotations_of_converts x h.2 false)

theorem contains_of_found (h : x.gjson obj = .ok find) : ∃ b, m.contains x obj = .ok b ∧
    (b = true ↔ ∀ c ∈ elems m.content, ∃ res, find c.key = some res ∧ c.value.Is res) := by
  unfold contains unlessEmpty
  rw [h]
  cases elems m.content with
  | nil => exact ⟨true, rfl, by simp⟩
  | cons c l =>
    refine ⟨(c :: l).all (matchContent find), rfl, ?_⟩
    rw [List.all_eq_true]
    exact forall₂_congr fun c _ => matchContent_iff

theorem holds_iff : m.Holds x find obj ↔ m.located obj = true ∧
    (elems m.labels = [] ∨ ∃ sel ∈ elems m.labels, sel.accepts x obj.labels = true) ∧
    (elems m.annotations = [] ∨
      ∃ sel ∈ elems m.annotations, sel.converted.accepts x obj.annotations = true) ∧
    ∀ c ∈ elems m.content, ∃ res, find c.key = some res ∧ c.value.Is res := by
  rw [located_iff]
  constructor
  · rintro ⟨hname, hns, hnss, hlabels, hannotations, hcontent⟩
    exact ⟨⟨hname, hns, hnss⟩, hlabels, hannotations, hcontent⟩
  · rintro ⟨⟨hname, hns, hnss⟩, hlabels, hannotations, hcontent⟩
    exact ⟨hname, hns, hnss, hlabels, hannotations, hcontent⟩

/-- **A match block**: with convertible selectors it is evaluated without an
error, to whether it holds. -/
theorem match_of_convertible (h : m.Convertible x) (hfind : x.gjson obj = .ok find) :
    ∃ b, m.match x obj = .ok b ∧ (b = true ↔ m.Holds x find obj) := by
  obtain ⟨lb, hl, hlabels⟩ := labelled_of_convertible obj h
  obtain ⟨ab, ha, hannotations⟩ := annotated_of_convertible obj h
  obtain ⟨cb, hc, hcontent⟩ := contains_of_found (m := m) hfind
  refine ⟨m.located obj && (lb && (ab && cb)), ?_, ?_⟩
  · rw [match_eq, hl, ha, hc, andThen_ok, andThen_ok, andThen_ok]
  · rw [holds_iff, Bool.and_eq_true, Bool.and_eq_true, Bool.and_eq_true, hlabels, hannotations,
      hcontent]

instance (find : String → Option GJson) (m : SyncRuleMatch) (obj : Obj) :
    Decidable (m.Holds x find obj) :=
  decidable_of_iff (m.located obj = true ∧
      (elems m.labels = [] ∨ ∃ sel ∈ elems m.labels, sel.accepts x obj.labels = true) ∧
      (elems m.annotations = [] ∨
        ∃ sel ∈ elems m.annotations, sel.converted.accepts x obj.annotations = true) ∧
      ∀ c ∈ elems m.content, matchContent find c = true) <| by
    simp only [holds_iff, matchContent_iff]

end SyncRuleMatch

/-! ## Rules -/

namespace SyncRule

variable {x} {obj : Obj} {find : String → Option GJson}

/-- The loop over the match blocks stops at the first one that is not a plain no. -/
theorem matchBlocks_eq (obj : Obj) (l : List SyncRuleMatch) :
    matchBlocks x obj l = l.anyM (·.match x obj) := by
  induction l with
  | nil => rfl
  | cons m rest ih =>
    rw [matchBlocks, List.anyM_cons, ih]

variable (x) in
/-- The rule has no match block, or one that holds. -/
def Selects (find : String → Option GJson) (r : SyncRule) (obj : Obj) : Prop :=
  elems r.matches = [] ∨ ∃ m ∈ elems r.matches, m.Holds x find obj

instance (find : String → Option GJson) (r : SyncRule) (obj : Obj) :
    Decidable (r.Selects x find obj) :=
  inferInstanceAs (Decidable (elems r.matches = [] ∨ ∃ m ∈ elems r.matches, m.Holds x find obj))

variable (x) in
def Convertible (r : SyncRule) : Prop := ∀ m ∈ elems r.matches, m.Convertible x

/-- **A rule** with convertible selectors matches what it selects. -/
theorem match_of_convertible {r : SyncRule} (h : r.Convertible x) (hfind : x.gjson obj = .ok find) :
    r.match x obj = .ok (decide (r.Selects x find obj)) := by
  unfold SyncRule.match
  by_cases hl : elems r.matches = []
  · have hsel : r.Selects x find obj := .inl hl
    rw [if_pos (by simp [hl]), decide_eq_true hsel]
  · rw [if_neg (by simpa using hl), matchBlocks_eq,
      anyM_of_ok (p := fun m => decide (m.Holds x find obj)) fun m hm => ?_]
    · congr 1
      rw [Bool.eq_iff_iff]
      simp [Selects, hl]
    · obtain ⟨b, hb, hiff⟩ := SyncRuleMatch.match_of_convertible (h m hm) hfind
      rw [hb]
      congr 1
      rw [Bool.eq_iff_iff, decide_eq_true_iff]
      exact hiff

end SyncRule

/-! ## Lists that only differ in order and repetition -/

/-- Each entry of either list has its like in the other. -/
def Alike {α : Type} (R : α → α → Prop) (l l' : List α) : Prop :=
  (∀ a ∈ l, ∃ b ∈ l', R a b) ∧ ∀ b ∈ l', ∃ a ∈ l, R a b

namespace Alike

variable {α : Type} {R : α → α → Prop} {l l' : List α}

theorem mem_iff (h : Alike Eq l l') (a : α) : a ∈ l ↔ a ∈ l' := by
  constructor
  · intro ha
    obtain ⟨b, hb, rfl⟩ := h.1 a ha
    exact hb
  · intro ha
    obtain ⟨b, hb, rfl⟩ := h.2 a ha
    exact hb

theorem eq_nil_iff (h : Alike R l l') : l = [] ↔ l' = [] := by
  simp only [List.eq_nil_iff_forall_not_mem]
  constructor
  · intro hl b hb
    obtain ⟨a, ha, -⟩ := h.2 b hb
    exact hl a ha
  · intro hl a ha
    obtain ⟨b, hb, -⟩ := h.1 a ha
    exact hl b hb

theorem exists_iff (h : Alike R l l') {p q : α → Prop} (hpq : ∀ a b, R a b → (p a ↔ q b)) :
    (∃ a ∈ l, p a) ↔ ∃ b ∈ l', q b := by
  constructor
  · rintro ⟨a, ha, hp⟩
    obtain ⟨b, hb, hab⟩ := h.1 a ha
    exact ⟨b, hb, (hpq a b hab).mp hp⟩
  · rintro ⟨b, hb, hq⟩
    obtain ⟨a, ha, hab⟩ := h.2 b hb
    exact ⟨a, ha, (hpq a b hab).mpr hq⟩

end Alike

/-- The same block up to the order and repetition of its selectors. -/
structure SyncRuleMatch.Alike (m m' : SyncRuleMatch) : Prop where
  objectKey : m'.objectKey = m.objectKey
  namespaces : ClusterRegistry.Alike Eq (elems m.namespaces) (elems m'.namespaces)
  labels : ClusterRegistry.Alike Eq (elems m.labels) (elems m'.labels)
  annotations : ClusterRegistry.Alike Eq (elems m.annotations) (elems m'.annotations)
  content : ClusterRegistry.Alike Eq (elems m.content) (elems m'.content)

def SyncRule.Alike (r r' : SyncRule) : Prop :=
  ClusterRegistry.Alike SyncRuleMatch.Alike (elems r.matches) (elems r'.matches)

def ResourceSyncRuleSpec.Alike (s s' : ResourceSyncRuleSpec) : Prop :=
  s'.gvk = s.gvk ∧ ClusterRegistry.Alike SyncRule.Alike (elems s.rules) (elems s'.rules)

section

variable {x} {find : String → Option GJson} {obj : Obj}

theorem SyncRuleMatch.Alike.holds_iff {m m' : SyncRuleMatch} (h : m.Alike m') :
    m.Holds x find obj ↔ m'.Holds x find obj := by
  have hlabels := h.labels.exists_iff (p := fun sel => sel.accepts x obj.labels = true)
    fun a b hab => by rw [hab]
  have hannotations := h.annotations.exists_iff
    (p := fun sel => sel.converted.accepts x obj.annotations = true) fun a b hab => by rw [hab]
  constructor
  · rintro ⟨h1, h2, h3, h4, h5, h6⟩
    rw [← h.objectKey] at h1 h2
    rw [h.namespaces.eq_nil_iff, h.namespaces.mem_iff] at h3
    rw [h.labels.eq_nil_iff, hlabels] at h4
    rw [h.annotations.eq_nil_iff, hannotations] at h5
    exact ⟨h1, h2, h3, h4, h5, fun c hc => h6 c ((h.content.mem_iff c).mpr hc)⟩
  · rintro ⟨h1, h2, h3, h4, h5, h6⟩
    rw [h.objectKey] at h1 h2
    rw [← h.namespaces.eq_nil_iff, ← h.namespaces.mem_iff] at h3
    rw [← h.labels.eq_nil_iff, ← hlabels] at h4
    rw [← h.annotations.eq_nil_iff, ← hannotations] at h5
    exact ⟨h1, h2, h3, h4, h5, fun c hc => h6 c ((h.content.mem_iff c).mp hc)⟩

theorem SyncRuleMatch.Alike.convertible {m m' : SyncRuleMatch} (h : m.Alike m')
    (hm : m.Convertible x) : m'.Convertible x :=
  ⟨fun sel hsel => hm.1 sel ((h.labels.mem_iff sel).mpr hsel),
    fun sel hsel => hm.2 sel ((h.annotations.mem_iff sel).mpr hsel)⟩

theorem SyncRule.Alike.selects_iff {r r' : SyncRule} (h : r.Alike r') :
    r.Selects x find obj ↔ r'.Selects x find obj := by
  unfold SyncRule.Selects
  rw [h.eq_nil_iff, h.exists_iff fun m m' hm => hm.holds_iff]

theorem SyncRule.Alike.convertible {r r' : SyncRule} (h : r.Alike r') (hr : r.Convertible x) :
    r'.Convertible x := by
  intro m' hm'
  obtain ⟨m, hm, hmm⟩ := h.2 m' hm'
  exact hmm.convertible (hr m hm)

end

/-! ## Specs -/

namespace ResourceSyncRuleSpec

def Convertible (s : ResourceSyncRuleSpec) : Prop := ∀ r ∈ elems s.rules, r.Convertible x

/-- The rules of the spec that select the object. -/
def selected (find : String → Option GJson) (s : ResourceSyncRuleSpec) (obj : Obj) :
    MatchedRules :=
  if obj.gvk = s.gvk then (elems s.rules).filter fun r => decide (r.Selects x find obj) else []

variable {x} {find : String → Option GJson} {obj : Obj}

theorem matchRules_of_ok {keep : SyncRule → Bool} {l : List SyncRule}
    (h : ∀ r ∈ l, r.match x obj = .ok (keep r)) (acc : MatchedRules) :
    matchRules x obj acc l = (acc ++ l.filter keep, none) := by
  induction l generalizing acc with
  | nil => rw [List.filter_nil, List.append_nil]; rfl
  | cons r l ih =>
    simp only [matchRules, h r List.mem_cons_self]
    rw [ih fun r' hr' => h r' (List.mem_cons_of_mem _ hr')]
    cases hk : keep r with
    | true => rw [List.filter_cons_of_pos hk, if_pos rfl, List.append_assoc]; rfl
    | false => rw [List.filter_cons_of_neg (by simp [hk]), if_neg (by simp)]

theorem match_of_convertible {s : ResourceSyncRuleSpec} (h : s.Convertible x)
    (hfind : x.gjson obj = .ok find) : s.match x obj =
      (!(s.selected x find obj).isEmpty, s.selected x find obj, none) := by
  unfold ResourceSyncRuleSpec.match selected
  by_cases hg : obj.gvk = s.gvk
  · rw [if_neg (by simp [hg]), if_pos hg, matchRules_of_ok fun r hr =>
      SyncRule.match_of_convertible (h r hr) hfind]
    rfl
  · rw [if_pos (by simpa using hg), if_neg hg]
    rfl

theorem Alike.selected_eq_nil_iff {s s' : ResourceSyncRuleSpec} (h : s.Alike s') :
    s.selected x find obj = [] ↔ s'.selected x find obj = [] := by
  have hrules : (∃ r ∈ elems s.rules, r.Selects x find obj) ↔
      ∃ r ∈ elems s'.rules, r.Selects x find obj := h.2.exists_iff fun r r' hr => hr.selects_iff
  unfold selected
  rw [h.1]
  split
  · simp only [List.filter_eq_nil_iff, decide_eq_true_iff]
    simpa using not_congr hrules
  · rfl

/-- **What `Match` computes**: with convertible selectors it returns no error and
the rules that select the object, in their order, and says yes exactly if there
are any. What it says does not depend on the order and repetition of rules,
match blocks and selectors. -/
theorem match_exact (x : External) (s : ResourceSyncRuleSpec) (h : s.Convertible x) (obj : Obj)
    (find : String → Option GJson) (hfind : x.gjson obj = .ok find) :
    s.match x obj = (!(s.selected x find obj).isEmpty, s.selected x find obj, none) ∧
    ∀ s', s.Alike s' → (s'.match x obj).1 = (s.match x obj).1 := by
  refine ⟨match_of_convertible h hfind, fun s' hs' => ?_⟩
  have h' : s'.Convertible x := by
    intro r' hr'
    obtain ⟨r, hr, hrr⟩ := hs'.2.2 r' hr'
    exact hrr.convertible (h r hr)
  rw [match_of_convertible h hfind, match_of_convertible h' hfind]
  have hempty : (s'.selected x find obj).isEmpty = (s.selected x find obj).isEmpty := by
    rw [Bool.eq_iff_iff, List.isEmpty_iff, List.isEmpty_iff]
    exact hs'.selected_eq_nil_iff.symm
  exact congrArg (!·) hempty

/-- A rule for the objects with a label. -/
def labelRule : SyncRule :=
  { «matches» := some [{ labels := some [⟨some (Finmap.singleton "app" "web"), none⟩] }] }

/-- A rule for the objects of a namespace. -/
def namespaceRule : SyncRule := { «matches» := some [{ namespaces := some ["prod"] }] }

def twoRules : ResourceSyncRuleSpec := ⟨none, ⟨"", "v1", "Secret"⟩, some [namespaceRule, labelRule]⟩

def labelledSecret : Obj :=
  { name := "s", «namespace» := "dev", labels := Finmap.singleton "app" "web",
    gvk := ⟨"", "v1", "Secret"⟩ }

theorem match_exact_twoRules :
    twoRules.selected .bare (fun _ => none) labelledSecret = [labelRule] ∧
      twoRules.match .bare labelledSecret = (true, [labelRule], none) := by
  have hsel : twoRules.selected .bare (fun _ => none) labelledSecret = [labelRule] := by
    decide +kernel
  refine ⟨hsel, ?_⟩
  rw [(match_exact .bare twoRules (fun r _ m _ => ⟨fun _ _ => rfl, fun _ _ => rfl⟩)
    labelledSecret (fun _ => none) rfl).1, hsel]
  rfl

end ResourceSyncRuleSpec

/-! ## Errors -/

/-- The evaluation of the block comes to a selector that cannot be converted, or
the object cannot be written as JSON. Label selectors are converted until one
accepts, annotation selectors all of them. -/
def SyncRuleMatch.Fails (m : SyncRuleMatch) (obj : Obj) : Prop :=
  m.located obj = true ∧
    ((∃ before sel after, elems m.labels = before ++ sel :: after ∧ sel.converts x = false ∧
        ∀ s ∈ before, s.converts x = true ∧ s.accepts x obj.labels = false) ∨
      m.labelled x obj = .ok true ∧
        ((∃ sel ∈ elems m.annotations, sel.converted.converts x = false) ∨
          m.annotated x obj = .ok true ∧ elems m.content ≠ [] ∧ (x.gjson obj).isOk = false))

/-- The blocks before it say no, and then one fails. -/
def SyncRule.Fails (r : SyncRule) (obj : Obj) : Prop :=
  ∃ before m after, elems r.matches = before ++ m :: after ∧ m.Fails x obj ∧
    ∀ b ∈ before, b.match x obj = .ok false

/-- Some rule fails: a rule that matches does not end the loop. -/
def ResourceSyncRuleSpec.Fails (s : ResourceSyncRuleSpec) (obj : Obj) : Prop :=
  obj.gvk = s.gvk ∧ ∃ r ∈ elems s.rules, r.Fails x obj

section

variable {x} {obj : Obj}

theorem SyncRuleMatch.labelled_fails_iff {m : SyncRuleMatch} :
    (∃ e, m.labelled x obj = .error e) ↔ ∃ before sel after,
      elems m.labels = before ++ sel :: after ∧ sel.converts x = false ∧
        ∀ s ∈ before, s.converts x = true ∧ s.accepts x obj.labels = false := by
  have hno : ∀ sel : LabelSelector, (x.labelSelectorAsSelector sel).map (· obj.labels) =
      .ok false ↔ sel.converts x = true ∧ sel.accepts x obj.labels = false := by
    intro sel
    rcases labelSelectorAsSelector_cases x sel obj.labels with ⟨hc, hok⟩ | ⟨hc, e, he⟩
    · simp [hc, hok]
    · simp [hc, he]
  have hbad : ∀ sel : LabelSelector, (∃ e, (x.labelSelectorAsSelector sel).map (· obj.labels) =
      .error e) ↔ sel.converts x = false := by
    intro sel
    rcases labelSelectorAsSelector_cases x sel obj.labels with ⟨hc, hok⟩ | ⟨hc, e, he⟩
    · simp [hc, hok]
    · simp [hc, he]
  unfold labelled unlessEmpty
  cases hl : elems m.labels with
  | nil => simp
  | cons a l =>
    rw [if_neg (by simp), ← hl, matchLabels_eq]
    simp only [anyM_eq_error, hno]
    constructor
    · rintro ⟨e, before, sel, after, hsplit, he, hb⟩
      exact ⟨before, sel, after, hsplit, (hbad sel).mp ⟨e, he⟩, hb⟩
    · rintro ⟨before, sel, after, hsplit, hc, hb⟩
      obtain ⟨e, he⟩ := (hbad sel).mpr hc
      exact ⟨e, before, sel, after, hsplit, he, hb⟩

theorem SyncRuleMatch.annotated_fails_iff {m : SyncRuleMatch} (obj : Obj) :
    (∃ e, m.annotated x obj = .error e) ↔
      ∃ sel ∈ elems m.annotations, sel.converted.converts x = false := by
  unfold annotated unlessEmpty
  cases hl : elems m.annotations with
  | nil => simp
  | cons a l =>
    rw [if_neg (by simp), ← hl]
    exact matchAnnotations_fails_iff x

theorem SyncRuleMatch.contains_fails_iff {m : SyncRuleMatch} :
    (∃ e, m.contains x obj = .error e) ↔ elems m.content ≠ [] ∧ (x.gjson obj).isOk = false := by
  unfold contains unlessEmpty
  cases elems m.content with
  | nil => simp
  | cons c l => cases x.gjson obj <;> simp [Except.map, Except.isOk, Except.toBool]

theorem SyncRuleMatch.fails_iff {m : SyncRuleMatch} :
    (∃ e, m.match x obj = .error e) ↔ m.Fails x obj := by
  unfold SyncRuleMatch.Fails
  rw [← labelled_fails_iff, ← annotated_fails_iff obj, ← contains_fails_iff]
  simp only [match_eq, andThen_eq_error, Except.ok.injEq, reduceCtorEq, false_or,
    exists_or, exists_and_left]

theorem SyncRule.fails_iff {r : SyncRule} : (∃ e, r.match x obj = .error e) ↔ r.Fails x obj := by
  unfold SyncRule.match SyncRule.Fails
  cases hl : elems r.matches with
  | nil => simp
  | cons m l =>
    rw [if_neg (by simp), ← hl, matchBlocks_eq]
    simp only [anyM_eq_error, ← SyncRuleMatch.fails_iff]
    constructor
    · rintro ⟨e, before, m, after, hsplit, he, hb⟩
      exact ⟨before, m, after, hsplit, ⟨e, he⟩, hb⟩
    · rintro ⟨before, m, after, hsplit, ⟨e, he⟩, hb⟩
      exact ⟨e, before, m, after, hsplit, he, hb⟩

theorem ResourceSyncRuleSpec.matchRules_fails_iff (acc : MatchedRules) {l : List SyncRule} :
    (matchRules x obj acc l).2 ≠ none ↔ ∃ r ∈ l, r.Fails x obj := by
  induction l generalizing acc with
  | nil => simp [matchRules]
  | cons r l ih =>
    simp only [matchRules, List.exists_mem_cons_iff, ← SyncRule.fails_iff (r := r)]
    cases hr : r.match x obj with
    | error e => simp
    | ok b => simpa using ih _

/-- `Match` returns an error exactly if it comes to something it cannot
evaluate, and then it says that the object does not match. -/
theorem ResourceSyncRuleSpec.match_fails_iff {s : ResourceSyncRuleSpec} :
    ((s.match x obj).2.2 ≠ none ↔ s.Fails x obj) ∧
      ((s.match x obj).2.2 ≠ none → (s.match x obj).1 = false) := by
  unfold ResourceSyncRuleSpec.match ResourceSyncRuleSpec.Fails
  by_cases hg : obj.gvk = s.gvk
  · rw [if_neg (by simp [hg]), ← matchRules_fails_iff []]
    rcases matchRules x obj [] (elems s.rules) with ⟨matched, _ | e⟩ <;> simp [hg]
  · rw [if_pos (by simpa using hg)]
    simp [hg]

end

end ClusterRegistry
