import ClusterRegistry.Api.Types

/-!
# Matching objects and collecting mutations

`SyncRuleMatch.match` runs the checks of one match block in the order of the
source, `ResourceSyncRuleSpec.match` collects the rules that match, and the
`MatchedRules` getters merge their mutations. A later rule's additions win;
every rule's removals count.
-/

namespace ClusterRegistry

open Lib

variable (x : External)

/-- `AnnotationSelector.convertMatchExpressions`. -/
def AnnotationSelector.convertMatchExpressions (s : AnnotationSelector) :
    Option (List LabelSelectorRequirement) :=
  some ((elems s.matchExpressions).map fun r => ⟨r.key, r.operator, some (elems r.values)⟩)

namespace SyncRuleMatch

/-- The label loop: the first selector that accepts ends it. -/
def matchLabels (labels : StringMap) : List LabelSelector → Except Err Bool
  | [] => .ok false
  | sel :: rest => do
    let matcher ← x.labelSelectorAsSelector sel
    if matcher labels then return true
    matchLabels labels rest

/-- The annotation loop: it converts every selector, also after one accepts. -/
def matchAnnotations (annotations : StringMap) (found : Bool) :
    List AnnotationSelector → Except Err Bool
  | [] => .ok found
  | sel :: rest => do
    let matcher ← x.labelSelectorAsSelector ⟨sel.matchAnnotations, sel.convertMatchExpressions⟩
    matchAnnotations annotations (found || matcher annotations) rest

/-- One content selector against the lookup in the object's JSON. -/
def matchContent (find : String → Option GJson) (c : ContentSelector) : Bool :=
  match find c.key with
  | none => false
  | some res =>
    match c.value with
    | .int v => res.int == v
    | .string v => res.string == v

def «match» (m : SyncRuleMatch) (obj : Obj) : Except Err Bool := do
  if m.objectKey.name != "" && m.objectKey.name != obj.name then return false
  if m.objectKey.namespace != "" && m.objectKey.namespace != obj.namespace then return false
  if !(elems m.namespaces).isEmpty && obj.namespace != "" then
    if !(elems m.namespaces).contains obj.namespace then return false
  if !(elems m.labels).isEmpty then
    if !(← matchLabels x obj.labels (elems m.labels)) then return false
  if !(elems m.annotations).isEmpty then
    if !(← matchAnnotations x obj.annotations false (elems m.annotations)) then return false
  if !(elems m.content).isEmpty then
    let find ← x.gjson obj
    if !(elems m.content).all (matchContent find) then return false
  return true

end SyncRuleMatch

/-- The match blocks of a rule, tried in order. -/
def SyncRule.matchBlocks (obj : Obj) : List SyncRuleMatch → Except Err Bool
  | [] => .ok false
  | m :: rest => do
    if ← m.match x obj then return true
    matchBlocks obj rest

def SyncRule.match (r : SyncRule) (obj : Obj) : Except Err Bool :=
  if (elems r.matches).isEmpty then .ok true else matchBlocks x obj (elems r.matches)

abbrev MatchedRules : Type := List SyncRule

/-- The rule loop of `ResourceSyncRuleSpec.Match`, with the rules matched so far. -/
def ResourceSyncRuleSpec.matchRules (obj : Obj) (matched : MatchedRules) :
    List SyncRule → MatchedRules × Option Err
  | [] => (matched, none)
  | r :: rest =>
    match r.match x obj with
    | .error e => (matched, some e)
    | .ok ok => matchRules obj (if ok then matched ++ [r] else matched) rest

/-- `ResourceSyncRuleSpec.Match`: all three results, as Go returns them. -/
def ResourceSyncRuleSpec.match (s : ResourceSyncRuleSpec) (obj : Obj) :
    Bool × MatchedRules × Option Err :=
  if obj.gvk != s.gvk then (false, [], none)
  else
    match matchRules x obj [] (elems s.rules) with
    | (matched, some e) => (false, matched, some e)
    | (matched, none) => (!matched.isEmpty, matched, none)

def ResourceSyncRule.match (s : ResourceSyncRule) (obj : Obj) : Bool × MatchedRules × Option Err :=
  s.spec.match x obj

namespace MatchedRules

/-- One rule's part of `GetMutatedGVK`. -/
def mutateGVK (acc : Bool × GVK) (r : SyncRule) : Bool × GVK :=
  let m := r.mutations.getGVK
  if m.empty then acc
  else (true,
    { group := if m.group != "" then m.group else acc.2.group
      version := if m.version != "" then m.version else acc.2.version
      kind := if m.kind != "" then m.kind else acc.2.kind })

def getMutatedGVK (r : MatchedRules) (gvk : GVK) : Bool × GVK := r.foldl mutateGVK (false, gvk)

/-- One rule's part of `mergeMutations`. -/
def mergeRule (sel : Mutations → MapMutations) (m : StringMap × List String) (rule : SyncRule) :
    StringMap × List String :=
  (entries (sel rule.mutations).add ∪ m.1, m.2 ++ elems (sel rule.mutations).remove)

/-- The merge that `GetMutationLabels` and `GetMutationAnnotations` share. -/
def mergeMutations (sel : Mutations → MapMutations) (r : MatchedRules) : StringMap × List String :=
  r.foldl (mergeRule sel) (∅, [])

def getMutationLabels (r : MatchedRules) : StringMap × List String :=
  mergeMutations Mutations.getLabels r

def getMutationAnnotations (r : MatchedRules) : StringMap × List String :=
  mergeMutations Mutations.getAnnotations r

def getMutationOverrides (r : MatchedRules) : List OverlayPatch :=
  r.flatMap fun rule => elems rule.mutations.overrides

def getMutationSyncStatus (r : MatchedRules) : Bool := r.any fun rule => rule.mutations.syncStatus

end MatchedRules

/-! ## The rules matched, and the keys they mention -/

theorem ResourceSyncRuleSpec.matchRules_subset {x : External} {obj : Obj} {acc : MatchedRules}
    {l : List SyncRule} {r : SyncRule} (h : r ∈ (matchRules x obj acc l).1) : r ∈ acc ∨ r ∈ l := by
  induction l generalizing acc with
  | nil => exact .inl h
  | cons a l ih =>
    unfold matchRules at h
    split at h
    · exact .inl h
    · rcases ih h with h | h
      · split at h
        · rcases List.mem_append.mp h with h | h
          · exact .inl h
          · exact .inr (List.mem_cons.mpr (.inl (List.mem_singleton.mp h)))
        · exact .inl h
      · exact .inr (List.mem_cons_of_mem _ h)

/-- The rules matched are rules of the spec. -/
theorem ResourceSyncRule.match_subset {x : External} {s : ResourceSyncRule} {obj : Obj} {ok : Bool}
    {m : MatchedRules} {e : Option Err} (h : s.match x obj = (ok, m, e)) :
    ∀ r ∈ m, r ∈ elems s.spec.rules := by
  intro r hr
  unfold ResourceSyncRule.match ResourceSyncRuleSpec.match at h
  split at h
  · cases h; cases hr
  · have key : r ∈ (ResourceSyncRuleSpec.matchRules x obj [] (elems s.spec.rules)).1 := by
      split at h
      · next hm => cases h; rw [hm]; exact hr
      · next hm => cases h; rw [hm]; exact hr
    exact (ResourceSyncRuleSpec.matchRules_subset key).resolve_left (by simp)

/-- The key is neither added nor removed. -/
def MapMutations.Spares (m : MapMutations) (key : String) : Prop :=
  key ∉ entries m.add ∧ key ∉ elems m.remove

end ClusterRegistry
