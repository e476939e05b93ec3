import ClusterRegistry.Sync.Copy

/-!
# Update events that are dropped

The watch on the remote cluster lets an update through if the two versions
differ, and asks k8s-objectmatcher for that. Its answer is a three-way merge
patch, made to bring an object up to date with a wanted one: a field that the
wanted object does not mention is left to whoever set it, unless the last-applied
annotation records it. So a removed field is no difference, even if the copy of
the object had it.

An object is the function from its fields to their values. What the payload and
the status consist of, and what a last-applied annotation records, are parameters.
-/

namespace ClusterRegistry.Sync

open Lib

/-! ## Three-way merge -/

section merge

variable {F V : Type}

/-- Nothing to do to bring `current` up to date with `wanted`: what is wanted is
there, and nothing is left of what was applied before and is not wanted any more. -/
def UpToDate (applied : F → Prop) (current wanted : F → Option V) : Prop :=
  (∀ f v, wanted f = some v → current f = some v) ∧ ∀ f, applied f → wanted f ≠ none

/-- A field is added or has another value, or one that was applied is removed. -/
def Touches (applied : F → Prop) (current wanted : F → Option V) : Prop :=
  (∃ f v, wanted f = some v ∧ current f ≠ some v) ∨ ∃ f, applied f ∧ wanted f = none

theorem touches_iff {applied : F → Prop} {current wanted : F → Option V} :
    Touches applied current wanted ↔ ¬UpToDate applied current wanted := by
  unfold Touches UpToDate
  simp only [not_and_or, not_forall, exists_prop, not_not, ne_eq]

end merge

/-! ## The fields of an object -/

/-- The fields that are compared; managed fields are not. -/
inductive Field where
  | apiVersion
  | kind
  | name
  | «namespace»
  | label (key : String)
  | annotationAt (key : String)
  | generation
  | resourceVersion
  | uid
  | selfLink
  | creationTimestamp
  | deletionTimestamp
  | finalizers
  | ownerReferences
  | payload (path : String)
  | status (path : String)
  deriving DecidableEq

inductive FieldValue where
  | text (s : String)
  | number (n : Nat)
  | items (l : List String)
  deriving DecidableEq

/-- An empty string is left out. -/
def omitEmpty (s : String) : Option FieldValue := if s = "" then none else some (.text s)

def omitNil (l : List String) : Option FieldValue := if l = [] then none else some (.items l)

/-- The fields of an object; `decode` reads the value at a path of a payload. -/
def fieldsOf (decode : String → String → Option String) (o : Obj) : Field → Option FieldValue
  | .apiVersion =>
    omitEmpty (if o.gvk.group = "" then o.gvk.version else o.gvk.group ++ "/" ++ o.gvk.version)
  | .kind => omitEmpty o.gvk.kind
  | .name => omitEmpty o.name
  | .namespace => omitEmpty o.namespace
  | .label key => (o.labels.lookup key).map .text
  | .annotationAt key => (o.annotations.lookup key).map .text
  | .generation => if o.generation = 0 then none else some (.number o.generation)
  | .resourceVersion => omitEmpty o.resourceVersion
  | .uid => omitEmpty o.uid
  | .selfLink => omitEmpty o.selfLink
  | .creationTimestamp => omitEmpty o.creationTimestamp
  | .deletionTimestamp => o.deletionTimestamp.map .text
  | .finalizers => omitNil o.finalizers
  | .ownerReferences => omitNil o.ownerReferences
  | .payload path => (decode o.payload path).map .text
  | .status path => (decode o.status path).map .text

/-- `patch.LastAppliedConfig`. -/
def lastAppliedConfig : String := "banzaicloud.com/last-applied"

/-- The last-applied annotation of the object, if there is one, records the field. -/
def Applied (recorded : String → Field → Prop) (o : Obj) (f : Field) : Prop :=
  ∃ text, o.annotations.lookup lastAppliedConfig = some text ∧ recorded text f

/-- k8s-objectmatcher's `Calculate` is a three-way merge. -/
def Merges (x : External) (decode : String → String → Option String)
    (recorded : String → Field → Prop) : Prop :=
  ∀ current wanted, x.patchIsEmpty current wanted = .ok true ↔
    UpToDate (Applied recorded current) (fieldsOf decode current) (fieldsOf decode wanted)

/-! ## The events -/

section events

variable (x : External) (env : Env) (r : SyncReconciler)

/-- Labels, annotations and payload of the copy that the rule makes of a version
of the object, if it makes one. -/
def content (o : Obj) : Option (StringMap × StringMap × String) :=
  match r.rule.match x { o with gvk := r.rule.spec.gvk } with
  | (true, matched, none) =>
    match mutated x env r { o with gvk := r.rule.spec.gvk } matched with
    | .ok d => some (d.labels, d.annotations, d.payload)
    | .error _ => none
  | _ => none

variable {x env r}

/-- The watch lets the update of a foreign object that matches through, exactly if
the patch is not empty. -/
theorem remotePredicate_update {old new : Obj} (hmatch : isObjectMatch x r new = true)
    (howned : isOwnedByUs r new = false) : remotePredicate x r (.update old new) = true ↔
      x.patchIsEmpty { old with resourceVersion := new.resourceVersion } new ≠ .ok true := by
  have hforeign : isForeignMatch x r new = true := by simp [isForeignMatch, hmatch, howned]
  simp only [remotePredicate, differs]
  generalize x.patchIsEmpty { old with resourceVersion := new.resourceVersion } new = empty
  rcases empty with e | _ | _
  · simp [Except.map]
  · simp [Except.map, hforeign]
  · simp [Except.map]

end events

/-- **Updates of the content** are let through exactly if they do not only remove
fields that no last-applied annotation records. -/
theorem update_kept_iff (x : External) (env : Env) (r : SyncReconciler)
    (decode : String → String → Option String) (recorded : String → Field → Prop)
    (hx : Merges x decode recorded) (old new : Obj) (hmatch : isObjectMatch x r new = true)
    (howned : isOwnedByUs r new = false) :
    (content x env r old ≠ content x env r new →
      remotePredicate x r (.update old new) = true) ↔
    (content x env r old ≠ content x env r new →
      Touches (Applied recorded old)
        (fieldsOf decode { old with resourceVersion := new.resourceVersion })
        (fieldsOf decode new)) := by
  refine imp_congr_right fun _ => ?_
  rw [remotePredicate_update hmatch howned, touches_iff]
  exact not_congr (hx _ _)

/-! ## A merge to run -/

/-- The payload as one field. -/
def wholeText (text path : String) : Option String :=
  if path = "" ∧ text ≠ "" then some text else none

/-- The fields beside labels and annotations that can have a value. -/
def plainFields : List Field :=
  [.apiVersion, .kind, .name, .namespace, .generation, .resourceVersion, .uid, .selfLink,
    .creationTimestamp, .deletionTimestamp, .finalizers, .ownerReferences, .payload "", .status ""]

/-- A merge patch of objects that record nothing. -/
def merging : External :=
  { External.bare with
    patchIsEmpty := fun current wanted => .ok <| decide <|
      (∀ k ∈ wanted.labels.keys, wanted.labels.lookup k = current.labels.lookup k) ∧
      (∀ k ∈ wanted.annotations.keys,
        wanted.annotations.lookup k = current.annotations.lookup k) ∧
      ∀ f ∈ plainFields, fieldsOf wholeText wanted f = none ∨
        fieldsOf wholeText wanted f = fieldsOf wholeText current f }

theorem wholeText_of_ne {text path : String} (h : path ≠ "") : wholeText text path = none :=
  if_neg fun hp => h hp.1

theorem lookups_iff {current wanted : StringMap} :
    (∀ k ∈ wanted.keys, wanted.lookup k = current.lookup k) ↔
      ∀ k v, wanted.lookup k = some v → current.lookup k = some v := by
  constructor
  · intro h k v hv
    rw [← h k (Finmap.mem_keys.mpr (Finmap.mem_iff.mpr ⟨v, hv⟩)), hv]
  · intro h k hk
    obtain ⟨v, hv⟩ := Finmap.mem_iff.mp (Finmap.mem_keys.mp hk)
    rw [hv, h k v hv]

theorem merges_merging : Merges merging wholeText fun _ _ => False := by
  intro current wanted
  have hfield : (∀ f v, fieldsOf wholeText wanted f = some v →
      fieldsOf wholeText current f = some v) ↔
      (∀ k v, wanted.labels.lookup k = some v → current.labels.lookup k = some v) ∧
      (∀ k v, wanted.annotations.lookup k = some v → current.annotations.lookup k = some v) ∧
      ∀ f ∈ plainFields, fieldsOf wholeText wanted f = none ∨
        fieldsOf wholeText wanted f = fieldsOf wholeText current f := by
    constructor
    · intro h
      refine ⟨fun k v hv => ?_, fun k v hv => ?_, fun f _ => ?_⟩
      · simpa [fieldsOf] using h (.label k) (.text v) (by simp [fieldsOf, hv])
      · simpa [fieldsOf] using h (.annotationAt k) (.text v) (by simp [fieldsOf, hv])
      · cases hw : fieldsOf wholeText wanted f with
        | none => exact .inl rfl
        | some v => exact .inr (h f v hw).symm
    · rintro ⟨hl, ha, hp⟩ f v hv
      have plain : f ∈ plainFields → fieldsOf wholeText current f = some v := fun hf =>
        ((hp f hf).resolve_left fun hn => by rw [hn] at hv; cases hv).symm.trans hv
      cases f with
      | label k =>
        obtain ⟨t, ht, rfl⟩ := Option.map_eq_some_iff.mp hv
        exact Option.map_eq_some_iff.mpr ⟨t, hl k t ht, rfl⟩
      | annotationAt k =>
        obtain ⟨t, ht, rfl⟩ := Option.map_eq_some_iff.mp hv
        exact Option.map_eq_some_iff.mpr ⟨t, ha k t ht, rfl⟩
      | payload path =>
        by_cases hpath : path = ""
        · exact plain (by simp [plainFields, hpath])
        · rw [fieldsOf, wholeText_of_ne hpath] at hv
          cases hv
      | status path =>
        by_cases hpath : path = ""
        · exact plain (by simp [plainFields, hpath])
        · rw [fieldsOf, wholeText_of_ne hpath] at hv
          cases hv
      | _ => exact plain (by simp [plainFields])
  unfold UpToDate merging Applied
  rw [hfield]
  simp only [Except.ok.injEq, decide_eq_true_iff, lookups_iff, and_false, exists_false,
    false_imp_iff, implies_true, and_true]

/-- One label of the secret is removed. -/
def relabelled (labels : StringMap) : Obj :=
  { name := "s", «namespace» := "", labels := labels, payload := "data", resourceVersion := "1",
    gvk := ⟨"", "v1", "Secret"⟩ }

def secretRule : ResourceSyncRule := ⟨"rule", "", ⟨none, ⟨"", "v1", "Secret"⟩, some [{}]⟩⟩

def secrets : SyncReconciler := (newSyncReconciler secretRule "R" false).start "L"

theorem update_kept_iff_added :
    content merging quietEnv secrets (relabelled ∅) ≠
        content merging quietEnv secrets (relabelled (Finmap.singleton "app" "web")) ∧
      remotePredicate merging secrets
        (.update (relabelled ∅) (relabelled (Finmap.singleton "app" "web"))) = true := by
  have hdiffer : content merging quietEnv secrets (relabelled ∅) ≠
      content merging quietEnv secrets (relabelled (Finmap.singleton "app" "web")) := by
    decide +kernel
  refine ⟨hdiffer, (update_kept_iff merging quietEnv secrets wholeText (fun _ _ => False)
    merges_merging _ _ (by decide +kernel) (by decide +kernel)).mpr (fun _ => ?_) hdiffer⟩
  exact .inl ⟨.label "app", .text "web", by decide +kernel, by decide +kernel⟩

/-- A label is removed from an object that records nothing: the copy would lose the
label, and the event is dropped. -/
theorem update_dropped :
    Merges merging wholeText (fun _ _ => False) ∧
    isObjectMatch merging secrets (relabelled ∅) = true ∧
    isOwnedByUs secrets (relabelled ∅) = false ∧
    content merging quietEnv secrets (relabelled (Finmap.singleton "app" "web")) ≠
      content merging quietEnv secrets (relabelled ∅) ∧
    remotePredicate merging secrets
      (.update (relabelled (Finmap.singleton "app" "web")) (relabelled ∅)) = false := by
  refine ⟨merges_merging, ?_, ?_, ?_, ?_⟩
  all_goals decide +kernel

end ClusterRegistry.Sync
