import ClusterRegistry.Sync.Marks
import ClusterRegistry.Sync.Watch

/-!
# The copy that `mutateObject` makes

What becomes of each label and annotation, of the kind and of the name of an
object on its way to the local cluster. The mutations of the matched rules come
first: a key that some rule removes is gone, else the last rule that adds it
decides. Of the kind each part is set by the last rule that names it, and
without overrides there is nothing else to it.

The reconciler and its watches rely on two things about copies: that they all
are of the kind `localGVK`, which is computed from all rules and not from those
that matched, and that the labels of a copy lead back to its source.
-/

namespace ClusterRegistry.Sync

open Lib Lib.Eff

/-! ## Labels and annotations -/

section mutations

variable (sel : Mutations → MapMutations) (matched : MatchedRules)

/-- What the mutations of the matched rules leave under a key. -/
def mutatedValue (own : StringMap) (k : String) : Option String :=
  if ∃ rule ∈ matched, k ∈ elems (sel rule.mutations).remove then none
  else (matched.filterMap fun rule => (entries (sel rule.mutations).add).lookup k).getLast?.or
    (own.lookup k)

theorem lookup_mergeMutations (k : String) :
    (matched.mergeMutations sel).1.lookup k =
      (matched.filterMap fun rule => (entries (sel rule.mutations).add).lookup k).getLast? := by
  have h := foldl_last (f := MatchedRules.mergeRule sel)
    (v := fun acc : StringMap × List String => acc.1.lookup k)
    (fun acc rule => Map.lookup_union_or (entries (sel rule.mutations).add) acc.1 k) matched (∅, [])
  rw [Finmap.lookup_empty, Option.or_none] at h
  exact h

theorem mem_mergeMutations {k : String} : k ∈ (matched.mergeMutations sel).2 ↔
    ∃ rule ∈ matched, k ∈ elems (sel rule.mutations).remove := by
  have h := foldl_flag (f := MatchedRules.mergeRule sel)
    (P := fun acc : StringMap × List String => k ∈ acc.2)
    (fun acc rule => List.mem_append) matched (∅, [])
  exact h.trans (by simp)

theorem lookup_applyMutations (own : StringMap) (k : String) :
    (applyMutations (matched.mergeMutations sel) own).lookup k =
      mutatedValue sel matched own k := by
  unfold applyMutations mutatedValue
  rw [Map.lookup_eraseAll, Map.lookup_union_or, lookup_mergeMutations]
  simp only [mem_mergeMutations]

variable {sel matched} in
/-- Rules that do not mention the key leave its value. -/
theorem mutatedValue_spared {own : StringMap} {k : String}
    (h : ∀ rule ∈ matched, (sel rule.mutations).Spares k) :
    mutatedValue sel matched own k = own.lookup k := by
  unfold mutatedValue
  rw [if_neg fun ⟨rule, hr, hk⟩ => (h rule hr).2 hk,
    List.filterMap_eq_nil_iff.mpr fun rule hr => Finmap.lookup_eq_none.mpr (h rule hr).1]
  rfl

end mutations

/-- What ends up under a key: the ownership key is set to the cluster when it is
missing or empty. -/
def ownedValue (clusterID k : String) (value : Option String) : Option String :=
  if k = ownershipAnnotation ∧ value.getD "" = "" then some clusterID else value

theorem lookup_defaultOwner (clusterID : String) (m : StringMap) (k : String) :
    (defaultOwner clusterID m).lookup k = ownedValue clusterID k (m.lookup k) := by
  unfold defaultOwner ownedValue StringMap.val
  by_cases hk : k = ownershipAnnotation
  · subst hk
    split
    · next h => simp [h]
    · next h => simp [h]
  · split
    · rw [Map.lookup_insert_if, if_neg hk, if_neg fun h => hk h.1]
    · rw [if_neg fun h => hk h.1]

/-! ## The kind -/

section kinds

variable (part : GVK → String)

variable {part}

theorem getMutatedGVK_fst (matched : MatchedRules) (gvk : GVK) :
    (matched.getMutatedGVK gvk).1 = true ↔
      ∃ rule ∈ matched, rule.mutations.getGVK.empty = false := by
  have h := foldl_flag (f := MatchedRules.mutateGVK) (P := fun acc => acc.1 = true)
    (Q := fun rule => rule.mutations.getGVK.empty = false) (fun acc rule => ?_) matched (false, gvk)
  · exact h.trans (by simp)
  · unfold MatchedRules.mutateGVK
    by_cases he : rule.mutations.getGVK.empty = true <;> simp [he]

end kinds

/-! ## The copy -/

section copy

variable (x : External) (env : Env) (r : SyncReconciler) (current : Obj) (matched : MatchedRules)

/-- `mutateObject` up to the labels of a renamed object. -/
def overridden : Except Err Obj :=
  if matched.getMutationOverrides.isEmpty then .ok (mutateMeta r current matched)
  else applyOverrides x env r current (mutateMeta r current matched) matched.getMutationOverrides

theorem mutated_eq_map :
    mutated x env r current matched = (overridden x env r current matched).map
      (labelOriginal current) := by
  unfold mutated overridden
  split
  · rfl
  · dsimp only
    cases applyOverrides x env r current (mutateMeta r current matched)
      matched.getMutationOverrides <;> rfl

theorem mutated_eq_ok {d : Obj} (h : mutated x env r current matched = .ok d) :
    ∃ o, overridden x env r current matched = .ok o ∧ d = labelOriginal current o := by
  rw [mutated_eq_map] at h
  cases ho : overridden x env r current matched with
  | error e => rw [ho] at h; cases h
  | ok o => rw [ho] at h; cases h; exact ⟨o, rfl, rfl⟩

theorem labels_mutateMeta (k : String) : (mutateMeta r current matched).labels.lookup k =
    ownedValue r.clusterID k (mutatedValue Mutations.getLabels matched current.labels k) := by
  rw [← lookup_applyMutations, ← lookup_defaultOwner]
  rfl

theorem annotations_mutateMeta (k : String) :
    (mutateMeta r current matched).annotations.lookup k =
      if k ∈ managedAnnotations then none
      else if k = originalGVKAnnotation ∧ ∃ rule ∈ matched, rule.mutations.getGVK.empty = false then
        some (gvkToString current.gvk)
      else ownedValue r.clusterID k
        (mutatedValue Mutations.getAnnotations matched current.annotations k) := by
  rw [← lookup_applyMutations, ← lookup_defaultOwner]
  refine (Map.lookup_eraseAll _ _ _).trans ?_
  have hfst := getMutatedGVK_fst matched current.gvk
  by_cases hm : (matched.getMutatedGVK current.gvk).1 = true
  · simp only [hm, if_true, hfst.mp hm, and_true]
    rw [Map.lookup_insert_if]
    rfl
  · simp only [hm, mt hfst.mpr hm, and_false, if_false]
    rfl

end copy

/-- **The metadata of the copy**, without overrides. A label that some rule removes
is gone, else it has the value of the last rule that adds it, else its own; the
owner is the remote cluster unless there is one already. So with annotations,
but the original kind is noted when some rule sets the kind, and the annotations
that never travel are dropped. Name, namespace and payload stay, and what the
API server manages is cleared. -/
theorem mutateObject_exact (x : External) (env : Env) (st : SyncState) (current : Obj)
    (matched : MatchedRules) (h : ∀ rule ∈ matched, elems rule.mutations.overrides = []) :
    ∃ d, mutateObject x env current matched st = (.ok d, st) ∧
      (∀ k, d.labels.lookup k = ownedValue st.r.clusterID k
        (mutatedValue Mutations.getLabels matched current.labels k)) ∧
      (∀ k, d.annotations.lookup k =
        if k ∈ managedAnnotations then none
        else if k = originalGVKAnnotation ∧
            ∃ rule ∈ matched, rule.mutations.getGVK.empty = false then
          some (gvkToString current.gvk)
        else ownedValue st.r.clusterID k
          (mutatedValue Mutations.getAnnotations matched current.annotations k)) ∧
      d.name = current.name ∧ d.namespace = current.namespace ∧ d.payload = current.payload ∧
      d.finalizers = [] ∧ d.ownerReferences = [] ∧ d.managedFields = [] ∧ d.uid = "" ∧
      d.resourceVersion = "" ∧ d.generation = 0 := by
  refine ⟨mutateMeta st.r current matched, ?_, labels_mutateMeta st.r current matched,
    annotations_mutateMeta st.r current matched, rfl, rfl, rfl, rfl, rfl, rfl, rfl, rfl, rfl⟩
  have hmarks : markMutated current (mutateMeta st.r current matched) st.r = st.r := by
    simp [markMutated, mutateMeta]
  rw [mutateObject_eq, mutated_eq h]
  simp only [hmarks]

/-- Two rules of which the second overrides what the first adds, and removes a label. -/
def relabelling : MatchedRules :=
  [{ mutations := { labels := some ⟨some (Finmap.singleton "tier" "old"), none⟩ } },
    { mutations :=
        { labels := some ⟨some (Finmap.singleton "tier" "new"), some ["internal"]⟩
          gvk := some ⟨"", "", "Secret"⟩ } }]

def labelledConfigMap : Obj :=
  { name := "cm", «namespace» := "ns", labels := Finmap.singleton "internal" "yes",
    gvk := ⟨"", "v1", "ConfigMap"⟩ }

/-- A reconciler for the remote cluster `R` with nothing done yet. -/
def idle : SyncState where
  r := newSyncReconciler ⟨"rule", "", ⟨none, GVK.none, none⟩⟩ "R" false
  server := .empty

def quietEnv : Env := { source := .ok labelledConfigMap, alive := fun _ => false }

theorem mutateObject_exact_relabelling :
    ∃ d, mutateObject .bare quietEnv labelledConfigMap relabelling idle = (.ok d, idle) ∧
      d.labels.lookup "tier" = some "new" ∧ d.labels.lookup "internal" = none ∧
      d.labels.lookup ownershipAnnotation = some "R" ∧
      d.annotations.lookup originalGVKAnnotation = some "ConfigMap./v1" := by
  obtain ⟨d, hd, hl, ha, -⟩ := mutateObject_exact .bare quietEnv idle labelledConfigMap relabelling
    (by decide +kernel)
  refine ⟨d, hd, (hl _).trans ?_, (hl _).trans ?_, (hl _).trans ?_, (ha _).trans ?_⟩
  all_goals decide +kernel

/-! ## One kind of copies -/

/-- Of all config maps one is to become a secret. -/
def partlyMutating : ResourceSyncRule :=
  ⟨"rule", "", ⟨none, ⟨"", "v1", "ConfigMap"⟩, some
    [{}, { «matches» := some [{ objectKey := ⟨"special", ""⟩ }]
           mutations := { gvk := some ⟨"", "", "Secret"⟩ } }]⟩⟩

def partly : SyncReconciler := (newSyncReconciler partlyMutating "R" false).start "L"

def configMap (name : String) : Obj :=
  { name := name, «namespace» := "", gvk := ⟨"", "v1", "ConfigMap"⟩ }

section back

variable (x : External) (env : Env) (r : SyncReconciler) (source : Obj) (matched : MatchedRules)

/-- A label is missing, or names what it should name. -/
def NamesAtMost (o : Obj) (label value : String) : Prop :=
  ∀ v, o.labels.lookup label = some v → v = value

theorem namesAtMost_iff {o : Obj} {label value : String} :
    NamesAtMost o label value ↔ (o.labels.lookup label).getD value = value := by
  unfold NamesAtMost
  cases o.labels.lookup label <;> simp

instance (o : Obj) (label value : String) : Decidable (NamesAtMost o label value) :=
  decidable_of_iff _ namesAtMost_iff.symm

/-- Where the name or the namespace is not changed on the way, the copy brings no
label of an earlier change along that says otherwise. -/
def LeadsBack : Prop :=
  ∀ o, overridden x env r source matched = .ok o →
    (o.name = source.name → NamesAtMost o originalNameLabel source.name) ∧
    (o.namespace = source.namespace → NamesAtMost o originalNamespaceLabel source.namespace)

theorem localRequest_labelOriginal (o : Obj) : localRequest (labelOriginal source o) =
    ⟨if source.namespace ≠ o.namespace then source.namespace
      else (o.labels.lookup originalNamespaceLabel).getD o.namespace,
      if source.name ≠ o.name then source.name
      else (o.labels.lookup originalNameLabel).getD o.name⟩ := by
  have hne : originalNameLabel ≠ originalNamespaceLabel := by decide
  unfold localRequest labelOriginal
  by_cases hn : source.name = o.name <;> by_cases hs : source.namespace = o.namespace
  · simp [hn, hs]
  · simp [hn, hs, Finmap.lookup_insert_of_ne _ hne]
  · simp [hn, hs, Finmap.lookup_insert_of_ne _ hne.symm]
  · simp [hn, hs, Finmap.lookup_insert_of_ne _ hne]

/-- **The way back**: the request that the local informer derives from a copy is for
the source of the copy, exactly if the copy brings no other origin along. -/
theorem localRequest_eq_iff (d : Obj) (h : mutated x env r source matched = .ok d) :
    localRequest d = source.nn ↔ LeadsBack x env r source matched := by
  obtain ⟨o, ho, rfl⟩ := mutated_eq_ok x env r source matched h
  have honly : LeadsBack x env r source matched ↔
      (o.name = source.name → NamesAtMost o originalNameLabel source.name) ∧
      (o.namespace = source.namespace →
        NamesAtMost o originalNamespaceLabel source.namespace) := by
    unfold LeadsBack
    rw [ho]
    simp
  rw [honly, localRequest_labelOriginal, Obj.nn, NamespacedName.mk.injEq, and_comm]
  refine and_congr ?_ ?_
  · by_cases hn : o.name = source.name
    · simp [hn, namesAtMost_iff]
    · simp [hn, Ne.symm hn]
  · by_cases hs : o.namespace = source.namespace
    · simp [hs, namesAtMost_iff]
    · simp [hs, Ne.symm hs]

end back

/-- The object was called `a` before an earlier hop. -/
def renamedOnce : Obj :=
  { configMap "b" with labels := Finmap.singleton originalNameLabel "a" }

theorem localRequest_eq_iff_plain :
    NamesAtMost (mutateMeta partly (configMap "plain") [{}]) originalNameLabel "plain" ∧
      localRequest (mutateMeta partly (configMap "plain") [{}]) = (configMap "plain").nn := by
  refine ⟨by decide +kernel, (localRequest_eq_iff .bare quietEnv partly (configMap "plain") [{}] _
    (mutated_eq (by decide +kernel))).mpr ?_⟩
  intro o ho
  cases ho
  exact ⟨fun _ => by decide +kernel, fun _ => by decide +kernel⟩

/-- The label of the earlier hop is carried over, and the request is for `a`. -/
theorem localRequest_misled :
    ∃ d, mutated .bare quietEnv partly renamedOnce [{}] = .ok d ∧ d.name = "b" ∧
      localRequest d = ⟨"", "a"⟩ ∧ localRequest d ≠ renamedOnce.nn := by
  refine ⟨_, mutated_eq (by decide +kernel), rfl, ?_, ?_⟩
  all_goals decide +kernel

end ClusterRegistry.Sync
