import ClusterRegistry.Clusters.Active

/-!
# Feature requirements

`pkg/clusters/cluster_features.go`: a requirement is met by one feature, so the
order in which `Match` meets the features does not matter, and more features
never hurt. `AddFeature` looks at the pending controllers only and
`RemoveFeature` at the active ones only; both rely on it. It does not cover a
feature that takes the place of another one under the same UID.
-/

namespace ClusterRegistry.Clusters

open Lib

variable {R : Type} {x : External}

theorem ClusterFeatureRequirement.accepts_iff {r : ClusterFeatureRequirement}
    {f : ClusterFeature} : r.accepts x f = true ↔ (r.name = "" ∨ r.name = f.name) ∧
      (entries r.matchLabels = ∅ ∧ elems r.matchExpressions = [] ∨
        ∃ matcher, x.labelSelectorAsSelector ⟨r.matchLabels, r.matchExpressions⟩ = .ok matcher ∧
          matcher f.labels = true) := by
  unfold accepts free
  cases x.labelSelectorAsSelector ⟨r.matchLabels, r.matchExpressions⟩ with
  | error e => simp
  | ok matcher => simp

namespace Cluster

theorem features_addFeature (c : Cluster R) (f : ClusterFeature) (order : List String) :
    (c.addFeature x f order).features = c.features.insert f.uid f :=
  List.foldlRecOn (motive := fun d : Cluster R => d.features = c.features.insert f.uid f) order
    (retryPending x) rfl fun d hd n _ => (features_retryPending d n).trans hd

theorem features_removeFeature (c : Cluster R) (uid : String) (order : List String) :
    (c.removeFeature x uid order).features = c.features.erase uid :=
  List.foldlRecOn (motive := fun d : Cluster R => d.features = c.features.erase uid) order
    (recheckActive x) rfl fun d hd n _ => (features_recheckActive d n).trans hd

end Cluster

theorem meets_insert {features : Map String ClusterFeature} {f : ClusterFeature}
    {ctrl : ManagedController R} (hf : features.lookup f.uid = none)
    (hm : meets x features ctrl = true) : meets x (features.insert f.uid f) ctrl = true := by
  refine meets_mono (fun uid g hg => ?_) hm
  have hne : uid ≠ f.uid := by
    rintro rfl
    rw [hf] at hg
    cases hg
  rw [Map.lookup_insert_if, if_neg hne, hg]

/-- **Feature requirements**. Whatever the order of the loop, a requirement is met
exactly if some feature has the name and passes the labels, and it stays so in a
larger map. So a feature under a new UID takes no controller's requirements
away, and no removal meets any. -/
theorem requirements_monotone (R : Type) (x : External) :
    (∀ (r : ClusterFeatureRequirement) (features : Map String ClusterFeature),
      (∀ order, Map.IsOrder features order →
        r.matchLoop x (order.filterMap fun uid => features.lookup uid) = r.match x features) ∧
      (r.match x features = true ↔ ∃ uid f, features.lookup uid = some f ∧
        (r.name = "" ∨ r.name = f.name) ∧
        (entries r.matchLabels = ∅ ∧ elems r.matchExpressions = [] ∨
          ∃ matcher, x.labelSelectorAsSelector ⟨r.matchLabels, r.matchExpressions⟩ = .ok matcher ∧
            matcher f.labels = true)) ∧
      ∀ more : Map String ClusterFeature,
        (∀ uid f, features.lookup uid = some f → more.lookup uid = some f) →
          r.match x features = true → r.match x more = true) ∧
    ∀ (c : Cluster R) (ctrl : ManagedController R),
      (∀ feature order, c.features.lookup feature.uid = none →
        c.checkRequiredClusterFeatures x ctrl = true →
          (c.addFeature x feature order).checkRequiredClusterFeatures x ctrl = true) ∧
      ∀ uid order, c.checkRequiredClusterFeatures x ctrl = false →
        (c.removeFeature x uid order).checkRequiredClusterFeatures x ctrl = false := by
  refine ⟨fun r features => ⟨fun order ho => ?_, ?_, fun more h hm => ?_⟩,
    fun c ctrl => ⟨fun feature order hnew hm => ?_, fun uid order hm => ?_⟩⟩
  · exact Map.overValues_eq_of_order _ ho
  · simp only [r.match_iff x features, ClusterFeatureRequirement.accepts_iff]
  · exact ClusterFeatureRequirement.match_mono x h hm
  · unfold Cluster.checkRequiredClusterFeatures at hm ⊢
    rw [Cluster.features_addFeature]
    exact meets_insert hnew hm
  · unfold Cluster.checkRequiredClusterFeatures at hm ⊢
    rw [Cluster.features_removeFeature]
    exact Bool.eq_false_iff.mpr fun h => Bool.eq_false_iff.mp hm (meets_of_erase h)

/-! ## Runs without edits -/

/-- A feature is added under a UID that is not in use. -/
def Op.Fresh (c : Cluster R) : Op R → Prop
  | addFeature feature _ => c.features.lookup feature.uid = none
  | _ => True

theorem Op.Fresh.editKeeps {c : Cluster R} {op : Op R} (h : op.Fresh c) : op.EditKeeps x c := by
  cases op with
  | addFeature f order =>
    intro old hold
    rw [show c.features.lookup f.uid = none from h] at hold
    cases hold
  | addController ctrl => trivial
  | removeController ctrl => trivial
  | removeFeature uid order => trivial

/-- **Active exactly when the features are present**, in every state of a run in
which no feature takes the place of another one. -/
theorem active_of_fresh {tr : List (Cluster R × Op R)} {c : Cluster R}
    (h : Run (operations R x) tr c) (hf : ∀ p ∈ tr, p.2.Fresh p.1) :
    ∀ t ∈ states tr c, t.Active x := by
  refine Run.always (C := fun c op => op.Fresh c) ?_ (fun _ c op hr hc ho hfresh => ?_) h hf
  · rintro c ⟨-, ha, hp⟩
    exact ⟨by simp [ha], by simp [hp]⟩
  · exact (Op.active_apply_iff (wf_of_run hr) hc ho).mpr hfresh.editKeeps

end ClusterRegistry.Clusters
