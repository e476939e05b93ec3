import ClusterRegistry.Clusters.Requirements
import ClusterRegistry.Lib.Effect
import ClusterRegistry.Lib.Level

/-!
# Announced features

`controllers/remote_cluster_feature_reconciler.go`: the feature controller of a
remote cluster carries the `ClusterFeature` resources it finds there over into
the feature map of the `Cluster`, from where they decide which controllers run.
The controller is started anew, with a new cache and a new queue, whenever the
cluster comes back to life, and the feature map lives on: a resource that is
deleted in the meantime leaves its feature behind.

`feature_differs_iff` says that there is no other way for the map to be wrong at
rest, and `controllers_follow_resources` what that means for the controllers.
-/

namespace ClusterRegistry.Clusters

open Lib

/-- A `ClusterFeature` resource; it is cluster-scoped. -/
structure ClusterFeatureResource where
  featureName : String
  labels : StringMap := ∅
  deriving DecidableEq

def newClusterFeature (uid name : String) (labels : StringMap) : ClusterFeature :=
  ⟨uid, name, labels⟩

def featureRequest (name : String) : NamespacedName := ⟨"", name⟩

/-- The UID under which the feature of a resource is kept. -/
def featureUID (name : String) : String := (featureRequest name).string

theorem featureUID_injective : Function.Injective featureUID := by
  intro a b h
  have hlist := congrArg String.toList h
  simp only [featureUID, featureRequest, NamespacedName.string, String.toList_append,
    List.append_cancel_left_eq] at hlist
  exact String.toList_inj.mp hlist

/-- The feature that the resource of this name announces. -/
def ClusterFeatureResource.feature (name : String) (r : ClusterFeatureResource) : ClusterFeature :=
  newClusterFeature (featureUID name) r.featureName r.labels

variable {R : Type}

/-- `ClusterFeatureReconciler.Reconcile`, with the resource as it was read. -/
def ClusterFeatureReconciler.reconcile (x : External) (req : NamespacedName)
    (feature : Except Err ClusterFeatureResource) (order : List String) :
    Eff (Cluster R) Err Unit :=
  match feature with
  | .error e =>
    if e.reason = .notFound then Eff.modify (·.removeFeature x req.string order)
    else Eff.throw (e.wrapIf "could not get object")
  | .ok feature =>
    Eff.modify (·.addFeature x (newClusterFeature req.string feature.featureName feature.labels)
      order)

/-! ## The controller at work -/

/-- The resources on the remote cluster, and the local `Cluster`. -/
structure Announcing (R : Type) where
  resources : Watched String ClusterFeatureResource
  cluster : Cluster R

namespace Announcing

inductive Act (R : Type) where
  /-- Users of the remote cluster create, change or delete a resource. -/
  | edit (name : String) (resource : Option ClusterFeatureResource)
  | refresh (name : String) (resource : Option ClusterFeatureResource)
  | handle
  /-- The controller serves a request; `fault` is an error of reading the cache. -/
  | reconcile (name : String) (fault : Option Err) (order : List String)
  /-- The controller is started once more. -/
  | restart
  /-- Other controllers are added to the cluster and removed from it. -/
  | controllers (op : Op R)

/-- All events count. -/
def passes (_ : Notice String ClusterFeatureResource) : Bool := true

variable (s : Announcing R)

def read (name : String) (fault : Option Err) : Except Err ClusterFeatureResource :=
  match fault with
  | some e => .error e
  | none =>
    match s.resources.cache.lookup name with
    | some resource => .ok resource
    | none => .error ⟨.notFound, "not found"⟩

def step (x : External) : Act R → Announcing R
  | .edit name resource => { s with resources := s.resources.edit name resource }
  | .refresh name resource => { s with resources := s.resources.refresh name resource }
  | .handle => { s with resources := s.resources.handle passes }
  | .reconcile name fault order =>
    match ClusterFeatureReconciler.reconcile x (featureRequest name) (s.read name fault) order
      s.cluster with
    | (.ok _, cluster) => ⟨s.resources.serve name, cluster⟩
    -- the request stays on the queue
    | (.error _, cluster) => { s with cluster := cluster }
  | .restart => { s with resources := s.resources.relist }
  | .controllers op => { s with cluster := op.apply x s.cluster }

/-- What an action does to the cluster, if anything. -/
def opOf : Act R → Option (Op R)
  | .reconcile name none order =>
    match s.resources.cache.lookup name with
    | some resource => some (.addFeature (resource.feature name) order)
    | none => some (.removeFeature (featureUID name) order)
  | .controllers op => some op
  | _ => none

/-- Not an operation on features. -/
def OnControllers : Op R → Prop
  | .addController _ => True
  | .removeController _ => True
  | _ => False

instance : (op : Op R) → Decidable (OnControllers op)
  | .addController _ => .isTrue trivial
  | .removeController _ => .isTrue trivial
  | .addFeature _ _ => .isFalse nofun
  | .removeFeature _ _ => .isFalse nofun

def Requested : Act R → Prop
  | .reconcile name fault _ => name ∈ s.resources.queue ∧ ∀ e ∈ fault, e.reason ≠ .notFound
  | .controllers op => OnControllers op
  | _ => True

instance : (a : Act R) → Decidable (s.Requested a)
  | .reconcile _ _ _ => inferInstanceAs (Decidable (_ ∧ _))
  | .controllers _ => inferInstanceAs (Decidable (OnControllers _))
  | .edit _ _ => .isTrue trivial
  | .refresh _ _ => .isTrue trivial
  | .handle => .isTrue trivial
  | .restart => .isTrue trivial

def Allowed (a : Act R) : Prop := (∀ op ∈ s.opOf a, op.Allowed s.cluster) ∧ s.Requested a

instance (a : Act R) : Decidable (s.Allowed a) := inferInstanceAs (Decidable (_ ∧ _))

end Announcing

variable (R) in
/-- A new cluster, and its feature controller before the first start. -/
def announcing (x : External) : System (Announcing R) (Announcing.Act R) where
  init s := (s.resources.cache = ∅ ∧ s.resources.notices = [] ∧ s.resources.queue = ∅) ∧
    s.cluster.features = ∅ ∧ s.cluster.controllers = ∅ ∧ s.cluster.pendingControllers = ∅
  ok _ s a := s.Allowed a
  step s a := s.step x a

instance (x : External) (tr : List (Announcing R × Announcing.Act R)) (s : Announcing R)
    (a : Announcing.Act R) : Decidable ((announcing R x).ok tr s a) :=
  inferInstanceAs (Decidable (s.Allowed a))

namespace Announcing

variable {x : External} {s : Announcing R}

/-! ## One step -/

theorem step_served {name : String} {order : List String} :
    s.step x (.reconcile name none order) =
      ⟨s.resources.serve name,
        ((s.opOf (.reconcile name none order)).map (·.apply x s.cluster)).getD s.cluster⟩ := by
  cases hc : s.resources.cache.lookup name with
  | none => simp only [step, read, opOf, hc]; rfl
  | some resource => simp only [step, read, opOf, hc]; rfl

theorem step_failed {name : String} {e : Err} (he : e.reason ≠ .notFound) (order : List String) :
    s.step x (.reconcile name (some e) order) = s := by
  unfold step read ClusterFeatureReconciler.reconcile
  simp only [he, if_false]
  rfl

theorem cluster_step {a : Act R} (ha : s.Allowed a) :
    (s.step x a).cluster = ((s.opOf a).map (·.apply x s.cluster)).getD s.cluster := by
  cases a with
  | reconcile name fault order =>
    cases fault with
    | none => rw [step_served]
    | some e => rw [step_failed (ha.2.2 e rfl)]; rfl
  | _ => rfl

/-- The cluster goes through operations that its callers may make. -/
theorem run_operations {tr : List (Announcing R × Act R)} (h : Run (announcing R x) tr s) :
    ∃ tr', Run (operations R x) tr' s.cluster ∧
      ∀ p ∈ tr', ∃ q ∈ tr, p.1 = q.1.cluster ∧ q.1.opOf q.2 = some p.2 := by
  induction h with
  | init hi => exact ⟨[], .init hi.2, nofun⟩
  | @step tr s a hr ha ih =>
    obtain ⟨tr', hrun, hmem⟩ := ih
    have hold : ∀ p ∈ tr', ∃ q ∈ (s, a) :: tr, p.1 = q.1.cluster ∧ q.1.opOf q.2 = some p.2 := by
      intro p hp
      obtain ⟨q, hq, heq⟩ := hmem p hp
      exact ⟨q, List.mem_cons_of_mem _ hq, heq⟩
    have hstep : (s.step x a).cluster = _ := cluster_step ha
    cases hop : s.opOf a with
    | none =>
      rw [hop] at hstep
      exact ⟨tr', hstep ▸ hrun, hold⟩
    | some op =>
      rw [hop] at hstep
      refine ⟨(s.cluster, op) :: tr', ?_, ?_⟩
      · show Run (operations R x) _ (s.step x a).cluster
        rw [hstep]
        exact .step op hrun (ha.1 op hop)
      · rintro p (_ | ⟨_, hp⟩)
        · exact ⟨(s, a), List.mem_cons_self, rfl, hop⟩
        · exact hold p hp

/-! ## The feature map -/

/-- The feature map has what the cache has under the name. -/
def Right (s : Announcing R) (name : String) : Prop :=
  s.cluster.features.lookup (featureUID name) =
    (s.resources.cache.lookup name).map (·.feature name)

theorem features_served (name : String) (order : List String) (n : String) :
    (s.step x (.reconcile name none order)).cluster.features.lookup (featureUID n) =
      if n = name then (s.resources.cache.lookup name).map (·.feature name)
      else s.cluster.features.lookup (featureUID n) := by
  rw [step_served]
  cases hc : s.resources.cache.lookup name with
  | none =>
    simp only [opOf, hc, Option.map_some, Option.getD_some, Op.apply,
      Cluster.features_removeFeature, Map.lookup_erase_if, featureUID_injective.eq_iff]
    rfl
  | some resource =>
    simp only [opOf, hc, Option.map_some, Option.getD_some, Op.apply,
      Cluster.features_addFeature, Map.lookup_insert_if]
    exact if_congr featureUID_injective.eq_iff rfl rfl

theorem features_controllers {op : Op R} (h : OnControllers op) (c : Cluster R) :
    (op.apply x c).features = c.features := by
  cases op with
  | addController ctrl => exact Cluster.features_addController c ctrl
  | removeController ctrl => exact Cluster.features_removeControllerByName c _
  | addFeature f order => exact h.elim
  | removeFeature uid order => exact h.elim

/-- The controller is restarted when the resource is gone and its feature is not. -/
def Loses (name : String) (s : Announcing R) (a : Act R) : Prop :=
  a = .restart ∧ s.resources.store.lookup name = none ∧
    s.cluster.features.lookup (featureUID name) ≠ none

/-- The controller looks at the resource again. -/
def Retold (name : String) (_ : Announcing R) (a : Act R) : Prop :=
  a = .restart ∨ ∃ resource, a = .refresh name resource

/-- Nothing tells the controller that the map is wrong under the name. -/
def Unnoticed (name : String) (s : Announcing R) : Prop :=
  ¬s.resources.Due passes name ∧ ¬s.Right name

/-- Neither the cache nor the map changes under the name, and what is due stays due. -/
theorem unnoticed_same {name : String} {s' : Announcing R} {a : Act R}
    (hdue : s'.resources.Due passes name ↔ s.resources.Due passes name)
    (hcache : s'.resources.cache.lookup name = s.resources.cache.lookup name)
    (hmap : s'.cluster.features.lookup (featureUID name) =
      s.cluster.features.lookup (featureUID name))
    (hrestart : a ≠ .restart) (hrefresh : ∀ resource, a ≠ .refresh name resource) :
    Unnoticed name s' ↔ Loses name s a ∨ ¬Retold name s a ∧ Unnoticed name s := by
  have hl : ¬Loses name s a := fun h => hrestart h.1
  have hr : ¬Retold name s a := by
    rintro (h | ⟨resource, h⟩)
    · exact hrestart h
    · exact hrefresh resource h
  rw [or_iff_right hl, and_iff_right hr]
  unfold Unnoticed Right
  rw [hdue, hcache, hmap]

theorem unnoticed_restart (name : String) : Unnoticed name (s.step x .restart) ↔
    Loses name s .restart ∨ ¬Retold name s .restart ∧ Unnoticed name s := by
  have hr : Retold name s .restart := .inl rfl
  rw [or_iff_left fun h => h.1 hr]
  unfold Unnoticed Right step Loses
  simp only [Watched.due_relist, Watched.cache_relist, true_and]
  rw [← Finmap.lookup_eq_none]
  refine and_congr_right fun hnone => ?_
  rw [hnone]
  rfl

theorem unnoticed_step {a : Act R} (ha : s.Allowed a) (name : String) :
    Unnoticed name (s.step x a) ↔ Loses name s a ∨ ¬Retold name s a ∧ Unnoticed name s := by
  cases a with
  | edit n resource => exact unnoticed_same Watched.due_edit rfl rfl nofun nofun
  | refresh n resource =>
    by_cases e : name = n
    · subst e
      have hdue : (s.step x (.refresh name resource)).resources.Due passes name :=
        Watched.due_refresh.mpr (.inr ⟨rfl, rfl⟩)
      refine iff_of_false (fun h => h.1 hdue) ?_
      rintro (h | h)
      · cases h.1
      · exact h.1 (.inr ⟨resource, rfl⟩)
    · refine unnoticed_same ?_ ?_ rfl nofun fun r h => ?_
      · exact Watched.due_refresh.trans (or_iff_left fun h => e h.1)
      · exact Watched.lookup_cache_refresh.trans (if_neg e)
      · cases h
        exact e rfl
  | handle =>
    exact unnoticed_same Watched.due_handle (by simp [step]) rfl nofun nofun
  | reconcile n fault order =>
    cases fault with
    | some err =>
      rw [step_failed (ha.2.2 err rfl)]
      exact unnoticed_same Iff.rfl rfl rfl nofun nofun
    | none =>
      have hmap := features_served (x := x) (s := s) n order name
      have hres : (s.step x (.reconcile n none order)).resources = s.resources.serve n := by
        rw [step_served]
      by_cases e : name = n
      · subst e
        rw [if_pos rfl] at hmap
        have hright : (s.step x (.reconcile name none order)).Right name := by
          unfold Right
          rw [hmap, hres, Watched.cache_serve]
        refine iff_of_false (fun h => h.2 hright) ?_
        rintro (h | h)
        · cases h.1
        · exact h.2.1 (.inl ha.2.1)
      · rw [if_neg e] at hmap
        refine unnoticed_same ?_ (by rw [hres, Watched.cache_serve]) hmap nofun nofun
        rw [hres]
        exact Watched.due_serve_ne e
  | restart => exact unnoticed_restart name
  | controllers op =>
    refine unnoticed_same Iff.rfl rfl ?_ nofun nofun
    exact congrArg (·.lookup (featureUID name)) (features_controllers (x := x) ha.2 s.cluster)

theorem unnoticed_iff {tr : List (Announcing R × Act R)} (h : Run (announcing R x) tr s)
    (name : String) : Unnoticed name s ↔ Since (Loses name) (Retold name) tr := by
  refine h.since_iff ?_ fun _ s a _ ha => unnoticed_step ha name
  rintro s ⟨⟨hcache, -, -⟩, hfeatures, -⟩ ⟨-, hwrong⟩
  unfold Right at hwrong
  rw [hcache, hfeatures] at hwrong
  exact hwrong (by simp)

/-- **Features at rest**: the feature map of a cluster differs from a
`ClusterFeature` resource of the remote cluster exactly if the feature controller
was restarted when the resource was gone and its feature was still there, and has
neither been restarted nor heard of the resource since. -/
theorem feature_differs_iff {tr : List (Announcing R × Act R)} (h : Run (announcing R x) tr s)
    (hrest : s.resources.AtRest) (name : String) :
    s.cluster.features.lookup (featureUID name) ≠
        (s.resources.store.lookup name).map (·.feature name) ↔
      Since (Loses name) (Retold name) tr := by
  rw [← unnoticed_iff h name]
  unfold Unnoticed Right
  rw [and_iff_right (hrest.not_due name), hrest.cache]

/-- The resource is deleted while the controller is down. -/
def leftBehind : List (Announcing Unit × Act Unit) × Announcing Unit :=
  played (announcing Unit .bare) [] ⟨{ store := ∅ }, { name := "c" }⟩
    [.edit "f" (some ⟨"f", ∅⟩), .restart, .reconcile "f" none [], .edit "f" none, .restart]

theorem feature_differs_iff_leftBehind :
    leftBehind.2.cluster.features.lookup (featureUID "f") ≠ none ∧
      Since (Loses "f") (Retold "f") leftBehind.1 := by
  have hstale : leftBehind.2.cluster.features.lookup (featureUID "f") ≠
      (leftBehind.2.resources.store.lookup "f").map (·.feature "f") := by decide +kernel
  refine ⟨by decide +kernel, (feature_differs_iff (x := .bare) (.plays (.init ?_) ?_) ?_ "f").mp
    hstale⟩
  · exact ⟨⟨rfl, rfl, rfl⟩, rfl, rfl, rfl⟩
  · decide +kernel
  · exact ⟨by decide +kernel, rfl, by decide +kernel⟩

/-! ## The controllers -/

/-- The features in the map are those of resources. -/
theorem features_named {tr : List (Announcing R × Act R)} (h : Run (announcing R x) tr s) :
    ∀ uid f, s.cluster.features.lookup uid = some f → ∃ name, uid = featureUID name := by
  refine h.invariant (P := fun s => ∀ uid f, s.cluster.features.lookup uid = some f →
    ∃ name, uid = featureUID name) ?_ ?_
  · rintro s ⟨-, hf, -⟩ uid f hl
    simp [hf] at hl
  · intro tr s a _ ih ha uid f hl
    rw [show ((announcing R x).step s a).cluster = _ from cluster_step ha] at hl
    cases a with
    | reconcile name fault order =>
      cases fault with
      | some e => exact ih uid f hl
      | none =>
        cases hc : s.resources.cache.lookup name with
        | none =>
          simp only [opOf, hc, Option.map_some, Option.getD_some, Op.apply,
            Cluster.features_removeFeature, Map.lookup_erase_if] at hl
          split at hl
          · cases hl
          · exact ih uid f hl
        | some resource =>
          simp only [opOf, hc, Option.map_some, Option.getD_some, Op.apply,
            Cluster.features_addFeature, Map.lookup_insert_if] at hl
          split at hl
          · next e => exact ⟨name, e⟩
          · exact ih uid f hl
    | controllers op =>
      rw [show ((s.opOf (.controllers op)).map (·.apply x s.cluster)).getD s.cluster =
        op.apply x s.cluster from rfl, features_controllers ha.2] at hl
      exact ih uid f hl
    | edit name resource => exact ih uid f hl
    | refresh name resource => exact ih uid f hl
    | handle => exact ih uid f hl
    | restart => exact ih uid f hl

variable (x) in
/-- Each requirement of the controller is met by some resource. -/
def RequirementsMet (resources : Map String ClusterFeatureResource) (ctrl : ManagedController R) :
    Prop :=
  ∀ r ∈ ctrl.requiredClusterFeatures, ∃ name resource, resources.lookup name = some resource ∧
    r.accepts x (resource.feature name) = true

theorem meets_iff_requirementsMet {features : Map String ClusterFeature}
    {resources : Map String ClusterFeatureResource}
    (hmap : ∀ name, features.lookup (featureUID name) =
      (resources.lookup name).map (·.feature name))
    (hnamed : ∀ uid f, features.lookup uid = some f → ∃ name, uid = featureUID name)
    (ctrl : ManagedController R) :
    meets x features ctrl = true ↔ RequirementsMet x resources ctrl := by
  unfold meets RequirementsMet
  rw [List.all_eq_true]
  refine forall₂_congr fun r _ => ?_
  rw [r.match_iff]
  constructor
  · rintro ⟨uid, f, hf, ha⟩
    obtain ⟨name, rfl⟩ := hnamed uid f hf
    rw [hmap] at hf
    obtain ⟨resource, hres, rfl⟩ := Option.map_eq_some_iff.mp hf
    exact ⟨name, resource, hres, ha⟩
  · rintro ⟨name, resource, hres, ha⟩
    exact ⟨featureUID name, resource.feature name, by rw [hmap, hres]; rfl, ha⟩

/-- Edits of resources do not take away what active controllers rely on. -/
def EditKeeps (x : External) (s : Announcing R) (a : Act R) : Prop :=
  ∀ op, s.opOf a = some op → op.EditKeeps x s.cluster

theorem active_of_edits_keep {tr : List (Announcing R × Act R)} (h : Run (announcing R x) tr s)
    (hedit : ∀ p ∈ tr, EditKeeps x p.1 p.2) : s.cluster.WF ∧ s.cluster.Active x := by
  obtain ⟨tr', hrun, hmem⟩ := run_operations h
  refine ⟨wf_of_run hrun, ?_⟩
  refine hrun.always (G := Cluster.Active x) (C := fun c op => op.EditKeeps x c) ?_ ?_ ?_ _
    List.mem_cons_self
  · rintro c ⟨-, ha, hp⟩
    exact ⟨by simp [ha], by simp [hp]⟩
  · exact fun _ c op hr hc ho hkeep => (Op.active_apply_iff (wf_of_run hr) hc ho).mpr hkeep
  · intro p hp
    obtain ⟨q, hq, hcluster, hop⟩ := hmem p hp
    rw [hcluster]
    exact hedit q hq p.2 hop

/-- **Controllers at rest**: in every run in which no restart leaves a feature
behind and no edit of a resource takes away what an active controller relies on, a
controller of the cluster is active at rest exactly if the `ClusterFeature`
resources of the remote cluster meet its requirements. -/
theorem controllers_follow_resources {tr : List (Announcing R × Act R)}
    (h : Run (announcing R x) tr s) (hrest : s.resources.AtRest)
    (hlost : ∀ p ∈ tr, ∀ name, ¬Loses name p.1 p.2) (hedit : ∀ p ∈ tr, EditKeeps x p.1 p.2)
    (n : String) (ctrl : ManagedController R)
    (hheld : s.cluster.controllers.lookup n = some ctrl ∨
      s.cluster.pendingControllers.lookup n = some ctrl) :
    s.cluster.controllers.lookup n = some ctrl ↔
      RequirementsMet x s.resources.store ctrl := by
  obtain ⟨hwf, hactive⟩ := active_of_edits_keep h hedit
  have hmap : ∀ name, s.cluster.features.lookup (featureUID name) =
      (s.resources.store.lookup name).map (·.feature name) := by
    intro name
    by_contra hne
    have hsince := (unnoticed_iff h name).mp
      ⟨hrest.not_due name, fun hright => hne (by rw [hright, hrest.cache])⟩
    obtain ⟨after, t, a, before, rfl, hl, -⟩ := hsince
    exact hlost (t, a) (List.mem_append_right _ List.mem_cons_self) name hl
  rw [← meets_iff_requirementsMet hmap (features_named h)]
  constructor
  · exact hactive.active n ctrl
  · intro hm
    refine hheld.resolve_right fun hp => ?_
    rw [hactive.pending n ctrl hp] at hm
    cases hm

/-- The feature that a controller waits for is announced. -/
def announcedOnce : List (Announcing Unit × Act Unit) × Announcing Unit :=
  played (announcing Unit .bare) [] ⟨{ store := ∅ }, { name := "c" }⟩
    [.controllers (.addController waiting), .edit "f" (some ⟨"f", ∅⟩), .restart,
      .reconcile "f" none ["rule"]]

theorem controllers_follow_resources_announcedOnce :
    announcedOnce.2.cluster.controllers.lookup "rule" = some waiting ∧
      RequirementsMet .bare announcedOnce.2.resources.store waiting := by
  have hactive : announcedOnce.2.cluster.controllers.lookup "rule" = some waiting := rfl
  refine ⟨hactive, (controllers_follow_resources (x := .bare) (.plays (.init ?_) ?_) ?_ ?_ ?_ "rule"
    waiting (.inl hactive)).mp hactive⟩
  · exact ⟨⟨rfl, rfl, rfl⟩, rfl, rfl, rfl⟩
  · decide +kernel
  · exact ⟨by decide +kernel, rfl, by decide +kernel⟩
  · simp only [List.forall_mem_cons, played]
    refine ⟨fun _ h => ?_, fun _ h => h.2.2 ?_, fun _ h => ?_, fun _ h => ?_, by simp⟩
    · cases h.1
    · exact congrArg (Finmap.lookup _) (show _ = (∅ : Map String ClusterFeature) from rfl)
    · cases h.1
    · cases h.1
  · simp only [List.forall_mem_cons, played]
    refine ⟨?_, nofun, nofun, ?_, by simp⟩
    · rintro op ⟨⟩ old hold
      rw [show Cluster.features _ = (∅ : Map String ClusterFeature) from rfl] at hold
      simp at hold
    · rintro op ⟨⟩
      trivial

end Announcing

end ClusterRegistry.Clusters
