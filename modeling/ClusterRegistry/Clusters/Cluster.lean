import ClusterRegistry.Api.Types

/-!
# Clusters and their controllers

`pkg/clusters`: a `Cluster` keeps the features announced on it, the
controllers that run on it and those that wait for a feature. `R` is the type
of reconcilers a controller carries. Loops over the Go maps take the order of
their keys as an argument; an entry that is gone when its turn comes is
skipped.
-/

namespace ClusterRegistry.Clusters

open Lib

structure ClusterFeature where
  uid : String
  name : String
  labels : StringMap
  deriving DecidableEq

structure ClusterFeatureRequirement where
  name : String
  matchLabels : Option StringMap
  matchExpressions : Option (List LabelSelectorRequirement)
  deriving DecidableEq

namespace ClusterFeatureRequirement

/-- No label constraints. -/
def free (r : ClusterFeatureRequirement) : Bool :=
  entries r.matchLabels = ∅ && (elems r.matchExpressions).isEmpty

variable (x : External)

/-- The loop of `Match` over the features in some order. -/
def matchLoop (r : ClusterFeatureRequirement) : List ClusterFeature → Bool
  | [] => false
  | f :: rest =>
    if r.name ≠ "" ∧ r.name ≠ f.name then matchLoop r rest
    else if r.free then true
    else
      match x.labelSelectorAsSelector ⟨r.matchLabels, r.matchExpressions⟩ with
      | .error _ => false
      | .ok matcher => if matcher f.labels then true else matchLoop r rest

/-- The requirement is met by this very feature. -/
def accepts (r : ClusterFeatureRequirement) (f : ClusterFeature) : Bool :=
  (r.name = "" || r.name = f.name) && (r.free ||
    match x.labelSelectorAsSelector ⟨r.matchLabels, r.matchExpressions⟩ with
    | .error _ => false
    | .ok matcher => matcher f.labels)

/-- An invalid selector ends the loop at once, but then no feature is accepted anyway. -/
theorem matchLoop_eq (r : ClusterFeatureRequirement) (l : List ClusterFeature) :
    r.matchLoop x l = l.any (r.accepts x) := by
  induction l with
  | nil => rfl
  | cons f l ih =>
    unfold matchLoop
    rw [List.any_cons, ih]
    by_cases hn : r.name ≠ "" ∧ r.name ≠ f.name
    · have : r.accepts x f = false := by simp [accepts, hn.1, hn.2]
      rw [if_pos hn, this, Bool.false_or]
    · have hname : (decide (r.name = "") || decide (r.name = f.name)) = true := by
        by_cases h : r.name = "" <;> simp_all
      rw [if_neg hn]
      unfold accepts
      rw [hname, Bool.true_and]
      cases hf : r.free with
      | true => simp
      | false =>
        cases hs : x.labelSelectorAsSelector ⟨r.matchLabels, r.matchExpressions⟩ with
        | error e => simp
        | ok matcher => cases matcher f.labels <;> simp

theorem matchLoop_perm (r : ClusterFeatureRequirement) {l l' : List ClusterFeature}
    (h : l.Perm l') : r.matchLoop x l = r.matchLoop x l' := by
  rw [matchLoop_eq, matchLoop_eq, h.any_eq]

def «match» (r : ClusterFeatureRequirement) (features : Map String ClusterFeature) : Bool :=
  Map.overValues (r.matchLoop x) (fun _ _ => r.matchLoop_perm x) features

theorem match_iff (r : ClusterFeatureRequirement) (features : Map String ClusterFeature) :
    r.match x features = true ↔ ∃ uid f, features.lookup uid = some f ∧ r.accepts x f = true :=
  Map.overValues_any (r.matchLoop_eq x) _ features

theorem match_mono {r : ClusterFeatureRequirement} {features more : Map String ClusterFeature}
    (h : ∀ uid f, features.lookup uid = some f → more.lookup uid = some f)
    (hm : r.match x features = true) : r.match x more = true := by
  obtain ⟨uid, f, hf, ha⟩ := (r.match_iff x features).mp hm
  exact (r.match_iff x more).mpr ⟨uid, f, h uid f hf, ha⟩

end ClusterFeatureRequirement

structure ManagedController (R : Type) where
  name : String
  reconciler : R
  requiredClusterFeatures : List ClusterFeatureRequirement

structure Cluster (R : Type) where
  name : String
  clusterID : String := ""
  alive : Bool := false
  features : Map String ClusterFeature := ∅
  controllers : Map String (ManagedController R) := ∅
  pendingControllers : Map String (ManagedController R) := ∅

/-- The feature check on a given feature map. -/
def meets {R : Type} (x : External) (features : Map String ClusterFeature)
    (controller : ManagedController R) : Bool :=
  controller.requiredClusterFeatures.all (·.match x features)

namespace Cluster

variable {R : Type} (x : External)

def hasController (c : Cluster R) (name : String) : Bool := (c.controllers.lookup name).isSome

def getController (c : Cluster R) (name : String) : Option (ManagedController R) :=
  c.controllers.lookup name

def checkRequiredClusterFeatures (c : Cluster R) (controller : ManagedController R) : Bool :=
  meets x c.features controller

def addPendingController (c : Cluster R) (controller : ManagedController R) : Cluster R :=
  { c with pendingControllers := c.pendingControllers.insert controller.name controller }

def removePendingControllerByName (c : Cluster R) (name : String) : Cluster R :=
  { c with pendingControllers := c.pendingControllers.erase name }

/-- The unexported `addController`: a name that is taken keeps its controller. -/
def addReadyController (c : Cluster R) (controller : ManagedController R) : Cluster R :=
  match c.getController controller.name with
  | some _ => c
  | none =>
    let c := c.removePendingControllerByName controller.name
    { c with controllers := c.controllers.insert controller.name controller }

def addController (c : Cluster R) (controller : ManagedController R) : Cluster R :=
  if c.checkRequiredClusterFeatures x controller then c.addReadyController controller
  else c.addPendingController controller

def removeControllerByName (c : Cluster R) (name : String) : Cluster R :=
  let c := c.removePendingControllerByName name
  match c.getController name with
  | none => c
  | some _ => { c with controllers := c.controllers.erase name }

def removeController (c : Cluster R) (controller : ManagedController R) : Cluster R :=
  c.removeControllerByName controller.name

/-- One turn of the loop in `AddFeature`. -/
def retryPending (c : Cluster R) (name : String) : Cluster R :=
  match c.pendingControllers.lookup name with
  | none => c
  | some controller => c.addController x controller

def addFeature (c : Cluster R) (feature : ClusterFeature) (order : List String) : Cluster R :=
  order.foldl (retryPending x) { c with features := c.features.insert feature.uid feature }

/-- One turn of the loop in `RemoveFeature`. -/
def recheckActive (c : Cluster R) (name : String) : Cluster R :=
  match c.controllers.lookup name with
  | none => c
  | some controller =>
    if c.checkRequiredClusterFeatures x controller then c
    else (c.removeController controller).addPendingController controller

def removeFeature (c : Cluster R) (uid : String) (order : List String) : Cluster R :=
  order.foldl (recheckActive x) { c with features := c.features.erase uid }

end Cluster

/-- `Manager`: the clusters by name. -/
abbrev Manager (R : Type) : Type := Map String (Cluster R)

/-- `GetAliveClustersByID()[id] != nil`. -/
def Manager.aliveByID {R : Type} (m : Manager R) (id : String) : Bool :=
  Finmap.any (fun _ c => c.alive && c.clusterID == id) m

end ClusterRegistry.Clusters
