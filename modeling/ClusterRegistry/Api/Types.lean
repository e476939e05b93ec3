import ClusterRegistry.Lib.Table

/-!
# Objects and sync rules

The Kubernetes objects the controllers handle and the `ResourceSyncRule`
resource. A Go slice or map of a rule is an `Option`, so that two specs are
equal here exactly when `reflect.DeepEqual` says so (a nil slice is not an
empty one); `elems` is what a loop over it sees. On an object's metadata the
code never tells a nil map from an empty one, and there a map is a `Map`.

A client object knows its kind twice: `gvk` is the `TypeMeta` header, and
`goType` is the kind of the Go struct it was built from, absent for an
unstructured object.
-/

namespace ClusterRegistry

open Lib

/-- API errors by the tests the controllers make on them. -/
inductive Reason where
  | notFound
  | alreadyExists
  | conflict
  | other
  deriving DecidableEq, Repr

structure Err where
  reason : Reason
  msg : String
  deriving DecidableEq, Repr

/-- `errors.WrapIf`: the message in front, the cause kept. -/
def Err.wrapIf (e : Err) (msg : String) : Err := { e with msg := msg ++ ": " ++ e.msg }

def Err.new (msg : String) : Err := ⟨.other, msg⟩

abbrev StringMap : Type := Map String String

/-- `m[k]`: the empty string when the key is absent. -/
def StringMap.val (m : StringMap) (k : String) : String := (m.lookup k).getD ""

/-- The elements of a slice; nil has none. -/
def elems {α : Type} (s : Option (List α)) : List α := s.getD []

/-- The entries of a map; nil has none. -/
def entries (m : Option StringMap) : StringMap := m.getD ∅

structure GVK where
  group : String
  version : String
  kind : String
  deriving DecidableEq, Repr

def GVK.none : GVK := ⟨"", "", ""⟩

/-- `schema.GroupVersionKind.Empty`. -/
def GVK.empty (g : GVK) : Bool := g.group == "" && g.version == "" && g.kind == ""

structure NamespacedName where
  «namespace» : String
  name : String
  deriving DecidableEq, Repr

def NamespacedName.string (n : NamespacedName) : String := n.namespace ++ "/" ++ n.name

/-- Where the API server keeps an object. -/
structure Key where
  gvk : GVK
  «namespace» : String
  name : String
  deriving DecidableEq, Repr

structure ObjectMeta where
  name : String
  «namespace» : String
  labels : StringMap := ∅
  annotations : StringMap := ∅
  generation : Nat := 0
  resourceVersion : String := ""
  uid : String := ""
  selfLink : String := ""
  creationTimestamp : String := ""
  deletionTimestamp : Option String := none
  finalizers : List String := []
  ownerReferences : List String := []
  managedFields : List String := []
  deriving DecidableEq

/-- A `client.Object`. `payload` is everything beside metadata and status. -/
structure Obj extends ObjectMeta where
  gvk : GVK
  goType : Option GVK := none
  payload : String := ""
  status : String := ""
  deriving DecidableEq

def Obj.key (o : Obj) : Key := ⟨o.gvk, o.namespace, o.name⟩

def Obj.nn (o : Obj) : NamespacedName := ⟨o.namespace, o.name⟩

theorem Obj.key_of_nn {o c : Obj} (h : o.nn = c.nn) :
    (⟨c.gvk, o.namespace, o.name⟩ : Key) = c.key := by
  simp only [Obj.nn, NamespacedName.mk.injEq] at h
  rw [h.1, h.2]; rfl

def ownershipAnnotation : String := "cluster-registry.k8s.cisco.com/resource-owner-cluster-id"
def originalGVKAnnotation : String := "cluster-registry.k8s.cisco.com/original-group-version-kind"
/-- `patch.LastAppliedConfig`. -/
def lastAppliedAnnotation : String := "banzaicloud.com/last-applied"

def syncDisabledAnnotation : String := "cluster-registry.k8s.cisco.com/resource-sync-disabled"

/-- `object.GetAnnotations()[OwnershipAnnotation]`: empty when absent. -/
def Obj.owner (o : Obj) : String := o.annotations.val ownershipAnnotation

/-! ## Selectors and matches -/

/-- `metav1.LabelSelectorOperator`; any other string is rejected on conversion. -/
inductive SelectorOperator where
  | in
  | notIn
  | exists
  | doesNotExist
  | unknown (op : String)
  deriving DecidableEq

structure LabelSelectorRequirement where
  key : String
  operator : SelectorOperator
  values : Option (List String)
  deriving DecidableEq

structure LabelSelector where
  matchLabels : Option StringMap
  matchExpressions : Option (List LabelSelectorRequirement)
  deriving DecidableEq

/-- The values of an annotation requirement are `AnnotationValue` strings. -/
structure AnnotationSelectorRequirement where
  key : String
  operator : SelectorOperator
  values : Option (List String)
  deriving DecidableEq

structure AnnotationSelector where
  matchAnnotations : Option StringMap
  matchExpressions : Option (List AnnotationSelectorRequirement)
  deriving DecidableEq

/-- `intstr.IntOrString`; `intVal` is an `int32`. -/
inductive IntOrString where
  | int (intVal : Int)
  | string (strVal : String)
  deriving DecidableEq

structure ContentSelector where
  key : String
  value : IntOrString
  deriving DecidableEq

structure ObjectKey where
  name : String
  «namespace» : String
  deriving DecidableEq

structure SyncRuleMatch where
  annotations : Option (List AnnotationSelector) := none
  content : Option (List ContentSelector) := none
  labels : Option (List LabelSelector) := none
  namespaces : Option (List String) := none
  objectKey : ObjectKey := ⟨"", ""⟩
  deriving DecidableEq

/-! ## Mutations and rules -/

/-- `AnnotationMutations` and `LabelMutations`, which have the same fields. -/
structure MapMutations where
  add : Option StringMap
  remove : Option (List String)
  deriving DecidableEq

/-- `resources.K8SResourceOverlayPatch`. -/
structure OverlayPatch where
  path : Option String
  value : Option String
  type : String
  parseValue : Bool
  deriving DecidableEq

structure Mutations where
  annotations : Option MapMutations := none
  gvk : Option GVK := none
  labels : Option MapMutations := none
  overrides : Option (List OverlayPatch) := none
  syncStatus : Bool := false
  deriving DecidableEq

def Mutations.getGVK (m : Mutations) : GVK := m.gvk.getD GVK.none

def Mutations.getAnnotations (m : Mutations) : MapMutations := m.annotations.getD ⟨none, none⟩

def Mutations.getLabels (m : Mutations) : MapMutations := m.labels.getD ⟨none, none⟩

structure SyncRule where
  «matches» : Option (List SyncRuleMatch) := none
  mutations : Mutations := {}
  deriving DecidableEq

structure ClusterFeatureMatch where
  featureName : String
  matchLabels : Option StringMap
  matchExpressions : Option (List LabelSelectorRequirement)
  deriving DecidableEq

structure ResourceSyncRuleSpec where
  clusterFeatureMatches : Option (List ClusterFeatureMatch)
  gvk : GVK
  rules : Option (List SyncRule)
  deriving DecidableEq

structure ResourceSyncRule where
  name : String
  uid : String
  spec : ResourceSyncRuleSpec
  deriving DecidableEq

/-! ## Code outside the repository -/

/-- What `gjson` found under a path: its `Int()` and `String()`. -/
structure GJson where
  int : Int
  string : String

/-- A `Cluster` resource, as far as templates and lookups read it. -/
structure ClusterCR where
  name : String
  clusterID : String
  deriving DecidableEq

/-- What operator-tools' `ReconcileResource` writes for an object, given the current one if
there is one. It may take over labels and annotations of the current object, and notes the
configuration that it applies. What is wanted is there, and the ownership key is as wanted. -/
structure Merge where
  object : Option Obj → Obj → Obj
  labels : ∀ current d k v, d.labels.lookup k = some v →
    (object current d).labels.lookup k = some v
  annotations : ∀ current d k v, k ≠ lastAppliedAnnotation → d.annotations.lookup k = some v →
    (object current d).annotations.lookup k = some v
  ownerLabel : ∀ current d,
    (object current d).labels.lookup ownershipAnnotation = d.labels.lookup ownershipAnnotation
  owner : ∀ current d, (object current d).annotations.lookup ownershipAnnotation =
    d.annotations.lookup ownershipAnnotation
  finalizers : ∀ current d, (object current d).finalizers = d.finalizers
  payload : ∀ current d, (object current d).payload = d.payload

/-- The object as it is. -/
def Merge.verbatim : Merge where
  object _ d := d
  labels _ _ _ _ h := h
  annotations _ _ _ _ _ h := h
  ownerLabel _ _ := rfl
  owner _ _ := rfl
  finalizers _ _ := rfl
  payload _ _ := rfl

/-- All labels and annotations of the current object but the ownership key are kept where
the desired one has none, and `config` is noted. -/
def Merge.keeping (config : Obj → String) : Merge where
  object current d :=
    { d with
      labels :=
        d.labels ∪ ((current.map fun (o : Obj) => o.labels).getD ∅).erase ownershipAnnotation
      annotations :=
        (d.annotations ∪
          ((current.map fun (o : Obj) => o.annotations).getD ∅).erase ownershipAnnotation).insert
            lastAppliedAnnotation (config d) }
  labels current d k v h := by
    rw [Map.lookup_union_or, h]
    rfl
  annotations current d k v hk h := by
    rw [Map.lookup_insert_if, if_neg hk, Map.lookup_union_or, h]
    rfl
  ownerLabel current d := by
    rw [Map.lookup_union_or, Finmap.lookup_erase, Option.or_none]
  owner current d := by
    rw [Map.lookup_insert_if, if_neg (by decide), Map.lookup_union_or, Finmap.lookup_erase,
      Option.or_none]
  finalizers _ _ := rfl
  payload _ _ := rfl

/-- The third-party code the controllers call. -/
structure External where
  /-- `Scheme().New` knows a Go struct for the kind. -/
  inScheme : GVK → Bool
  /-- `metav1.LabelSelectorAsSelector`, and `Matches` of its result. -/
  labelSelectorAsSelector : LabelSelector → Except Err (StringMap → Bool)
  /-- `json.Marshal` of the object and `gjson.GetBytes` in the result. -/
  gjson : Obj → Except Err (String → Option GJson)
  /-- `text/template` with the object, the synced and the local cluster. -/
  executeTemplate : String → Obj → ClusterCR → ClusterCR → Except Err String
  /-- `resources.PatchYAMLModifier` for the kind and the patches. -/
  patchYAMLModifier : GVK → List OverlayPatch → Except Err (Obj → Except Err Obj)
  /-- `reconciler.ServiceIPModifier`: the desired payload with the cluster IPs
  of the current object. -/
  serviceIPModifier : Obj → Obj → Except Err String
  /-- `patch.DefaultPatchMaker.Calculate(...).IsEmpty()`. -/
  patchIsEmpty : Obj → Obj → Except Err Bool
  /-- The write of `ReconcileResource`. -/
  merge : Merge

/-- The plainest third-party code: no Go structs, selectors on exact labels,
templates, patches and writes that change nothing. -/
def External.bare : External where
  inScheme _ := false
  labelSelectorAsSelector s :=
    .ok fun labels => (entries s.matchLabels).all fun k v => labels.lookup k == some v
  gjson _ := .ok fun _ => none
  executeTemplate t _ _ _ := .ok t
  patchYAMLModifier _ _ := .ok .ok
  serviceIPModifier desired _ := .ok desired.payload
  patchIsEmpty a b := .ok (a == b)
  merge := .verbatim

end ClusterRegistry
