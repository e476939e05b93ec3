import ClusterRegistry.Api.Types

/-!
# Cluster resources and their conditions

`api/v1alpha1/cluster_types.go` and `controllers/cluster_conditions.go`. The
string types of the source are enumerations here, with `unset` for the empty
string. Conditions are stored as a slice and handled as a map by type; times
are clock readings, `none` the zero time. Events sent to the recorder are left
out, and with them the flag that only they depend on.
-/

namespace ClusterRegistry.Members

open Lib

inductive ClusterType where
  | unset
  | «local»
  | peer
  deriving DecidableEq, Repr

inductive ClusterState where
  | unset
  | ready
  | failed
  | disabled
  | missingAuthInfo
  | invalidAuthInfo
  deriving DecidableEq, Repr

inductive ConditionStatus where
  | unset
  | conditionTrue
  | conditionFalse
  | conditionUnknown
  deriving DecidableEq, Repr

inductive ClusterConditionType where
  | localCluster
  | localConflict
  | clusterMetadata
  | ready
  | clustersSynced
  deriving DecidableEq, Repr

def conditionTypes : List ClusterConditionType :=
  [.localCluster, .localConflict, .clusterMetadata, .ready, .clustersSynced]

theorem mem_conditionTypes (t : ClusterConditionType) : t ∈ conditionTypes := by
  cases t <;> decide

structure ClusterCondition where
  type : ClusterConditionType
  status : ConditionStatus := .conditionUnknown
  lastHeartbeatTime : Option Nat := none
  lastTransitionTime : Option Nat := none
  reason : String := ""
  message : String := ""
  deriving DecidableEq

structure ClusterStatus where
  state : ClusterState := .unset
  message : String := ""
  type : ClusterType := .unset
  leader : Bool := false
  clusterMetadata : String := ""
  conditions : List ClusterCondition := []
  deriving DecidableEq

def ClusterStatus.reset (s : ClusterStatus) : ClusterStatus :=
  { state := .ready, type := .peer, conditions := s.conditions }

structure KubernetesAPIEndpoint where
  clientNetwork : String := ""
  serverAddress : String := ""
  caBundle : String := ""
  deriving DecidableEq

structure ClusterSpec where
  clusterID : String
  secretRef : NamespacedName := ⟨"", ""⟩
  kubernetesAPIEndpoints : List KubernetesAPIEndpoint := []
  deriving DecidableEq

/-- The `Cluster` custom resource, which is cluster-scoped. -/
structure ClusterObject where
  name : String
  uid : Nat := 0
  resourceVersion : Nat := 0
  annotations : StringMap := ∅
  spec : ClusterSpec
  status : ClusterStatus := {}
  deriving DecidableEq

def clusterDisabledAnnotation : String := "cluster-registry.k8s.cisco.com/cluster-disabled"

def ClusterObject.disabled (c : ClusterObject) : Bool :=
  (c.annotations.lookup clusterDisabledAnnotation).isSome

/-- `secretRef` names no secret. -/
def ClusterSpec.lacksSecret (s : ClusterSpec) : Bool :=
  s.secretRef.name == "" || s.secretRef.namespace == ""

/-! ## Errors -/

/-- An error of a reconcile call; a permanent one is not retried. `WithStackIf`
leaves a permanent error as it is, `WrapIf` hides that it is one. -/
structure Failure where
  err : Err
  permanent : Bool := false
  deriving DecidableEq

namespace Failure

def wrapIf (f : Failure) (msg : String) : Failure := ⟨f.err.wrapIf msg, false⟩

def wrapAsPermanentError (f : Failure) : Failure := { f with permanent := true }

def new (msg : String) : Failure := ⟨.new msg, false⟩

end Failure

def errClusterNotFound : Failure := .new "cluster not found"
def errInvalidClusterID : Failure := .new "invalid cluster ID"
def errInvalidSecretContent : Failure := .new "could not found k8s config in secret"
def errInvalidSecret : Failure := .new "invalid secret type"
def errLocalClusterConflict : Failure := .new "multiple local clusters are defined"

/-! ## Conditions -/

abbrev ClusterConditionsMap : Type := Map ClusterConditionType ClusterCondition

/-- `SetCondition` at the time `now`. -/
def setCondition (now : Nat) (currentConditions : ClusterConditionsMap)
    (condition : ClusterCondition) : ClusterConditionsMap :=
  let current :=
    match currentConditions.lookup condition.type with
    | none => condition
    | some current =>
      { current with
        lastTransitionTime :=
          if current.status ≠ condition.status then some now else current.lastTransitionTime
        message := condition.message
        reason := condition.reason
        status := condition.status }
  currentConditions.insert condition.type
    { current with
      lastTransitionTime := some (current.lastTransitionTime.getD now)
      lastHeartbeatTime := some now }

def getCurrentConditions (conditions : List ClusterCondition) : ClusterConditionsMap :=
  conditions.foldl (fun m c => m.insert c.type c) ∅

/-- The first condition of the type; the zero condition when there is none. -/
def getCurrentCondition (c : ClusterObject) (t : ClusterConditionType) : ClusterCondition :=
  (c.status.conditions.find? (·.type = t)).getD { type := t, status := .unset }

/-- A condition that says whether something holds. -/
def binaryCondition (type : ClusterConditionType) (holds : Bool) (reason message : String) :
    ClusterCondition :=
  { type := type, status := if holds then .conditionTrue else .conditionFalse,
    reason := reason, message := message }

def localClusterCondition : Bool → ClusterCondition
  | true => binaryCondition .localCluster true "ClusterIsLocal" "cluster is local"
  | false => binaryCondition .localCluster false "ClusterIsNotLocal" "cluster is not local"

def localClusterConflictCondition : Bool → ClusterCondition
  | true => binaryCondition .localConflict true "LocalClusterIsConflicting"
      errLocalClusterConflict.err.msg
  | false => binaryCondition .localConflict false "LocalClusterIsNotConflicting"
      "only one local cluster is defined"

def clusterMetadataCondition : Option Failure → ClusterCondition
  | none => binaryCondition .clusterMetadata true "ClusterMetadataSet" "cluster metadata is set"
  | some e => binaryCondition .clusterMetadata false "ClusterMetadataIsNotSet" e.err.msg

def clusterReadyCondition : Option Failure → ClusterCondition
  | none => binaryCondition .ready true "ClusterIsReady" "cluster is ready"
  | some e => binaryCondition .ready false "ClusterIsNotReady" e.err.msg

def clustersSyncedCondition : Option Failure → ClusterCondition
  | none => binaryCondition .clustersSynced true "ClustersAreSynced"
      "all participating clusters are in sync"
  | some e => binaryCondition .clustersSynced false "ClustersAreNotSynced" e.err.msg

theorem status_setCondition (now : Nat) (m : ClusterConditionsMap) (c : ClusterCondition)
    (t : ClusterConditionType) :
    ((setCondition now m c).lookup t).map (·.status) =
      if t = c.type then some c.status else (m.lookup t).map (·.status) := by
  unfold setCondition
  rw [Map.lookup_insert_if]
  split
  · cases m.lookup c.type <;> rfl
  · rfl

/-- Every condition is under its own type. -/
def ClusterConditionsMap.Keyed (m : ClusterConditionsMap) : Prop :=
  ∀ t c, m.lookup t = some c → c.type = t

theorem keyed_empty : ClusterConditionsMap.Keyed ∅ := fun t c h => by simp at h

theorem keyed_setCondition {m : ClusterConditionsMap} (h : m.Keyed) (now : Nat)
    (c : ClusterCondition) : (setCondition now m c).Keyed := by
  intro t c' hc
  unfold setCondition at hc
  rw [Map.lookup_insert_if] at hc
  split at hc
  · next e =>
    subst e
    cases hc
    cases hm : m.lookup c.type with
    | none => rfl
    | some current => exact h _ current hm
  · exact h t c' hc

theorem lookup_getCurrentConditions (conditions : List ClusterCondition)
    (t : ClusterConditionType) : (getCurrentConditions conditions).lookup t =
      (conditions.filter (·.type = t)).getLast? := by
  rw [getCurrentConditions, Map.lookup_foldl_insert, Finmap.lookup_empty, Option.or_none]

theorem keyed_getCurrentConditions (conditions : List ClusterCondition) :
    (getCurrentConditions conditions).Keyed := by
  intro t c hc
  rw [lookup_getCurrentConditions] at hc
  exact of_decide_eq_true (List.mem_filter.mp (List.mem_of_getLast? hc)).2

/-! ## Endpoints -/

/-- The loop of `GetEndpointForClusterByNetwork`. -/
def endpointLoop (networkName : String) (endpoint : KubernetesAPIEndpoint) :
    List KubernetesAPIEndpoint → KubernetesAPIEndpoint
  | [] => endpoint
  | e :: rest =>
    if e.clientNetwork = networkName then e
    -- use for every network if the endpoint is not network specific
    else endpointLoop networkName (if e.clientNetwork = "" then e else endpoint) rest

def getEndpointForClusterByNetwork (spec : ClusterSpec) (networkName : String) :
    KubernetesAPIEndpoint :=
  endpointLoop networkName {} spec.kubernetesAPIEndpoints

/-- `clientcmd.ConfigOverrides`, as far as it is filled in. -/
structure ConfigOverrides where
  server : String := ""
  certificateAuthorityData : String := ""
  deriving DecidableEq

/-- `rest.Config`: what a connection is made with. -/
structure RestConfig where
  host : String := ""
  caData : String := ""
  bearer : String := ""
  deriving DecidableEq

/-- Third-party code that reads kubeconfigs and addresses. -/
structure ClientCmd where
  /-- `clientcmd.Load`. -/
  load : String → Except Err Unit
  /-- `clientcmd.NewDefaultClientConfig(...).ClientConfig()`. -/
  clientConfig : String → ConfigOverrides → Except Err RestConfig
  /-- `getURLWithHTTPSScheme`, on `url.Parse`. -/
  urlWithHTTPSScheme : String → Except Err String

/-- A reader that takes the whole kubeconfig for the bearer token. -/
def ClientCmd.bare : ClientCmd where
  load _ := .ok ()
  clientConfig config o := .ok ⟨o.server, o.certificateAuthorityData, config⟩
  urlWithHTTPSScheme address := .ok ("https://" ++ address)

def getKubeconfigOverridesForClusterByNetwork (cmd : ClientCmd) (spec : ClusterSpec)
    (networkName : String) : Except Err ConfigOverrides :=
  if spec.kubernetesAPIEndpoints.isEmpty then .ok {}
  else
    let endpoint := getEndpointForClusterByNetwork spec networkName
    let ca := endpoint.caBundle
    if endpoint.serverAddress ≠ "" then
      match cmd.urlWithHTTPSScheme endpoint.serverAddress with
      | .error e => .error e
      | .ok address => .ok ⟨address, ca⟩
    else .ok ⟨"", ca⟩

/-! ## Samples -/

/-- A resource of a remote cluster, with its secret in the namespace `ns`. -/
def peer (name secret : String) : ClusterObject where
  name := name
  spec := { clusterID := "remote", secretRef := ⟨"ns", secret⟩ }

/-- A resource of the local cluster, if that has the ID `home`. -/
def localCluster (name : String) : ClusterObject where
  name := name
  spec := { clusterID := "home" }

end ClusterRegistry.Members
