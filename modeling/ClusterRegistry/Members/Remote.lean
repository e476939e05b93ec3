import ClusterRegistry.Members.Reconciler

/-!
# The reconciler in a remote cluster

`controllers/remote_cluster_reconciler.go`: it runs for a connected cluster,
compares the `Cluster` resources of the two sides, and is the second writer of
the status of the local resource. A `RemoteEnv` fixes what the remote side and
third-party code answer.
-/

namespace ClusterRegistry.Members

open Lib Lib.Code

structure RemoteEnv where
  now : Nat := 0
  /-- The UID of the remote `kube-system` namespace, read once. -/
  clusterID : Except Err String
  get : Option Err := none
  clusterMetadata : Except Err String
  localList : Option Err := none
  /-- The `Cluster` resources in the remote cluster. -/
  remoteClusters : Except Err (List ClusterObject)
  /-- The orders of the list and of the loops over maps. -/
  listOrder : Shuffle ClusterObject := .refl _
  loopOrder : Shuffle ClusterObject := .refl _
  conditionOrder : Shuffle ClusterCondition := .refl _
  update : UpdateFaults := {}

/-- The values of the map that `GetClusters` makes. -/
def clusterValues (items : List ClusterObject) : List ClusterObject :=
  items.filter fun c => (getClusters items).lookup c.spec.clusterID = some c

namespace RemoteClusterReconciler

/-- What the loop of `syncClusters` finds wrong with one local resource. -/
def syncErrors (remoteClusters : Map String ClusterObject) (c : ClusterObject) : List String :=
  match remoteClusters.lookup c.spec.clusterID with
  | some rc =>
    (if c.name ≠ rc.name then ["cluster name mismatch " ++ c.name ++ " != " ++ rc.name] else []) ++
    (if rc.status.state ≠ .ready then ["cluster '" ++ rc.name ++ "' status is not ready"] else [])
  | none => ["cluster '" ++ c.name ++ "' not found at remote side"]

section

variable (env : RemoteEnv)

def syncClusters : Proc (Option Failure) := do
  match ← (listClusters env.localList env.listOrder).attempt with
  | .error e =>
    pure (some ((e.wrapIf "could not list clusters").wrapIf "could not get local clusters"))
  | .ok items =>
    match env.remoteClusters with
    | .error e =>
      pure (some
        ⟨(e.wrapIf "could not list clusters").wrapIf "could not get remote clusters", false⟩)
    | .ok remoteItems =>
      match (env.loopOrder.arrange (clusterValues items)).flatMap
          (syncErrors (getClusters remoteItems)) with
      | [] => pure none
      | errs => pure (some (.new (String.intercalate "; " errs)))

/-- `reconcile`: the error, and the resource with its conditions. -/
def reconcileDraft (clusterID : String) (d : Draft) : Proc (Option Failure × Draft) :=
  if clusterID ≠ d.cluster.spec.clusterID then
    pure (some errInvalidClusterID.wrapAsPermanentError, d)
  else
    match env.clusterMetadata with
    | .error e =>
      let err : Option Failure := some ⟨e, false⟩
      pure (err, (d.setCondition env.now (clusterMetadataCondition err)).setCondition env.now
        (clustersSyncedCondition err))
    | .ok clusterMetadata => do
      let d := d.setCondition env.now (clusterMetadataCondition none)
      let d := d.setStatus { d.cluster.status with clusterMetadata := clusterMetadata }
      let err ← syncClusters env
      pure (none, d.setCondition env.now (clustersSyncedCondition err))

/-- The condition that an error sets once more. -/
def noteError (reconcileError : Option Failure) (d : Draft) : Draft :=
  match reconcileError with
  | some e => d.setCondition env.now (clustersSyncedCondition (some e))
  | none => d

/-- `Reconcile` of a resource that is there: the status is always written. -/
def reconcileCluster (clusterID : String) (cluster : ClusterObject) : Proc Unit := do
  let status := cluster.status.reset
  let (reconcileError, d) ← reconcileDraft env clusterID
    ⟨{ cluster with status := status }, getCurrentConditions status.conditions, []⟩
  let _ ← updateCluster env.update env.conditionOrder .remoteClusterReconciler reconcileError
    (noteError env reconcileError d)

/-- `Reconcile`. -/
def reconcile (name : String) : Proc Unit := do
  let clusterID ← (ofExcept env.clusterID).mapError
    fun e => ⟨e.wrapIf "could not get cluster id", false⟩
  match ← (getCluster env.get name).attempt with
  | .error e =>
    if e.err.reason = .notFound then pure () else fail (e.wrapIf "could not get object")
  | .ok cluster => reconcileCluster env clusterID cluster

end

end RemoteClusterReconciler

end ClusterRegistry.Members
