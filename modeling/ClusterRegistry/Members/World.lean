import ClusterRegistry.Lib.Code
import ClusterRegistry.Members.Types

/-!
# What a reconcile call of a `Cluster` works on

The `Cluster` resources and the secrets of the local API server, the clusters
manager with the instances made so far, and the work queue. An instance is a
pointer in the source: here it is a position in `instances`, to which new ones
are appended. Calls to the API server are single sections and may fail with
any error; a status update with a stale resource version is rejected.

`writes` records the status updates that went through, for later reference.
-/

namespace ClusterRegistry.Members

open Lib Lib.Code

structure Secret where
  type : String
  data : StringMap
  deriving DecidableEq

def secretTypeClusterRegistry : String := "k8s.cisco.com/cluster-registry-secret"
def kubeconfigKey : String := "kubeconfig"

/-- A `clusters.Cluster`: `started` once `Start` returned no error, `stopped`
once `Stop` was called. -/
structure Instance where
  name : String
  secretID : Option String
  kubeconfig : String
  config : RestConfig
  clusterID : String := ""
  alive : Bool := false
  started : Bool := false
  stopped : Bool := false
  deriving DecidableEq

/-- The two reconcilers that write the status of a `Cluster`. -/
inductive Writer where
  | clusterReconciler
  | remoteClusterReconciler
  deriving DecidableEq

/-- A status update: who made it, the conditions set in that call, the latest
first, and whether the first attempt had met a conflict. -/
structure StatusWrite where
  writer : Writer
  set : List ClusterCondition
  status : ClusterStatus
  retried : Bool

structure World where
  clusters : Table ClusterObject.name := Table.empty
  rev : Nat := 0
  secrets : Map NamespacedName Secret := ∅
  /-- The UID of the `kube-system` namespace: the local cluster ID. -/
  kubeSystemUID : String
  /-- The ID as `ClusterReconciler` has read it, empty before that. -/
  clusterID : String := ""
  manager : Map String Nat := ∅
  instances : List Instance := []
  queue : Finset String := ∅
  writes : List StatusWrite := []

abbrev Proc (α : Type) : Type := Code World Failure α

/-- A call that only reads, and may fail. -/
def answer {α : Type} (fault : Option Err) (f : World → Except Failure α) : Proc α :=
  atomic fun w =>
    match fault with
    | some e => (.error ⟨e, false⟩, w)
    | none => (f w, w)

def notFound : Failure := ⟨⟨.notFound, "not found"⟩, false⟩
def conflict : Failure := ⟨⟨.conflict, "the object has been modified"⟩, false⟩

/-! ## The API server -/

def getCluster (fault : Option Err) (name : String) : Proc ClusterObject :=
  answer fault fun w =>
    match w.clusters.get name with
    | none => .error notFound
    | some c => .ok c

def listClusters (fault : Option Err) (order : Shuffle ClusterObject) : Proc (List ClusterObject) :=
  answer fault fun w => .ok (order.arrange w.clusters.toList)

/-- `GetClusters`: of several resources with one ID, the last one listed. -/
def getClusters (items : List ClusterObject) : Map String ClusterObject :=
  items.foldl (fun m c => m.insert c.spec.clusterID c) ∅

theorem lookup_getClusters (items : List ClusterObject) (id : String) :
    (getClusters items).lookup id = (items.filter (·.spec.clusterID = id)).getLast? := by
  rw [getClusters, Map.lookup_foldl_insert, Finmap.lookup_empty, Option.or_none]

/-- `Status().Update`: the object as the server answers it. -/
def updateStatus (fault : Option Err) (entry : StatusWrite) (obj : ClusterObject) :
    Proc ClusterObject :=
  atomic fun w =>
    match fault with
    | some e => (.error ⟨e, false⟩, w)
    | none =>
      match w.clusters.get obj.name with
      | none => (.error notFound, w)
      | some cur =>
        if obj.uid ≠ cur.uid ∨ obj.resourceVersion ≠ cur.resourceVersion then (.error conflict, w)
        else
          let new := { cur with status := obj.status, resourceVersion := w.rev + 1 }
          (.ok new,
            { w with
              clusters := w.clusters.put new, rev := w.rev + 1, writes := entry :: w.writes })

/-! ## The work queue -/

def triggerClusterReconcile (cluster : ClusterObject) : Proc Unit :=
  write fun w => { w with queue := insert cluster.name w.queue }

/-! ## The clusters manager -/

def managerGet (name : String) : Proc (Option Nat) := read fun w => w.manager.lookup name

/-- `Manager.Add`; the functions run before and after it touch nothing here. -/
def managerAdd (id : Nat) : Proc Unit :=
  write fun w =>
    match w.instances[id]? with
    | none => w
    | some i => { w with manager := w.manager.insert i.name id }

/-- Cancelling the context of an instance. -/
def Instance.stop (i : Instance) : Instance := { i with stopped := true }

/-- The locked section of `Manager.Remove`. -/
def World.remove (w : World) (id : Nat) (name : String) : World :=
  { w with instances := w.instances.modify id Instance.stop, manager := w.manager.erase name }

/-- `Manager.Remove`: the test comes before the lock is taken. -/
def managerRemove (id : Nat) : Proc Unit := do
  let found ← read fun w => (w.instances[id]?).filter fun i => (w.manager.lookup i.name).isSome
  match found with
  | none => pure ()
  | some i => write fun w => w.remove id i.name

end ClusterRegistry.Members
