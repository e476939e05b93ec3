import ClusterRegistry.Api.Match
import ClusterRegistry.Api.Server
import ClusterRegistry.Lib.Effect

/-!
# The sync reconciler

`controllers/sync_reconciler.go`: the reconciler that a cluster runs for one
rule and one remote cluster. It reads the source object on the remote, and
creates, updates or deletes its copy on the local API server.

A call runs over a `SyncState`: the reconciler's own fields, the local API
server, the write calls issued and the events recorded. What the call finds
elsewhere is its `Env`: the source object, the clusters alive in the manager,
the rate limiter's verdict, and what operator-tools' `ReconcileResource`
makes of the object once its gates let it write.
-/

namespace ClusterRegistry.Sync

open Lib Lib.Eff

def originalNameLabel : String := "cluster-registry.k8s.cisco.com/original-name"
def originalNamespaceLabel : String := "cluster-registry.k8s.cisco.com/original-namespace"

structure SyncReconciler where
  gvk : GVK
  localGVK : GVK
  localClusterID : String
  clusterID : String
  rule : ResourceSyncRule
  /-- A rate limiter is set. -/
  rateLimiter : Bool
  resourceNameMutated : Bool
  resourceNamespaceMutated : Bool

/-- `NewSyncReconciler`. -/
def newSyncReconciler (rule : ResourceSyncRule) (clusterID : String) (rateLimiter : Bool) :
    SyncReconciler where
  gvk := rule.spec.gvk
  localGVK := (MatchedRules.getMutatedGVK (elems rule.spec.rules) rule.spec.gvk).2
  localClusterID := ""
  clusterID := clusterID
  rule := rule
  rateLimiter := rateLimiter
  resourceNameMutated := false
  resourceNamespaceMutated := false

/-- `Start`: the local cluster ID is read once. -/
def SyncReconciler.start (r : SyncReconciler) (localClusterID : String) : SyncReconciler :=
  if r.localClusterID = "" then { r with localClusterID := localClusterID } else r

inductive EventType where
  | normal
  | warning
  deriving DecidableEq

structure Event where
  type : EventType
  reason : String
  message : String
  deriving DecidableEq

/-- The write calls on the local API server. -/
inductive Call where
  | create (k : Key) (o : Obj)
  | update (k : Key) (o : Obj)
  | delete (k : Key)
  | updateStatus (k : Key) (o : Obj)

def Call.apply : Call → ApiServer → Except Err ApiServer
  | .create k o, s => s.create k o
  | .update k o, s => s.update k o
  | .delete k, s => s.delete k
  | .updateStatus k o, s => s.updateStatus k o

/-- How `ReconcileResource` proceeds after its gates. -/
inductive Verdict where
  /-- Current and desired object do not differ. -/
  | inSync
  /-- It stops before it writes. -/
  | failed (e : Err)
  /-- The API server turns the write down. -/
  | rejected (e : Err)
  | written
  /-- The update hits an immutable field: the object is deleted and, at once or
  on the next call, created again. -/
  | recreated (e : Err) (atOnce : Bool)

/-- Errors of the local API calls, by call. -/
structure Faults where
  getNamespace : Option Err := none
  list : Option Err := none
  getCurrent : Option Err := none
  delete : Option Err := none
  getReconciled : Option Err := none
  updateStatus : Option Err := none

structure Env where
  /-- The read of the source object on the remote cluster. -/
  source : Except Err Obj
  /-- `clustersManager.GetAliveClustersByID()[id] != nil`. -/
  alive : String → Bool
  clusters : Except Err (List ClusterCR) := .ok []
  rateLimit : Except Err Bool := .ok false
  verdict : Verdict := .written
  faults : Faults := {}

structure SyncState where
  r : SyncReconciler
  server : ApiServer
  calls : List Call := []
  events : List Event := []

abbrev SyncM : Type → Type := Eff SyncState Err

structure Result where
  requeue : Bool := false
  /-- In seconds. -/
  requeueAfter : Nat := 0
  deriving DecidableEq

def record (type : EventType) (reason message : String) : SyncM Unit :=
  modify fun s => { s with events := s.events ++ [⟨type, reason, message⟩] }

/-- Issue a write call: it is on record whatever becomes of it. -/
def issue (fault : Option Err) (c : Call) : SyncM Unit := do
  modify fun s => { s with calls := s.calls ++ [c] }
  match fault with
  | some e => throw e
  | none =>
    match c.apply (← get).server with
    | .error e => throw e
    | .ok server => modify fun s => { s with server := server }

/-! ## Kinds of client objects -/

/-- `apiutil.GVKForObject`: the Go struct decides, else the header must be there. -/
def gvkForObject (o : Obj) : Except Err GVK :=
  match o.goType with
  | some gvk => .ok gvk
  | none =>
    if o.gvk.kind = "" then .error (Err.new "Object 'Kind' is missing")
    else if o.gvk.version = "" then .error (Err.new "Object 'apiVersion' is missing")
    else .ok o.gvk

section

variable (x : External)

/-- `initObjectFromGVK`: a struct of the scheme has an empty header. -/
def initObjectFromGVK (gvk : GVK) : Obj :=
  if x.inScheme gvk then { name := "", «namespace» := "", gvk := GVK.none, goType := some gvk }
  else { name := "", «namespace» := "", gvk := gvk }

/-- The client object a request starts from. -/
def requestObj (gvk : GVK) (req : NamespacedName) : Obj :=
  { initObjectFromGVK x gvk with name := req.name, «namespace» := req.namespace }

/-- A read fills the client object; its header is then the kind read. -/
def readInto (into stored : Obj) : Obj := { stored with goType := into.goType }

/-- A local `Get`: absent is `none`, any other failure an error. -/
def localGet (fault : Option Err) (into : Obj) (nn : NamespacedName) : SyncM (Option Obj) := do
  let gvk ← lift (gvkForObject into)
  match fault with
  | some e => throw e
  | none => return ((← get).server.get ⟨gvk, nn.namespace, nn.name⟩).map (readInto into)

/-! ## Mutation -/

def gvkToString (gvk : GVK) : String := gvk.kind ++ "." ++ gvk.group ++ "/" ++ gvk.version

/-- The annotations that never travel. -/
def managedAnnotations : List String :=
  ["banzaicloud.io/managed-component", "banzaicloud.io/related-to", lastAppliedAnnotation,
    "kubectl.kubernetes.io/last-applied-configuration"]

/-- The map with the ownership key defaulted to `clusterID`. -/
def defaultOwner (clusterID : String) (m : StringMap) : StringMap :=
  if m.val ownershipAnnotation = "" then m.insert ownershipAnnotation clusterID else m

/-- Additions first, removals after. -/
def applyMutations (changes : StringMap × List String) (m : StringMap) : StringMap :=
  Map.eraseAll (changes.1 ∪ m) changes.2

/-- `mutateObject` up to the overrides. -/
def mutateMeta (r : SyncReconciler) (current : Obj) (matched : MatchedRules) : Obj :=
  let annotations := defaultOwner r.clusterID
    (applyMutations matched.getMutationAnnotations current.annotations)
  let labels := defaultOwner r.clusterID (applyMutations matched.getMutationLabels current.labels)
  let mutated := matched.getMutatedGVK current.gvk
  let annotations := if mutated.1 then
      annotations.insert originalGVKAnnotation (gvkToString current.gvk)
    else annotations
  { current with
    gvk := if mutated.1 then mutated.2 else current.gvk
    annotations := Map.eraseAll annotations managedAnnotations
    labels := labels
    generation := 0, resourceVersion := "", uid := "", selfLink := "", creationTimestamp := ""
    finalizers := [], ownerReferences := [], managedFields := [] }

/-- `K8SResourceOverlayPatchExecuteTemplates`. -/
def executeTemplates (obj : Obj) (synced localCluster : ClusterCR) :
    List OverlayPatch → Except Err (List OverlayPatch)
  | [] => .ok []
  | p :: rest => do
    let value ← x.executeTemplate (p.value.getD "") obj synced localCluster
    let rest ← executeTemplates obj synced localCluster rest
    return { p with value := some value } :: rest

/-- `GetClusters`: by cluster ID, the last one of an ID wins. -/
def getClusters (l : List ClusterCR) : Map String ClusterCR :=
  l.foldl (fun m c => m.insert c.clusterID c) ∅

variable (env : Env)

/-- The override part of `mutateObject`. -/
def applyOverrides (r : SyncReconciler) (current obj : Obj) (patches : List OverlayPatch) :
    Except Err Obj := do
  let clusters ← env.clusters.mapError fun e =>
    (e.wrapIf "could not list clusters").wrapIf "could not get clusters"
  let some localCluster := (getClusters clusters).lookup r.localClusterID
    | throw (Err.new "could not find local cluster by id")
  let syncedClusterID := (current.annotations.lookup ownershipAnnotation).getD r.clusterID
  let some syncedCluster := (getClusters clusters).lookup syncedClusterID
    | throw (Err.new "could not find synced cluster by id")
  let patches ← (executeTemplates x obj syncedCluster localCluster patches).mapError
    (·.wrapIf "could not execute templates on patches")
  let patchFunc ← (x.patchYAMLModifier obj.gvk patches).mapError
    (·.wrapIf "could not get patch func for object")
  (patchFunc obj).mapError (·.wrapIf "could not patch object")

/-- A renamed or moved object carries where it came from. -/
def labelOriginal (current obj : Obj) : Obj :=
  let obj := if current.name ≠ obj.name then
      { obj with labels := obj.labels.insert originalNameLabel current.name }
    else obj
  if current.namespace ≠ obj.namespace then
    { obj with labels := obj.labels.insert originalNamespaceLabel current.namespace }
  else obj

/-- The object `mutateObject` returns. -/
def mutated (r : SyncReconciler) (current : Obj) (matched : MatchedRules) : Except Err Obj := do
  let obj := mutateMeta r current matched
  let obj ← if matched.getMutationOverrides.isEmpty then pure obj
    else applyOverrides x env r current obj matched.getMutationOverrides
  return labelOriginal current obj

/-- The in-memory marks a mutation leaves on the reconciler; they are never taken back. -/
def markMutated (current obj : Obj) (r : SyncReconciler) : SyncReconciler :=
  { r with
    resourceNameMutated := r.resourceNameMutated || current.name != obj.name
    resourceNamespaceMutated := r.resourceNamespaceMutated || current.namespace != obj.namespace }

def mutateObject (current : Obj) (matched : MatchedRules) : SyncM Obj := do
  let obj ← lift (mutated x env (← get).r current matched)
  modify fun s => { s with r := markMutated current obj s.r }
  return obj

/-! ## Gates -/

/-- `isOwnedByAnotherAliveCluster`. -/
def isOwnedByAnotherAliveCluster (r : SyncReconciler) (ownerClusterID : String) : Bool :=
  ownerClusterID != "" && env.alive ownerClusterID && ownerClusterID != r.clusterID

/-- `isOwnedByUs`. -/
def isOwnedByUs (r : SyncReconciler) (object : Obj) : Bool := object.owner == r.localClusterID

def syncDisabled (o : Obj) : Bool := (o.annotations.lookup syncDisabledAnnotation).isSome

/-- `ShouldCreateFunc`. -/
def shouldCreate (r : SyncReconciler) (desired : Obj) : Bool :=
  if syncDisabled desired then false
  else if desired.owner != "" && r.localClusterID == desired.owner then false
  else if isOwnedByAnotherAliveCluster env r desired.owner then false
  else true

/-- `ShouldUpdateFunc`; it never looks at the desired object. -/
def shouldUpdate (r : SyncReconciler) (current : Obj) : Bool :=
  if syncDisabled current then false
  else if current.owner == "" then false
  else if isOwnedByAnotherAliveCluster env r current.owner then false
  else true

/-! ## Deletion -/

/-- The objects the label lookup of `getObjectByOriginalNamespaceAndName`
selects; no namespace means all of them. -/
def renamedFrom (gvk : GVK) («namespace» name clusterID : String) (o : Obj) : Bool :=
  o.gvk == gvk && («namespace» == "" || o.namespace == «namespace») &&
    o.labels.lookup originalNameLabel == some name &&
    o.labels.lookup ownershipAnnotation == some clusterID

def getObjectByOriginalNamespaceAndName (obj : Obj) (gvk : GVK) : SyncM (Option Obj) := do
  let s ← get
  let name := (obj.labels.lookup originalNameLabel).getD obj.name
  let «namespace» := (obj.labels.lookup originalNamespaceLabel).getD obj.namespace
  if gvk.version = "" then throw (Err.new "Object 'apiVersion' is missing")
  match env.faults.list with
  | some e => throw e
  | none =>
    match s.server.list (renamedFrom gvk «namespace» name s.r.clusterID) with
    | [] => return none
    | [o] => return some { o with goType := none }
    | _ => throw (Err.new "multiple renamed objects were found")

/-- The two lookups of `deleteResource`: by the labels of a renamed object once
anything was renamed or moved, else by the name of the source. -/
def findCurrent (obj : Obj) : SyncM (Option Obj) := do
  let r := (← get).r
  let current := if r.gvk != r.localGVK then { obj with gvk := r.localGVK } else obj
  if r.resourceNamespaceMutated || r.resourceNameMutated then
    getObjectByOriginalNamespaceAndName env obj current.gvk
  else
    localGet env.faults.getCurrent current obj.nn

/-- `deleteResource` up to the `Delete` call: the local object it settles on. -/
def deleteTarget (obj : Obj) : SyncM (Option Obj) := do
  match ← findCurrent env obj with
  | none => return none
  | some current =>
    if current.owner = "" then return none
    if isOwnedByAnotherAliveCluster env (← get).r current.owner then return none
    return some current

/-- The `Delete` call: an object that is already gone is no error. -/
def deleteObject (current : Obj) : SyncM Unit := do
  let gvk ← lift (gvkForObject current)
  match ← attempt (issue env.faults.delete (.delete ⟨gvk, current.namespace, current.name⟩)) with
  | .ok () => return ()
  | .error e => if e.reason != .notFound then throw e

def deleteResource (obj : Obj) : SyncM Unit := do
  match ← deleteTarget env obj with
  | none => return ()
  | some current => deleteObject env current

/-! ## Reconcile -/

/-- What an update brings: the desired object with the payload of `BeforeUpdate`. -/
def replacement (current desired : Obj) (payload : String) : Obj :=
  { x.merge.object (some current) { desired with payload := payload } with
    resourceVersion := current.resourceVersion }

/-- operator-tools' `ReconcileResource` with the desired state of
`getObjectDesiredState`. -/
def reconcileResource (desired : Obj) : SyncM Unit := do
  let gvk ← lift (gvkForObject desired)
  let s ← get
  let k : Key := ⟨gvk, desired.namespace, desired.name⟩
  match s.server.get k with
  | none =>
    if shouldCreate env s.r desired then
      let o := x.merge.object none desired
      match env.verdict with
      | .failed e => throw e
      | .rejected e => issue (some e) (.create k o)
      | _ => issue none (.create k o)
  | some current =>
    if shouldUpdate env s.r current then
      let payload ← lift (x.serviceIPModifier current desired)
      let o := replacement x current desired payload
      match env.verdict with
      | .inSync => return ()
      | .failed e => throw e
      | .rejected e => issue (some e) (.update k o)
      | .written => issue none (.update k o)
      | .recreated e atOnce =>
        let _ ← attempt (issue (some e) (.update k o))
        issue none (.delete k)
        if atOnce then issue none (.create k o)

/-- The kind of namespaces. -/
def namespaceGVK : GVK := ⟨"", "v1", "Namespace"⟩

/-- The end of `reconcile`: the status of the copy, and the event. -/
def syncStatus (req : NamespacedName) (matched : MatchedRules) (desired : Obj) : SyncM Result := do
  let found ← mapError (·.wrapIf "could not get object")
    (localGet env.faults.getReconciled desired desired.nn)
  match found with
  | none => return {}
  | some obj =>
    if matched.getMutationSyncStatus then
      mapError (·.wrapIf "could not update object status") do
        let gvk ← lift (gvkForObject desired)
        issue env.faults.updateStatus (.updateStatus ⟨gvk, desired.namespace, desired.name⟩
          { desired with resourceVersion := obj.resourceVersion })
    if (← get).r.rule.uid != "" then
      record .normal "ObjectReconciled" ("object reconciled (resource: " ++ req.string ++ ")")
    return {}

/-- `reconcile` from the `ReconcileResource` call on. -/
def writeAllowed (req : NamespacedName) (matched : MatchedRules) (obj : Obj) : SyncM Result := do
  match ← attempt (reconcileResource x env obj) with
  | .error e =>
    if e.reason = .alreadyExists then return { requeue := true }
    throw (e.wrapIf "could not reconcile object")
  | .ok () => syncStatus env req matched obj

/-- `reconcile` from the rate limiter on. -/
def writeLimited (req : NamespacedName) (matched : MatchedRules) (obj : Obj) : SyncM Result := do
  if (← get).r.rateLimiter then
    match env.rateLimit with
    | .error e => throw (e.wrapIf "could not rate limit")
    | .ok true =>
      record .warning "ObjectReconcileRateLimited"
        ("ratelimited, too frequent reconciles were happening for this object (resource: " ++
          req.string ++ ")")
      return { requeueAfter := 30 }
    | .ok false => writeAllowed x env req matched obj
  else writeAllowed x env req matched obj

/-- `reconcile` once the object is mutated: the namespace must exist. -/
def writeLocal (req : NamespacedName) (matched : MatchedRules) (obj : Obj) : SyncM Result := do
  if obj.namespace = "" then
    writeLimited x env req matched obj
  else
    match ← localGet env.faults.getNamespace
      { name := "", «namespace» := "", gvk := namespaceGVK } ⟨"", obj.namespace⟩ with
    | some _ => writeLimited x env req matched obj
    | none =>
      record .warning "ObjectNotReconciledMissingNamespace"
        ("could not reconcile (resource: " ++ req.string ++ ", localResource: " ++ obj.nn.string ++
          "): namespace does not exists locally")
      return { requeueAfter := 30 }

/-- `reconcile` for a source object that is there and not being deleted. -/
def reconcileFound (req : NamespacedName) (obj : Obj) : SyncM Result := do
  match (← get).r.rule.match x obj with
  | (false, _, _) => return {}
  | (true, _, some e) => throw (e.wrapIf "could not match object")
  | (true, matched, none) =>
    let obj ← mapError (·.wrapIf "could not mutate object") (mutateObject x env obj matched)
    writeLocal x env req matched obj

/-- `syncReconciler.reconcile`. -/
def reconcile (req : NamespacedName) : SyncM Result := do
  let obj := requestObj x (← get).r.gvk req
  match env.source with
  | .error e =>
    if e.reason = .notFound then
      deleteResource env obj
      return {}
    throw (e.wrapIf "could not get object")
  | .ok stored =>
    let obj := readInto obj stored
    if obj.deletionTimestamp.isSome then
      deleteResource env obj
      return {}
    reconcileFound x env req obj

/-- `syncReconciler.Reconcile`: a failure is recorded as an event. -/
def reconcileRequest (req : NamespacedName) : SyncM Result := do
  match ← attempt (reconcile x env req) with
  | .ok result => return result
  | .error e =>
    record .warning "ObjectNotReconciled"
      ("could not reconcile (resource: " ++ req.string ++ "): " ++ e.msg)
    throw e

end

end ClusterRegistry.Sync
