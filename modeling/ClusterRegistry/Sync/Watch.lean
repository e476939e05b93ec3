import ClusterRegistry.Sync.Reconciler

/-!
# Watches of the sync reconciler

`SetupWithController` watches the kind of the rule on the remote cluster, and
`initLocalInformer` the kind of the copies on the local one. The predicates
decide which events count; the map functions turn the objects of an event
into requests.
-/

namespace ClusterRegistry.Sync

open Lib

inductive WatchEvent where
  | create (object : Obj)
  | update (objectOld objectNew : Obj)
  | delete (object : Obj)
  | generic (object : Obj)

/-- The objects of an event; each is mapped to a request. -/
def WatchEvent.objects : WatchEvent → List Obj
  | create o => [o]
  | update old new => [old, new]
  | delete o => [o]
  | generic o => [o]

section

variable (x : External) (r : SyncReconciler)

/-- `isObjectMatch`: a rule that cannot be evaluated does not match. -/
def isObjectMatch (obj : Obj) : Bool :=
  match r.rule.match x { obj with gvk := r.rule.spec.gvk } with
  | (_, _, some _) => false
  | (ok, _, none) => ok

/-- Create, delete and generic events: the object counts unless it is our own. -/
def isForeignMatch (obj : Obj) : Bool := !isOwnedByUs r obj && isObjectMatch x r obj

/-- The two versions differ in more than the managed fields. -/
def differs (objectOld objectNew : Obj) : Except Err Bool :=
  (x.patchIsEmpty { objectOld with resourceVersion := objectNew.resourceVersion } objectNew).map
    (!·)

/-- The predicate of the watch on the remote cluster. -/
def remotePredicate : WatchEvent → Bool
  | .create o => isForeignMatch x r o
  | .update old new =>
    match differs x old new with
    | .error _ => true
    | .ok false => false
    | .ok true => isForeignMatch x r new
  | .delete o => isForeignMatch x r o
  | .generic o => isForeignMatch x r o

/-- The object has the ownership annotation, with whatever value. -/
def isCopy (o : Obj) : Bool := (o.annotations.lookup ownershipAnnotation).isSome

/-- `localPredicate`. -/
def localPredicate : WatchEvent → Bool
  | .create o => isCopy o
  | .update old new =>
    if !isCopy old then false
    else
      match differs x old new with
      | .error _ => true
      | .ok d => d
  | .delete o => isCopy o
  | .generic _ => false

end

/-- The request for a local object: where it came from. -/
def localRequest (o : Obj) : NamespacedName :=
  ⟨(o.labels.lookup originalNamespaceLabel).getD o.namespace,
    (o.labels.lookup originalNameLabel).getD o.name⟩

end ClusterRegistry.Sync
