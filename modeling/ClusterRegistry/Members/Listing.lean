import ClusterRegistry.Members.Conflict
import ClusterRegistry.Members.Remote

/-!
# Resources that share a cluster ID

`GetClusters` keeps one resource for each cluster ID, the last one listed. The
two watches of `cluster_reconciler_watches.go` and `syncClusters` go through it,
although several resources may have one ID, and although what they look for is
not the ID: a resource with the ID of one that is listed after it gets no
request and is not compared with the other side.
-/

namespace ClusterRegistry.Members

open Lib Lib.Code

/-- The resource is the one that `GetClusters` keeps for its ID. -/
def Represents (items : List ClusterObject) (c : ClusterObject) : Prop :=
  (items.filter (·.spec.clusterID = c.spec.clusterID)).getLast? = some c

theorem mem_clusterValues {items : List ClusterObject} {c : ClusterObject} :
    c ∈ clusterValues items ↔ c ∈ items ∧ Represents items c := by
  unfold clusterValues Represents
  rw [List.mem_filter, decide_eq_true_eq, lookup_getClusters]

/-! ## The watches -/

inductive EventKind where
  | create
  | update
  | delete
  | generic
  deriving DecidableEq, Repr

/-- A secret as a watch sees it. -/
structure SecretObject where
  key : NamespacedName
  type : String

/-- The requests for the resources in `p`, as the loops over `GetClusters` make them. -/
def requestsFor (list : Except Err (List ClusterObject)) (p : ClusterObject → Bool) :
    Finset String :=
  match list with
  | .error _ => ∅
  | .ok items => (((clusterValues items).filter p).map (·.name)).toFinset

/-- The watch has no predicate, so that events of every kind are mapped. -/
def watchClusterRegistrySecrets (list : Except Err (List ClusterObject)) (secret : SecretObject)
    (_kind : EventKind) : Finset String :=
  if secret.type ≠ secretTypeClusterRegistry then ∅
  else requestsFor list fun c => c.spec.secretRef = secret.key

def watchLocalClustersForConflict (list : Except Err (List ClusterObject)) (kind : EventKind) :
    Finset String :=
  match kind with
  | .update => ∅
  | .generic => ∅
  | _ => requestsFor list fun c => c.status.type = .local

/-- The requests in a run of the registry are those of the watch. -/
theorem conflictRequests_eq (items : List ClusterObject) :
    conflictRequests items = watchLocalClustersForConflict (.ok items) .create := by
  show _ = (((clusterValues items).filter fun c => c.status.type = .local).map (·.name)).toFinset
  unfold conflictRequests clusterValues
  rw [List.filter_filter]
  simp only [Bool.and_comm]

/-- The names of the resources in `p`. -/
def named (items : List ClusterObject) (p : ClusterObject → Bool) : Finset String :=
  ((items.filter p).map (·.name)).toFinset

/-- A resource in `p` is followed by another one with its cluster ID. -/
def Hides (items : List ClusterObject) (p : ClusterObject → Bool) : Prop :=
  ∃ c ∈ items, p c = true ∧ ¬Represents items c

/-- The loops reach every resource exactly if none that counts is hidden. -/
theorem requestsFor_eq_iff {items : List ClusterObject}
    (hname : ∀ c ∈ items, ∀ c' ∈ items, c.name = c'.name → c = c') (p : ClusterObject → Bool) :
    requestsFor (.ok items) p = named items p ↔ ¬Hides items p := by
  have hmem : ∀ n, n ∈ requestsFor (.ok items) p ↔
      ∃ c ∈ items, p c = true ∧ Represents items c ∧ c.name = n := by
    intro n
    simp only [requestsFor, List.mem_toFinset, List.mem_map, List.mem_filter, mem_clusterValues]
    exact ⟨fun ⟨c, ⟨⟨hc, hr⟩, hp⟩, hn⟩ => ⟨c, hc, hp, hr, hn⟩,
      fun ⟨c, hc, hp, hr, hn⟩ => ⟨c, ⟨⟨hc, hr⟩, hp⟩, hn⟩⟩
  have hnamed : ∀ n, n ∈ named items p ↔ ∃ c ∈ items, p c = true ∧ c.name = n := by
    intro n
    simp only [named, List.mem_toFinset, List.mem_map, List.mem_filter, and_assoc]
  constructor
  · rintro heq ⟨c, hc, hp, hnot⟩
    obtain ⟨c', hc', -, hr, hn⟩ := (hmem c.name).mp (heq ▸ (hnamed c.name).mpr ⟨c, hc, hp, rfl⟩)
    cases hname c' hc' c hc hn
    exact hnot hr
  · intro hnone
    ext n
    rw [hmem, hnamed]
    constructor
    · rintro ⟨c, hc, hp, -, hn⟩
      exact ⟨c, hc, hp, hn⟩
    · rintro ⟨c, hc, hp, hn⟩
      exact ⟨c, hc, hp, by_contra fun hr => hnone ⟨c, hc, hp, hr⟩, hn⟩

/-- Resources in a list of the server have different names. -/
theorem eq_of_listed (clusters : Table ClusterObject.name) (order : Shuffle ClusterObject) :
    ∀ c ∈ order.arrange clusters.toList, ∀ c' ∈ order.arrange clusters.toList,
      c.name = c'.name → c = c' := by
  intro c hc c' hc' hn
  rw [Shuffle.mem, Table.mem_toList] at hc hc'
  exact Option.some.inj (hc.symm.trans ((congrArg clusters.get hn).trans hc'))

/-- **The watches reach every resource**: an event on a registry secret leads to a
request for exactly the resources that refer to it, and the creation or deletion
of a `Cluster` to one for exactly those stored as local, each unless such a
resource is listed before another one with its cluster ID. -/
theorem watches_reach_iff (clusters : Table ClusterObject.name) (order : Shuffle ClusterObject) :
    (∀ ref kind, watchClusterRegistrySecrets (.ok (order.arrange clusters.toList))
        ⟨ref, secretTypeClusterRegistry⟩ kind =
          named (order.arrange clusters.toList) (·.spec.secretRef = ref) ↔
        ¬Hides (order.arrange clusters.toList) (·.spec.secretRef = ref)) ∧
    ∀ kind ∈ [EventKind.create, .delete],
      (watchLocalClustersForConflict (.ok (order.arrange clusters.toList)) kind =
        named (order.arrange clusters.toList) (·.status.type = .local) ↔
        ¬Hides (order.arrange clusters.toList) (·.status.type = .local)) := by
  have hname := eq_of_listed clusters order
  refine ⟨fun ref kind => ?_, fun kind hkind => ?_⟩
  · rw [← requestsFor_eq_iff hname]
    unfold watchClusterRegistrySecrets
    rw [if_neg (not_not.mpr rfl)]
  · rw [← requestsFor_eq_iff hname]
    rcases List.mem_pair.mp hkind with rfl | rfl <;> rfl

/-- Two resources with the local ID, both stored as local. -/
def twins : Table ClusterObject.name :=
  ["a", "b"].foldl (fun t n => t.put { localCluster n with
    spec := { clusterID := "home", secretRef := ⟨"ns", n⟩ }, status := { type := .local } })
    Table.empty

theorem twins_missed :
    named twins.toList (·.status.type = .local) = {"a", "b"} ∧
      watchLocalClustersForConflict (.ok twins.toList) .create = {"a"} ∧
      named twins.toList (·.spec.secretRef = ⟨"ns", "b"⟩) = {"b"} ∧
      watchClusterRegistrySecrets (.ok twins.toList) ⟨⟨"ns", "b"⟩, secretTypeClusterRegistry⟩
        .update = ∅ := by
  decide +kernel

/-! ## `syncClusters` -/

/-- The other side has the resource: with its ID and its name, and ready. -/
def InSync (remoteItems : List ClusterObject) (c : ClusterObject) : Prop :=
  ∃ rc ∈ remoteItems, rc.spec.clusterID = c.spec.clusterID ∧ rc.name = c.name ∧
    rc.status.state = .ready

instance (remoteItems : List ClusterObject) (c : ClusterObject) :
    Decidable (InSync remoteItems c) :=
  inferInstanceAs (Decidable (∃ rc ∈ remoteItems, _))

/-- The resource that `GetClusters` keeps for the ID on the other side is such a one. -/
def SeenInSync (remoteItems : List ClusterObject) (c : ClusterObject) : Prop :=
  ∃ rc, (remoteItems.filter (·.spec.clusterID = c.spec.clusterID)).getLast? = some rc ∧
    rc.name = c.name ∧ rc.status.state = .ready

theorem SeenInSync.inSync {remoteItems : List ClusterObject} {c : ClusterObject}
    (h : SeenInSync remoteItems c) : InSync remoteItems c := by
  obtain ⟨rc, hrc, hn, hready⟩ := h
  obtain ⟨hmem, hid⟩ := List.mem_filter.mp (List.mem_of_getLast? hrc)
  exact ⟨rc, hmem, of_decide_eq_true hid, hn, hready⟩

namespace RemoteClusterReconciler

theorem syncErrors_eq_nil_iff (remoteItems : List ClusterObject) (c : ClusterObject) :
    syncErrors (getClusters remoteItems) c = [] ↔ SeenInSync remoteItems c := by
  unfold syncErrors SeenInSync
  rw [lookup_getClusters]
  cases (remoteItems.filter (·.spec.clusterID = c.spec.clusterID)).getLast? with
  | none => simp
  | some rc =>
    by_cases hn : c.name = rc.name
    · by_cases hs : rc.status.state = .ready <;> simp [hn, hs]
    · simp [hn, Ne.symm hn]

/-- **The loop** finds nothing exactly if the resources it sees are in sync. -/
theorem syncClusters_nil_iff {env : RemoteEnv} {remoteItems : List ClusterObject}
    (hl : env.localList = none) (hr : env.remoteClusters = .ok remoteItems) (w : World) :
    ((syncClusters env).run w).1 = .ok none ↔
      ∀ c ∈ env.listOrder.arrange w.clusters.toList,
        Represents (env.listOrder.arrange w.clusters.toList) c → SeenInSync remoteItems c := by
  have hlist : (listClusters none env.listOrder).run w =
      (.ok (env.listOrder.arrange w.clusters.toList), w) := run_answer none _ w
  have hrun : ((syncClusters env).run w).1 = .ok none ↔
      (env.loopOrder.arrange (clusterValues (env.listOrder.arrange w.clusters.toList))).flatMap
        (syncErrors (getClusters remoteItems)) = [] := by
    unfold syncClusters
    rw [hl, run_attempt_bind hlist, hr]
    dsimp only
    split
    · next h => exact iff_of_true rfl h
    · next h => exact iff_of_false nofun h
  rw [hrun, List.flatMap_eq_nil_iff]
  simp only [Shuffle.mem, mem_clusterValues, syncErrors_eq_nil_iff, and_imp]

end RemoteClusterReconciler

end ClusterRegistry.Members
