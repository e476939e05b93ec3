import ClusterRegistry.Members.Reconciler

/-!
# What a call does to the resources

A reconcile call run alone, with an API server that answers its calls on
`Cluster` resources. The instances are out of view here: only the resources,
their versions and the work queue are (`Registry`). A call rewrites the status
of its own resource or leaves all of them alone; a call for a local cluster
stores whether another resource has its ID, and may enqueue one other
resource.
-/

namespace ClusterRegistry.Members

open Lib Lib.Code

/-- The part of the state that is shared with the API server and the queue. -/
structure Registry where
  clusters : Table ClusterObject.name
  rev : Nat
  queue : Finset String
  clusterID : String
  kubeSystemUID : String

def World.registry (_ : Unit) (w : World) : Registry :=
  ⟨w.clusters, w.rev, w.queue, w.clusterID, w.kubeSystemUID⟩

/-- No call on `Cluster` resources or on the `kube-system` namespace fails. -/
structure Env.Steady (env : Env) : Prop where
  getClusterID : env.getClusterID = none
  get : env.get = none
  triggerList : env.triggerList = none
  conflictList : env.conflictList = none
  disabledUpdate : env.disabledUpdate = {}
  finalUpdate : env.finalUpdate = {}

/-! ## Calls that leave the resources alone -/

/-- The state apart from the manager and its instances. -/
def World.apart (_ : Unit) (w : World) : World := { w with manager := ∅, instances := [] }

theorem still_registry {α ε : Type} {c : Code World ε α} (h : Quiet World.apart c) :
    Quiet World.registry c :=
  h.through id World.registry fun _ _ => rfl

section

variable (env : Env)

theorem still_answer {α : Type} (fault : Option Err) (f : World → Except Failure α) :
    Quiet World.apart (answer fault f) := by
  refine Quiet.atomic fun w _ => ?_
  cases fault <;> rfl

theorem still_managerRemove (id : Nat) : Quiet World.apart (managerRemove id) := by
  refine Quiet.bind (Quiet.read _) fun found => ?_
  cases found with
  | none => exact trivial
  | some i => exact Quiet.write fun _ _ => rfl

theorem still_removeExisting (found : Option Nat) : Quiet World.apart (removeExisting found) := by
  cases found with
  | none => exact trivial
  | some id => exact still_managerRemove id

theorem registry_managerRemove (g : Registry) (id : Nat) :
    Sees World.registry () (· = g) (managerRemove id) fun r g' => r = .ok () ∧ g' = g := by
  refine Sees.bindRead (B := fun _ g' => g' = g) (fun _ hw => hw) fun found => ?_
  cases found with
  | none => exact Sees.pure fun _ h => ⟨rfl, h⟩
  | some i => exact Sees.write fun w hw => ⟨fun _ h => absurd rfl h, rfl, hw⟩

/-- No error is left: a cluster that is not found is no error. -/
theorem registry_removeIfFound (g : Registry) (name : String) :
    Sees World.registry () (· = g) (removeIfFound name) fun r g' => r = .ok () ∧ g' = g := by
  refine Sees.bindAttempt (B := fun r g' => (r = .ok () ∨ r = .error errClusterNotFound) ∧ g' = g)
    (Sees.bindRead (B := fun _ g' => g' = g) (fun _ hw => hw) fun found => ?_)
    fun r => Sees.given fun hr => ?_
  · cases found with
    | none => exact Sees.fail fun _ h => ⟨.inr rfl, h⟩
    | some id => exact (registry_managerRemove g id).post fun r _ h => ⟨.inl h.1, h.2⟩
  · rcases hr with rfl | rfl
    · exact Sees.pure fun _ h => ⟨rfl, h⟩
    · exact Sees.pure fun _ h => ⟨rfl, h⟩

theorem still_buildInstance (cluster : ClusterObject) (kubeconfig : String) :
    Quiet World.apart (buildInstance env cluster kubeconfig) := by
  have houtcome : ∀ fault, Quiet World.apart (outcome fault) := fun fault => by
    cases fault <;> exact trivial
  have hstart : ∀ id, Quiet World.apart (startInstance env id) := fun id => by
    unfold startInstance
    cases env.livenessCheck with
    | error e => exact trivial
    | ok uid => exact Quiet.write fun _ _ => rfl
  have hadd : ∀ id, Quiet World.apart (managerAdd id) := fun id => by
    refine Quiet.write fun w _ => ?_
    cases w.instances[id]? <;> rfl
  unfold buildInstance
  refine Quiet.bind (Quiet.ofExcept _).mapError fun _ => ?_
  refine Quiet.bind (Quiet.ofExcept _).mapError fun _ => ?_
  refine Quiet.bind (Quiet.ofExcept _).mapError fun _ => ?_
  refine Quiet.bind (houtcome _).mapError fun _ => ?_
  refine Quiet.bind ⟨fun _ _ => rfl, fun _ => trivial⟩ fun id => ?_
  refine Quiet.bind (houtcome _).mapError fun _ => ?_
  refine Quiet.bind (houtcome _).mapError fun _ => ?_
  refine Quiet.bind (hstart id).mapError fun _ => ?_
  exact Quiet.bind (hadd id) fun _ => trivial

theorem still_getRemoteCluster (cluster : ClusterObject) :
    Quiet World.apart (getRemoteCluster env cluster) := by
  refine Quiet.bind (Quiet.read _).mapError fun found => ?_
  refine Quiet.bind (still_answer _ _).attempt fun r => ?_
  cases r with
  | error e => exact Quiet.bind (still_removeExisting found).mapError fun _ => trivial
  | ok kubeconfig =>
    cases found with
    | none => exact (still_buildInstance env _ _).mapError
    | some id =>
      refine Quiet.bind (Quiet.read _) fun i => ?_
      cases i with
      | none => exact (still_buildInstance env _ _).mapError
      | some i =>
        refine Quiet.ite trivial (Quiet.ite trivial ?_)
        exact Quiet.bind (still_managerRemove id).mapError
          fun _ => (still_buildInstance env _ _).mapError

end

/-! ## Status updates -/

def ClusterObject.withStatus (c : ClusterObject) (status : ClusterStatus) : ClusterObject :=
  { c with status := status }

namespace Registry

/-- The resource as it is after an update of its status. -/
def rewritten (g : Registry) (c : ClusterObject) (status : ClusterStatus) : ClusterObject :=
  { c with status := status, resourceVersion := g.rev + 1 }

def storeStatus (g : Registry) (c : ClusterObject) (status : ClusterStatus) : Registry :=
  { g with clusters := g.clusters.put (g.rewritten c status), rev := g.rev + 1 }

end Registry

section

variable {g : Registry} {c : ClusterObject} (hc : g.clusters.get c.name = some c)

include hc

theorem registry_updateStatus (entry : StatusWrite) (status : ClusterStatus) :
    Sees World.registry () (· = g) (updateStatus none entry (c.withStatus status))
      fun r g' => r = .ok (g.rewritten c status) ∧ g' = g.storeStatus c status := by
  refine Sees.atomic fun w hw => ⟨fun _ h => absurd rfl h, ?_⟩
  subst hw
  have hget : w.clusters.get (c.withStatus status).name = some c := hc
  have hsame : ¬((c.withStatus status).uid ≠ c.uid ∨
      (c.withStatus status).resourceVersion ≠ c.resourceVersion) := fun h => h.elim (· rfl) (· rfl)
  simp only [hget, hsame, if_false]
  exact ⟨rfl, rfl⟩

theorem registry_updateClusterStatus (writer : Writer) {d : Draft} {status : ClusterStatus}
    (hd : d.cluster = c.withStatus status) :
    Sees World.registry () (· = g) (updateClusterStatus {} writer d)
      fun r g' => r = .ok (g.rewritten c status) ∧ g' = g.storeStatus c status := by
  unfold updateClusterStatus
  rw [hd]
  refine Sees.bindAttempt (registry_updateStatus hc _ status) fun r => Sees.given ?_
  rintro rfl
  exact Sees.pure fun _ h => ⟨rfl, h⟩

theorem registry_updateCluster (order : Shuffle ClusterCondition) (writer : Writer)
    (err : Option Failure) {d : Draft} (hd : d.cluster = c.withStatus d.cluster.status) :
    Sees World.registry () (· = g) (updateCluster {} order writer err d) fun r g' =>
      g' = g.storeStatus c (statusToStore order err d) ∧ (err = none → r = .ok { d with
        cluster := g.rewritten c (statusToStore order err d) }) := by
  have hset : (d.setStatus (statusToStore order err d)).cluster =
      c.withStatus (statusToStore order err d) := by
    rw [Draft.setStatus, hd]
    rfl
  have hupd := registry_updateClusterStatus hc writer hset
  unfold updateCluster
  cases err with
  | none => exact Sees.bindEq hupd (Sees.pure fun g' hg => ⟨hg, fun _ => rfl⟩)
  | some e =>
    refine Sees.bindAttempt hupd fun r => ?_
    split
    · exact Sees.pure fun _ h => ⟨h.2, nofun⟩
    · exact Sees.fail fun _ h => ⟨h.2, nofun⟩

theorem registry_finishReconcile {env : Env} (henv : env.Steady) (isClusterLocal : Bool)
    (err : Option Failure) {d : Draft} (hd : d.cluster = c.withStatus d.cluster.status) :
    Sees World.registry () (· = g) (finishReconcile env isClusterLocal err d) fun _ g' =>
      if isClusterLocal || err.isSome then
        g' = g.storeStatus c (statusToStore env.conditionOrder err d)
      else g' = g := by
  unfold finishReconcile
  rw [henv.finalUpdate]
  split
  · refine Sees.bind (registry_updateCluster hc _ _ err hd) (fun _ _ h => h.1) fun _ => ?_
    exact Sees.pure fun _ h => h.1
  · exact Sees.pure fun _ h => h

end

/-- The status of one resource has been replaced, once or more; nothing else
has changed. -/
structure Rewrites (g g' : Registry) (c : ClusterObject) (status : ClusterStatus) : Prop where
  get : ∀ m, g'.clusters.get m =
    if m = c.name then some { c with status := status, resourceVersion := g'.rev }
    else g.clusters.get m
  rev : g.rev ≤ g'.rev
  queue : g'.queue = g.queue
  clusterID : g'.clusterID = g.clusterID
  kubeSystemUID : g'.kubeSystemUID = g.kubeSystemUID

theorem rewrites_storeStatus (g : Registry) (c : ClusterObject) (status : ClusterStatus) :
    Rewrites g (g.storeStatus c status) c status :=
  ⟨Table.get_put _ _, Nat.le_succ _, rfl, rfl, rfl⟩

theorem Rewrites.again {g g' : Registry} {c : ClusterObject} {status status' : ClusterStatus}
    (h : Rewrites g g' c status) (rv : Nat) :
    Rewrites g (g'.storeStatus { c with status := status, resourceVersion := rv } status') c
      status' := by
  refine ⟨fun m => ?_, h.rev.trans (Nat.le_succ _), h.queue, h.clusterID, h.kubeSystemUID⟩
  refine (Table.get_put _ _ _).trans ?_
  by_cases hm : m = c.name
  · rw [if_pos hm]
    exact if_pos hm
  · rw [if_neg hm, ← (h.get m).trans (if_neg hm)]
    exact if_neg hm

/-! ## Local clusters -/

/-- The draft of a call for a local cluster. -/
structure Draft.OfLocal (c : ClusterObject) (d : Draft) : Prop where
  same : d.cluster = c.withStatus d.cluster.status
  type : d.cluster.status.type = .local
  keyed : d.conditions.Keyed

/-- The draft says whether there is a conflict. -/
def Draft.Says (conflict : Bool) (d : Draft) : Prop :=
  (d.conditions.lookup .localConflict).map (·.status) =
    some (if conflict then .conditionTrue else .conditionFalse)

section

variable {c : ClusterObject} {d : Draft} {conflict : Bool}

theorem Draft.OfLocal.setCondition (h : d.OfLocal c) (now : Nat) (cond : ClusterCondition) :
    (d.setCondition now cond).OfLocal c := ⟨h.same, h.type, keyed_setCondition h.keyed now cond⟩

theorem Draft.OfLocal.setStatus (h : d.OfLocal c) {status : ClusterStatus}
    (ht : status.type = .local) : (d.setStatus status).OfLocal c := by
  refine ⟨?_, ht, h.keyed⟩
  rw [Draft.setStatus, h.same]
  rfl

theorem Draft.Says.setCondition (h : d.Says conflict) (now : Nat) (cond : ClusterCondition)
    (ht : .localConflict ≠ cond.type) : (d.setCondition now cond).Says conflict :=
  ((status_setCondition _ _ _ _).trans (if_neg ht)).trans h

theorem says_setCondition (d : Draft) (now : Nat) (conflict : Bool) :
    (d.setCondition now (localClusterConflictCondition conflict)).Says conflict := by
  refine (status_setCondition _ _ _ _).trans ?_
  cases conflict <;> rfl

/-- What is stored is what the draft says. -/
theorem Draft.Says.stored (h : d.Says conflict) (hd : d.OfLocal c)
    (order : Shuffle ClusterCondition) (err : Option Failure) (c' : ClusterObject) :
    (getCurrentCondition (c'.withStatus (statusToStore order err d)) .localConflict).status =
      if conflict then .conditionTrue else .conditionFalse := by
  have hfind := find_storedConditions order hd.keyed (t := .localConflict) (fun h => nomatch h.2)
  unfold getCurrentCondition ClusterObject.withStatus
  rw [conditions_statusToStore, hfind]
  obtain ⟨cond, hcond, hstatus⟩ := Option.map_eq_some_iff.mp h
  rw [hcond]
  exact hstatus

end

/-- The resource that a call for a local cluster finds in conflict. -/
def Registry.conflicting (env : Env) (g : Registry) (c : ClusterObject) : Option ClusterObject :=
  firstConflicting c (env.listOrder.arrange g.clusters.toList)

/-- It is enqueued if it is stored as free of conflict. -/
def Registry.trigger (g : Registry) (found : Option ClusterObject) : Registry :=
  match found with
  | none => g
  | some x =>
    if (getCurrentCondition x .localConflict).status = .conditionFalse then
      { g with queue := insert x.name g.queue }
    else g

theorem clusters_trigger (g : Registry) (found : Option ClusterObject) :
    (g.trigger found).clusters = g.clusters := by
  unfold Registry.trigger
  split
  · rfl
  · split <;> rfl

theorem registry_listClusters (g : Registry) (order : Shuffle ClusterObject) :
    Sees World.registry () (· = g) (listClusters none order) fun r g' =>
      r = .ok (order.arrange g.clusters.toList) ∧ g' = g := by
  refine Sees.atomic fun w hw => ⟨fun _ h => absurd rfl h, ?_⟩
  subst hw
  exact ⟨rfl, rfl⟩

section

variable {env : Env} (henv : env.Steady) {g : Registry} {c : ClusterObject}

include henv

theorem registry_checkLocalClusterConflict {d : Draft}
    (hd : d.cluster = c.withStatus d.cluster.status) :
    Sees World.registry () (· = g) (checkLocalClusterConflict env d) fun r g' =>
      ∃ r', r = .ok r' ∧ r'.2 = d.setCondition env.now
        (localClusterConflictCondition (g.conflicting env c).isSome) ∧
        g' = g.trigger (g.conflicting env c) := by
  have hfound : firstConflicting d.cluster (env.listOrder.arrange g.clusters.toList) =
      g.conflicting env c := by
    rw [hd]
    rfl
  unfold checkLocalClusterConflict
  rw [henv.conflictList]
  refine Sees.bindAttempt (registry_listClusters g env.listOrder) fun r => Sees.given ?_
  rintro rfl
  dsimp only
  rw [hfound]
  cases g.conflicting env c with
  | none => exact Sees.pure fun g' hg => ⟨_, rfl, rfl, hg⟩
  | some x =>
    dsimp only
    split
    · next hx =>
      refine Sees.bindEq (a := ()) (B := fun g' => g' = g.trigger (some x)) (Sees.write ?_)
        (Sees.pure fun g' hg => ⟨_, rfl, rfl, hg⟩)
      rintro w rfl
      exact ⟨fun _ h => absurd rfl h, rfl, (if_pos hx).symm⟩
    · next hx => exact Sees.pure fun g' hg => ⟨_, rfl, rfl, hg.trans (if_neg hx).symm⟩

theorem registry_reconcileLocalCluster {d : Draft} (hd : d.OfLocal c) :
    Sees World.registry () (· = g) (reconcileLocalCluster env d) fun r g' =>
      ∃ r', r = .ok r' ∧ (r'.2.OfLocal c ∧ r'.2.Says (g.conflicting env c).isSome) ∧
        g' = g.trigger (g.conflicting env c) := by
  have hd₁ := hd.setCondition env.now (localClusterCondition true)
  have hd₂ := hd₁.setCondition env.now (localClusterConflictCondition (g.conflicting env c).isSome)
  have hsays := says_setCondition (d.setCondition env.now (localClusterCondition true)) env.now
    (g.conflicting env c).isSome
  unfold reconcileLocalCluster
  dsimp only
  refine Sees.bindOk (registry_checkLocalClusterConflict henv hd₁.same) fun r => ?_
  obtain ⟨err, d'⟩ := r
  refine Sees.given ?_
  rintro rfl
  dsimp only
  split
  · exact Sees.pure fun g' hg => ⟨_, rfl, ⟨hd₂, hsays⟩, hg⟩
  cases env.clusterMetadata with
  | error e =>
    refine Sees.pure fun g' hg => ⟨_, rfl, ⟨hd₂.setCondition _ _, ?_⟩, hg⟩
    exact hsays.setCondition _ _ nofun
  | ok clusterMetadata =>
    have hd₃ := hd₂.setCondition env.now (clusterMetadataCondition none)
    have hsays₃ := hsays.setCondition env.now (clusterMetadataCondition none) nofun
    dsimp only
    split
    · exact Sees.pure fun g' hg => ⟨_, rfl, ⟨hd₃.setStatus hd₃.type, hsays₃⟩, hg⟩
    · exact Sees.pure fun g' hg => ⟨_, rfl, ⟨hd₃.setStatus hd₃.type, hsays₃⟩, hg⟩

/-- The draft that a call for the resource starts with. -/
def startDraft (c : ClusterObject) (status : ClusterStatus) : Draft :=
  ⟨c.withStatus status, getCurrentConditions status.conditions, []⟩

/-- The status that a call starts from, if it gets that far. -/
def startStatus (isClusterLocal : Bool) (c : ClusterObject) : ClusterStatus :=
  if isClusterLocal then { c.status.reset with type := .local } else c.status.reset

omit henv in
theorem registry_resetStatus (isClusterLocal : Bool) :
    Sees World.registry () (· = g) (resetStatus env isClusterLocal c) fun r g' =>
      r = .ok (startStatus isClusterLocal c) ∧ g' = g := by
  cases isClusterLocal with
  | true =>
    exact Sees.bindEq (registry_removeIfFound g _) (Sees.pure fun _ h => ⟨rfl, h⟩)
  | false => exact Sees.pure fun _ h => ⟨rfl, h⟩

/-- **An enabled local cluster**: its status says whether another resource has
its ID. -/
theorem registry_reconcileAs_local (hc : g.clusters.get c.name = some c)
    (hen : c.disabled = false) :
    Sees World.registry () (· = g) (reconcileAs env true c) fun _ g' => ∃ status,
      Rewrites (g.trigger (g.conflicting env c)) g' c status ∧ status.type = .local ∧
      ∀ c' : ClusterObject, (getCurrentCondition (c'.withStatus status) .localConflict).status =
        if (g.conflicting env c).isSome then .conditionTrue else .conditionFalse := by
  have hd : (startDraft c (startStatus true c)).OfLocal c :=
    ⟨rfl, rfl, keyed_getCurrentConditions _⟩
  have hc' : (g.trigger (g.conflicting env c)).clusters.get c.name = some c := by
    rw [clusters_trigger]
    exact hc
  refine Sees.bindEq (registry_resetStatus true) ?_
  dsimp only
  rw [hen, if_neg (by simp)]
  refine Sees.bindOk (registry_reconcileLocalCluster henv hd) fun ⟨err, d'⟩ => Sees.given ?_
  rintro ⟨hd', hsays⟩
  have hready := hd'.setCondition env.now (clusterReadyCondition none)
  have hsays' := hsays.setCondition env.now (clusterReadyCondition none) nofun
  refine (registry_finishReconcile hc' henv true err hready.same).post fun _ g' hg => ?_
  refine ⟨statusToStore env.conditionOrder err _, ?_, (type_statusToStore _ _ _).trans hready.type,
    fun c' => hsays'.stored hready _ _ c'⟩
  rw [show g' = _ from hg]
  exact rewrites_storeStatus _ _ _

/-! ## Other clusters -/

omit henv in
theorem registry_reconcileRemoteCluster {d : Draft} (hd : d.cluster = c.withStatus d.cluster.status)
    (ht : d.cluster.status.type = .peer) :
    Sees World.registry () (· = g) (reconcileRemoteCluster env d) fun r g' => ∃ r',
      r = .ok r' ∧ (r'.2.cluster = c.withStatus r'.2.cluster.status ∧
        r'.2.cluster.status.type = .peer) ∧ g' = g := by
  have hstate : ∀ d : Draft, d.cluster = c.withStatus d.cluster.status → ∀ state,
      (d.setState state).cluster = c.withStatus (d.setState state).cluster.status := by
    intro d hd state
    rw [Draft.setState, hd]
    rfl
  unfold reconcileRemoteCluster
  dsimp only
  split
  · exact Sees.pure fun g' hg => ⟨_, rfl, ⟨hstate _ hd _, ht⟩, hg⟩
  · refine Sees.bindAttempt (still_registry (still_getRemoteCluster env _)).sees fun r => ?_
    cases r with
    | ok id => exact Sees.pure fun g' hg => ⟨_, rfl, ⟨hd, ht⟩, hg⟩
    | error e => exact Sees.pure fun g' hg => ⟨_, rfl, ⟨hstate _ hd _, ht⟩, hg⟩

theorem registry_reconcileDisabled (isClusterLocal : Bool) {d : Draft}
    (hc : g.clusters.get c.name = some c) (hd : d.cluster = c.withStatus d.cluster.status) :
    Sees World.registry () (· = g) (reconcileDisabled env isClusterLocal d) fun _ g' =>
      ∃ status, Rewrites g g' c status ∧ status.type = .peer := by
  have hdis : d.disable.cluster = c.withStatus d.disable.cluster.status := by
    rw [Draft.disable, Draft.setStatus, hd]
    rfl
  have hrw := rewrites_storeStatus g c (statusToStore env.conditionOrder none d.disable)
  have hc' : (g.storeStatus c (statusToStore env.conditionOrder none d.disable)).clusters.get
      c.name = some (g.rewritten c (statusToStore env.conditionOrder none d.disable)) :=
    (hrw.get c.name).trans (if_pos rfl)
  unfold reconcileDisabled
  rw [henv.disabledUpdate]
  refine Sees.bindEq (registry_removeIfFound g _) ?_
  refine Sees.bindEq ((registry_updateCluster hc env.conditionOrder .clusterReconciler none
    hdis).post fun _ _ h => ⟨h.2 rfl, h.1⟩) ?_
  refine (registry_finishReconcile hc' henv isClusterLocal none rfl).post fun _ g' hg => ?_
  cases isClusterLocal with
  | true =>
    refine ⟨statusToStore env.conditionOrder none { d.disable with
      cluster := g.rewritten c (statusToStore env.conditionOrder none d.disable) }, ?_, rfl⟩
    rw [show g' = _ from hg]
    exact hrw.again _
  | false =>
    refine ⟨statusToStore env.conditionOrder none d.disable, ?_, rfl⟩
    rw [show g' = _ from hg]
    exact hrw

/-- **A remote or disabled cluster**: its status, if it is written at all, is
that of a peer. -/
theorem registry_reconcileAs_peer (isClusterLocal : Bool) (hc : g.clusters.get c.name = some c)
    (h : isClusterLocal = false ∨ c.disabled = true) :
    Sees World.registry () (· = g) (reconcileAs env isClusterLocal c) fun _ g' =>
      c.disabled = false ∧ g' = g ∨ ∃ status, Rewrites g g' c status ∧ status.type = .peer := by
  refine Sees.bindEq (registry_resetStatus isClusterLocal) ?_
  dsimp only
  cases hen : c.disabled with
  | true => exact (registry_reconcileDisabled henv isClusterLocal hc rfl).post fun _ _ h => .inr h
  | false =>
    have hremote : isClusterLocal = false := h.resolve_right (by simp [hen])
    subst hremote
    refine Sees.bindOk (registry_reconcileRemoteCluster rfl rfl) fun ⟨err, d'⟩ => Sees.given ?_
    rintro ⟨hd', ht'⟩
    refine (registry_finishReconcile hc henv false err (d := d'.setCondition _ _) hd').post
      fun _ g' hg => ?_
    cases err with
    | none => exact .inl ⟨rfl, hg⟩
    | some e =>
      refine .inr ⟨statusToStore env.conditionOrder (some e)
        (d'.setCondition env.now (clusterReadyCondition none)), ?_, ht'⟩
      rw [show g' = _ from hg]
      exact rewrites_storeStatus _ _ _

/-! ## The whole call -/

omit henv in
/-- The resources that are stored as conflicting. -/
def Registry.conflicted (env : Env) (g : Registry) : Finset String :=
  (((env.listOrder.arrange g.clusters.toList).filter fun c =>
    (getCurrentCondition c .localConflict).status = .conditionTrue).map (·.name)).toFinset

omit henv in
theorem mem_conflicted {n : String} : n ∈ g.conflicted env ↔ ∃ c, g.clusters.get n = some c ∧
    (getCurrentCondition c .localConflict).status = .conditionTrue := by
  simp only [Registry.conflicted, List.mem_toFinset, List.mem_map, List.mem_filter, Shuffle.mem,
    Table.mem_toList, decide_eq_true_eq]
  constructor
  · rintro ⟨c, ⟨hc, ht⟩, rfl⟩
    exact ⟨c, hc, ht⟩
  · rintro ⟨c, hc, ht⟩
    have hn : c.name = n := Table.key_of_get hc
    exact ⟨c, ⟨hn ▸ hc, ht⟩, hn⟩

theorem registry_triggerLocalClusterReconciles :
    Sees World.registry () (· = g) (triggerLocalClusterReconciles env) fun _ g' =>
      g' = { g with queue := g.queue ∪ g.conflicted env } := by
  unfold triggerLocalClusterReconciles
  rw [henv.triggerList]
  refine Sees.bindEq (registry_listClusters _ _) (Sees.write ?_)
  rintro w rfl
  exact ⟨fun _ h => absurd rfl h, rfl⟩

theorem run_reconcile_steady (n : String) (w : World) :
    (reconcile env n).run w =
      (reconcileRead env n (w.readCluster env n)).run w.identified := by
  rcases run_reconcile env n w with ⟨h, -⟩ | h
  · exact absurd henv.getClusterID h.2
  · exact h

variable {n : String} {w : World}

/-- The resource is gone: those stored as conflicting are enqueued. -/
theorem registry_of_absent (h : w.clusters.get n = none) :
    ((reconcile env n).run w).2.registry () = { w.identified.registry () with
      queue := w.queue ∪ (w.registry ()).conflicted env } := by
  have hread : w.readCluster env n = .error notFound := by
    unfold World.readCluster
    rw [henv.get, h]
  have hsees : Sees World.registry () (· = w.identified.registry ())
      (reconcileRead env n (.error notFound)) fun _ g' => g' = { w.identified.registry () with
        queue := w.queue ∪ (w.registry ()).conflicted env } :=
    Sees.bindEq (registry_removeIfFound _ n) (registry_triggerLocalClusterReconciles henv)
  rw [run_reconcile_steady henv, hread]
  exact hsees.ends rfl

theorem registry_of_local {c : ClusterObject} (h : w.clusters.get n = some c)
    (hl : c.spec.clusterID = w.localID) (hen : c.disabled = false) :
    ∃ status, Rewrites ((w.identified.registry ()).trigger ((w.registry ()).conflicting env c))
        (((reconcile env n).run w).2.registry ()) c status ∧
      status.type = .local ∧
      ∀ c' : ClusterObject, (getCurrentCondition (c'.withStatus status) .localConflict).status =
        if ((w.registry ()).conflicting env c).isSome then .conditionTrue else .conditionFalse := by
  have hn : c.name = n := Table.key_of_get h
  rw [run_reconcile_steady henv, run_reconcileRead env ((readCluster_eq_ok env).mpr ⟨henv.get, h⟩),
    decide_eq_true hl]
  exact (registry_reconcileAs_local henv (hn ▸ h) hen).ends (s := w.identified) rfl

theorem registry_of_peer {c : ClusterObject} (h : w.clusters.get n = some c)
    (hp : c.spec.clusterID ≠ w.localID ∨ c.disabled = true) :
    c.disabled = false ∧
        ((reconcile env n).run w).2.registry () = w.identified.registry () ∨
      ∃ status, Rewrites (w.identified.registry ()) (((reconcile env n).run w).2.registry ()) c
        status ∧ status.type = .peer := by
  have hn : c.name = n := Table.key_of_get h
  rw [run_reconcile_steady henv, run_reconcileRead env ((readCluster_eq_ok env).mpr ⟨henv.get, h⟩)]
  exact (registry_reconcileAs_peer henv _ (hn ▸ h) (hp.imp decide_eq_false id)).ends
    (s := w.identified) rfl

end

/-! ## The effect of a call -/

/-- The stored condition `LocalConflict`. -/
def ClusterObject.verdict (c : ClusterObject) : ConditionStatus :=
  (getCurrentCondition c .localConflict).status

/-- The same resource up to its status and version. -/
def ClusterObject.Restated (c c₁ : ClusterObject) : Prop :=
  c₁ = { c with status := c₁.status, resourceVersion := c₁.resourceVersion }

namespace ClusterObject.Restated

variable {c c₁ : ClusterObject}

theorem uid (h : c.Restated c₁) : c₁.uid = c.uid := congrArg (·.uid) h
theorem spec (h : c.Restated c₁) : c₁.spec = c.spec := congrArg (·.spec) h
theorem disabled (h : c.Restated c₁) : c₁.disabled = c.disabled := congrArg (·.disabled) h

end ClusterObject.Restated

namespace Registry

def localID (g : Registry) : String := localIDOf g.clusterID g.kubeSystemUID

/-- The resource is there and has the local cluster ID. -/
def LocalAt (g : Registry) (x : String) (c : ClusterObject) : Prop :=
  g.clusters.get x = some c ∧ c.spec.clusterID = g.localID

theorem not_localAt_of_empty {g : Registry} (h : g.clusters = Table.empty) {x : String}
    {c : ClusterObject} : ¬g.LocalAt x c := by
  rintro ⟨hc, -⟩
  rw [h] at hc
  cases hc

/-- One resource is replaced, made or deleted. -/
structure Replaces (g g' : Registry) (n : String) (o : Option ClusterObject) : Prop where
  get : ∀ m, g'.clusters.get m = if m = n then o else g.clusters.get m
  rev : g.rev ≤ g'.rev
  localID : g'.localID = g.localID

variable {g g' : Registry} {n : String} {o : Option ClusterObject}

theorem Replaces.localAt (h : Replaces g g' n o) {m : String} (hm : m ≠ n) {c : ClusterObject} :
    g'.LocalAt m c ↔ g.LocalAt m c := by
  unfold LocalAt
  rw [h.get, if_neg hm, h.localID]

theorem Replaces.localAt_self (h : Replaces g g' n o) {c : ClusterObject} :
    g'.LocalAt n c ↔ o = some c ∧ c.spec.clusterID = g.localID := by
  unfold LocalAt
  rw [h.get, if_pos rfl, h.localID]

/-- Only the queue differs. -/
theorem trigger_eq (g : Registry) (found : Option ClusterObject) :
    g.trigger found = { g with queue := (g.trigger found).queue } := by
  unfold trigger
  split
  · rfl
  · split <;> rfl

end Registry

open Registry

theorem Rewrites.replaces {g g₀ g' : Registry} {c : ClusterObject} {status : ClusterStatus}
    (h : Rewrites g₀ g' c status) {n : String} (hn : c.name = n)
    (hclusters : g₀.clusters = g.clusters) (hrev : g₀.rev = g.rev)
    (hid : g₀.localID = g.localID) :
    Replaces g g' n (some { c with status := status, resourceVersion := g'.rev }) := by
  subst hn
  refine ⟨fun m => ?_, hrev ▸ h.rev, ?_⟩
  · rw [h.get m, hclusters]
  · rw [← hid]
    unfold localID
    rw [h.clusterID, h.kubeSystemUID]

/-- What a call for the resource `n` can do to the resources and the queue. -/
inductive Effect (env : Env) (g g' : Registry) (n : String) : Prop where
  /-- The resource is gone. -/
  | absent (hn : g.clusters.get n = none)
      (hg : g' = { g with clusterID := g.localID, queue := g.queue ∪ g.conflicted env })
  /-- It is an enabled local cluster. -/
  | enabledLocal {c c₁ : ClusterObject} (hc : g.LocalAt n c) (hen : c.disabled = false)
      (hr : Replaces g g' n (some c₁)) (hs : c.Restated c₁) (ht : c₁.status.type = .local)
      (hv : c₁.verdict =
        if (g.conflicting env c).isSome then .conditionTrue else .conditionFalse)
      (hq : g'.queue = (g.trigger (g.conflicting env c)).queue)
  /-- It is a remote or a disabled cluster. -/
  | peer {c c₁ : ClusterObject} (hc : g.clusters.get n = some c)
      (hp : c.spec.clusterID ≠ g.localID ∨ c.disabled = true) (hr : Replaces g g' n (some c₁))
      (hs : c.Restated c₁) (ht : c.disabled = true → c₁.status.type = .peer)
      (hq : g'.queue = g.queue)

/-- **Every call** run alone has one of these effects. -/
theorem effect_reconcile {env : Env} (henv : env.Steady) (n : String) (w : World) :
    Effect env (w.registry ()) (((reconcile env n).run w).2.registry ()) n := by
  have hid : (w.identified.registry ()).localID = (w.registry ()).localID :=
    localIDOf_localIDOf _ _
  cases hc : w.clusters.get n with
  | none => exact .absent hc (registry_of_absent henv hc)
  | some c =>
    have hn : c.name = n := Table.key_of_get hc
    by_cases hl : c.spec.clusterID = w.localID ∧ c.disabled = false
    · obtain ⟨status, hrew, ht, hv⟩ := registry_of_local henv hc hl.1 hl.2
      have hr := hrew.replaces (g := w.registry ()) hn (clusters_trigger _ _)
        (by rw [trigger_eq]; rfl) (by rw [trigger_eq]; exact hid)
      refine .enabledLocal ⟨hc, hl.1⟩ hl.2 hr rfl ht (hv c) (hrew.queue.trans ?_)
      unfold trigger
      split
      · rfl
      · split <;> rfl
    · have hp : c.spec.clusterID ≠ w.localID ∨ c.disabled = true := by
        rw [← Bool.not_eq_false]
        exact not_and_or.mp hl
      rcases registry_of_peer henv hc hp with ⟨hen, hsame⟩ | ⟨status, hrew, ht⟩
      · have hr : Replaces (w.registry ()) (((reconcile env n).run w).2.registry ()) n
            (some c) := by
          rw [hsame]
          refine ⟨fun m => ?_, le_refl w.rev, hid⟩
          show w.clusters.get m = _
          split
          · next e => rw [e, hc]
          · rfl
        refine .peer hc hp hr rfl (fun hdis => absurd (hen.symm.trans hdis) nofun) ?_
        rw [hsame]
        rfl
      · exact .peer hc hp (hrew.replaces hn rfl rfl hid) rfl (fun _ => ht) hrew.queue

end ClusterRegistry.Members
