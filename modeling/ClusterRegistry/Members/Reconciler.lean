import ClusterRegistry.Members.World

/-!
# The reconciler of `Cluster` resources

`controllers/cluster_reconciler.go` with `UpdateCluster` of
`controllers/common.go` and the conflict watch. An `Env` fixes what a call
cannot control: the answers of the API server and of third-party code, the
order of lists and map loops, and the clock. The functions that change the
resource they work on take and return a `Draft`: the resource, its conditions
as a map, and the conditions set so far in the call.
-/

namespace ClusterRegistry.Members

open Lib Lib.Code

/-- The faults of the calls in `UpdateClusterStatus`. -/
structure UpdateFaults where
  update : Option Err := none
  get : Option Err := none
  retry : Option Err := none

structure Env where
  cmd : ClientCmd
  networkName : String := ""
  now : Nat := 0
  /-- The faults of reading the cluster ID, the resource, the lists and the secret. -/
  getClusterID : Option Err := none
  get : Option Err := none
  triggerList : Option Err := none
  conflictList : Option Err := none
  secret : Option Err := none
  /-- The orders of the lists and of the loop over the conditions. -/
  listOrder : Shuffle ClusterObject := .refl _
  conditionOrder : Shuffle ClusterCondition := .refl _
  /-- The outcomes of the steps that set an instance up. -/
  newCluster : Option Err := none
  addRemoteCluster : Option Err := none
  addRemoteClusterFeature : Option Err := none
  /-- The liveness check in `Start`: the UID of the remote `kube-system` namespace. -/
  livenessCheck : Except Err String
  /-- The outcomes of the steps for a local cluster. -/
  clusterMetadata : Except Err String
  provisionLocalClusterReaderSecret : Option Err := none
  reconcileCoreSyncers : Option Err := none
  /-- The update of a disabled cluster, and the one at the end. -/
  disabledUpdate : UpdateFaults := {}
  finalUpdate : UpdateFaults := {}

/-- Every call succeeds; the remote cluster has the ID `remote`. -/
def Env.smooth : Env where
  cmd := .bare
  livenessCheck := .ok "remote"
  clusterMetadata := .ok ""

structure Draft where
  cluster : ClusterObject
  conditions : ClusterConditionsMap
  set : List ClusterCondition := []

namespace Draft

def setCondition (now : Nat) (d : Draft) (c : ClusterCondition) : Draft :=
  { d with conditions := Members.setCondition now d.conditions c, set := c :: d.set }

def setState (d : Draft) (state : ClusterState) : Draft :=
  { d with cluster := { d.cluster with status := { d.cluster.status with state := state } } }

def setStatus (d : Draft) (status : ClusterStatus) : Draft :=
  { d with cluster := { d.cluster with status := status } }

end Draft

/-! ## Status updates -/

/-- `UpdateClusterStatus`; on a conflict the object is written again under the
current resource version. Returns what the caller's object is afterwards. -/
def updateClusterStatus (faults : UpdateFaults) (writer : Writer) (d : Draft) :
    Proc ClusterObject := do
  let entry : StatusWrite := ⟨writer, d.set, d.cluster.status, false⟩
  match ← (updateStatus faults.update entry d.cluster).attempt with
  | .ok cluster => pure cluster
  | .error e =>
    if e.err.reason = .conflict then do
      let current ← (getCluster faults.get d.cluster.name).mapError
        (·.wrapIf "could not get cluster")
      let desired := { d.cluster with resourceVersion := current.resourceVersion }
      let _ ← (updateStatus faults.retry { entry with retried := true } desired).mapError
        (·.wrapIf "could not update cluster status")
      pure d.cluster
    else fail (e.wrapIf "could not update status")

/-- The conditions that `UpdateCluster` stores, in some order. -/
def storedConditions (order : Shuffle ClusterCondition) (d : Draft) : List ClusterCondition :=
  order.arrange ((conditionTypes.filterMap d.conditions.lookup).filter fun c =>
    -- remove sync condition from local clusters
    !(d.cluster.status.type = .local && c.type = .clustersSynced))

theorem mem_storedConditions {order : Shuffle ClusterCondition} {d : Draft}
    (hd : d.conditions.Keyed) {c : ClusterCondition} :
    c ∈ storedConditions order d ↔ d.conditions.lookup c.type = some c ∧
      ¬(d.cluster.status.type = .local ∧ c.type = .clustersSynced) := by
  unfold storedConditions
  rw [Shuffle.mem, List.mem_filter, List.mem_filterMap]
  refine and_congr ⟨?_, fun h => ⟨c.type, mem_conditionTypes _, h⟩⟩ (by simp [imp_iff_not_or])
  rintro ⟨t, -, ht⟩
  rwa [hd t c ht]

theorem find_storedConditions (order : Shuffle ClusterCondition) {d : Draft}
    (hd : d.conditions.Keyed) {t : ClusterConditionType}
    (ht : ¬(d.cluster.status.type = .local ∧ t = .clustersSynced)) :
    (storedConditions order d).find? (·.type = t) = d.conditions.lookup t := by
  cases hl : d.conditions.lookup t with
  | none =>
    refine List.find?_eq_none.mpr fun c hc hct => ?_
    have hct' : c.type = t := of_decide_eq_true hct
    have := ((mem_storedConditions hd).mp hc).1
    rw [hct', hl] at this
    cases this
  | some c =>
    have hct : c.type = t := hd t c hl
    refine find_eq_some_of_unique ?_ (decide_eq_true hct) fun b hb hbt => ?_
    · exact (mem_storedConditions hd).mpr ⟨hct ▸ hl, hct ▸ ht⟩
    · have hbt' : b.type = t := of_decide_eq_true hbt
      have := ((mem_storedConditions hd).mp hb).1
      rw [hbt', hl] at this
      exact (Option.some.inj this).symm

/-- The status that `UpdateCluster` writes. -/
def statusToStore (order : Shuffle ClusterCondition) (reconcileError : Option Failure)
    (d : Draft) : ClusterStatus :=
  let status := { d.cluster.status with conditions := storedConditions order d }
  match reconcileError with
  | none => status
  | some e =>
    { status with
      -- status could be overwritten earlier, only override the ready state here
      state := if status.state = .ready then .failed else status.state
      message := e.err.msg }

@[simp] theorem type_statusToStore (order : Shuffle ClusterCondition) (e : Option Failure)
    (d : Draft) : (statusToStore order e d).type = d.cluster.status.type := by
  cases e <;> rfl

@[simp] theorem conditions_statusToStore (order : Shuffle ClusterCondition) (e : Option Failure)
    (d : Draft) : (statusToStore order e d).conditions = storedConditions order d := by
  cases e <;> rfl

def updateCluster (faults : UpdateFaults) (order : Shuffle ClusterCondition) (writer : Writer)
    (reconcileError : Option Failure) (d : Draft) : Proc Draft := do
  let d := d.setStatus (statusToStore order reconcileError d)
  match reconcileError with
  | some e =>
    -- the error of the update is only logged
    let _ ← (updateClusterStatus faults writer d).attempt
    if e.permanent then pure d else fail e
  | none =>
    let cluster ← updateClusterStatus faults writer d
    pure { d with cluster := cluster }

section

variable (env : Env)

/-! ## Remote clusters -/

def removeRemoteCluster (name : String) : Proc Unit := do
  match ← managerGet name with
  | none => fail errClusterNotFound
  | some id => managerRemove id

/-- `removeRemoteCluster` where a cluster that is not found is no error. -/
def removeIfFound (name : String) : Proc Unit := do
  match ← (removeRemoteCluster name).attempt with
  | .ok _ => pure ()
  | .error e => if e ≠ errClusterNotFound then fail e else pure ()

def getK8SConfigForCluster (ref : NamespacedName) : Proc String :=
  answer env.secret fun w =>
    match w.secrets.lookup ref with
    | none => .error notFound
    | some secret =>
      if secret.type ≠ secretTypeClusterRegistry then .error errInvalidSecret
      else
        match secret.data.lookup kubeconfigKey with
        | some content => .ok content
        | none => .error errInvalidSecretContent

/-- The outcome of a call of which only the error matters. -/
def outcome (fault : Option Err) : Proc Unit :=
  match fault with
  | some e => fail ⟨e, false⟩
  | none => pure ()

/-- `NewCluster` and its options. -/
def newInstance (cluster : ClusterObject) (kubeconfig : String) (config : RestConfig) : Proc Nat :=
  sect (fun w => { w with instances := w.instances ++
      [⟨cluster.name, some cluster.spec.secretRef.string, kubeconfig, config, "", false, false,
        false⟩] })
    fun w => pure w.instances.length

def Instance.start (uid : String) (i : Instance) : Instance :=
  { i with clusterID := uid, alive := true, started := true }

/-- `Start`: the first liveness check decides. -/
def startInstance (id : Nat) : Proc Unit :=
  match env.livenessCheck with
  | .error e => fail ⟨e.wrapIf "could not get cluster ID", false⟩
  | .ok uid => write fun w => { w with instances := w.instances.modify id (Instance.start uid) }

/-- The part of `getRemoteCluster` that makes and registers an instance. -/
def buildInstance (cluster : ClusterObject) (kubeconfig : String) : Proc Nat := do
  let _ ← (ofExcept (env.cmd.load kubeconfig)).mapError
    fun e => ⟨e.wrapIf "could not load kubeconfig", false⟩
  let overrides ← (ofExcept (getKubeconfigOverridesForClusterByNetwork env.cmd cluster.spec
    env.networkName)).mapError fun e => ⟨e, false⟩
  let config ← (ofExcept (env.cmd.clientConfig kubeconfig overrides)).mapError
    fun e => ⟨e.wrapIf "could not create k8s rest config", false⟩
  (outcome env.newCluster).mapError (·.wrapIf "could not create new cluster")
  let id ← newInstance cluster kubeconfig config
  (outcome env.addRemoteCluster).mapError (·.wrapIf "could not add managed controller")
  (outcome env.addRemoteClusterFeature).mapError (·.wrapIf "could not add managed controller")
  (startInstance env id).mapError (·.wrapIf "could not start cluster")
  managerAdd id
  pure id

/-- The secret reference or its content is not the one the instance was made with. -/
def credentialsChanged (i : Instance) (secretID kubeconfig : String) : Bool :=
  (i.secretID.isSome && i.secretID != some secretID) ||
    (i.kubeconfig != "" && kubeconfig != i.kubeconfig)

def removeExisting : Option Nat → Proc Unit
  | some id => managerRemove id
  | none => pure ()

/-- `getRemoteCluster`; an unreadable secret also changes the state of the
resource, which therefore comes with the error. -/
def getRemoteCluster (cluster : ClusterObject) : Code World (Failure × ClusterState) Nat := do
  let secretID := cluster.spec.secretRef.string
  let state := cluster.status.state
  let remoteCluster ← (managerGet cluster.name).mapError (·, state)
  match ← (getK8SConfigForCluster env cluster.spec.secretRef).attempt with
  | .error e =>
    (removeExisting remoteCluster).mapError (·, .invalidAuthInfo)
    fail (e.wrapAsPermanentError, .invalidAuthInfo)
  | .ok kubeconfig =>
    match remoteCluster with
    | none => (buildInstance env cluster kubeconfig).mapError (·, state)
    | some id =>
      match ← read fun w => w.instances[id]? with
      | none => (buildInstance env cluster kubeconfig).mapError (·, state)
      | some i =>
        if !i.alive then
          fail ((Failure.new "remote cluster is not alive").wrapAsPermanentError, state)
        else if !credentialsChanged i secretID kubeconfig then pure id
        else do
          (managerRemove id).mapError (·, state)
          (buildInstance env cluster kubeconfig).mapError (·, state)

def reconcileRemoteCluster (d : Draft) : Proc (Option Failure × Draft) := do
  let d := d.setCondition env.now (localClusterCondition false)
  if d.cluster.spec.lacksSecret then pure (none, d.setState .missingAuthInfo)
  else
    match ← (getRemoteCluster env d.cluster).attempt with
    | .ok _ => pure (none, d)
    | .error (e, state) =>
      pure (some e, (d.setState state).setCondition env.now (clustersSyncedCondition (some e)))

/-! ## Local clusters -/

/-- The loop of `checkLocalClusterConflict`: the first other resource with the
cluster ID. -/
def firstConflicting (cluster : ClusterObject) (items : List ClusterObject) :
    Option ClusterObject :=
  items.find? fun c => c.uid ≠ cluster.uid && c.spec.clusterID = cluster.spec.clusterID

def checkLocalClusterConflict (d : Draft) : Proc (Option Failure × Draft) := do
  match ← (listClusters env.conflictList env.listOrder).attempt with
  | .error e => pure (some (e.wrapIf "could not list objects"), d)
  | .ok items =>
    match firstConflicting d.cluster items with
    | some c =>
      if (getCurrentCondition c .localConflict).status = .conditionFalse then
        triggerClusterReconcile c
      pure (some errLocalClusterConflict.wrapAsPermanentError,
        d.setCondition env.now (localClusterConflictCondition true))
    | none => pure (none, d.setCondition env.now (localClusterConflictCondition false))

def reconcileLocalCluster (d : Draft) : Proc (Option Failure × Draft) := do
  let d := d.setCondition env.now (localClusterCondition true)
  let (err, d) ← checkLocalClusterConflict env d
  if err.isSome then pure (err, d)
  else
    match env.clusterMetadata with
    | .error e =>
      pure (some ⟨e, false⟩,
        d.setCondition env.now (clusterMetadataCondition (some ⟨e, false⟩)))
    | .ok clusterMetadata =>
      let d := d.setCondition env.now (clusterMetadataCondition none)
      let d := d.setStatus { d.cluster.status with clusterMetadata := clusterMetadata }
      match env.provisionLocalClusterReaderSecret.or env.reconcileCoreSyncers with
      | some e => pure (some ⟨e, false⟩, d)
      | none => pure (none, d)

/-- Every resource that is stored as conflicting is reconciled again. -/
def triggerLocalClusterReconciles : Proc Unit := do
  let items ← listClusters env.triggerList env.listOrder
  let conflicting := items.filter fun c =>
    (getCurrentCondition c .localConflict).status = .conditionTrue
  write fun w => { w with queue := w.queue ∪ (conflicting.map (·.name)).toFinset }

/-! ## The call -/

def setClusterID : Proc Unit := do
  if (← read (·.clusterID)) = "" then
    let uid ← (answer env.getClusterID fun w => .ok w.kubeSystemUID).mapError
      (·.wrapIf "could not get cluster id")
    write fun w => { w with clusterID := uid }

/-- The end of `Reconcile`: the status is written if the cluster is local or if
there was an error setting up a remote cluster instance. -/
def finishReconcile (isClusterLocal : Bool) (reconcileError : Option Failure) (d : Draft) :
    Proc Unit := do
  if isClusterLocal || reconcileError.isSome then
    let _ ← updateCluster env.finalUpdate env.conditionOrder .clusterReconciler reconcileError d

/-- The status that the call starts from. -/
def resetStatus (isClusterLocal : Bool) (cluster : ClusterObject) : Proc ClusterStatus :=
  let status := cluster.status.reset
  if isClusterLocal then do
    -- a local cluster could have been a remote earlier
    removeIfFound cluster.name
    pure { status with type := .local }
  else if status.type = .local then do
    triggerLocalClusterReconciles env
    pure status
  else pure status

/-- A disabled cluster has no conditions. -/
def Draft.disable (d : Draft) : Draft :=
  { d.setStatus { d.cluster.status.reset with state := .disabled } with conditions := ∅ }

def reconcileDisabled (isClusterLocal : Bool) (d : Draft) : Proc Unit := do
  removeIfFound d.cluster.name
  let d ← updateCluster env.disabledUpdate env.conditionOrder .clusterReconciler none d.disable
  finishReconcile env isClusterLocal none d

def reconcileEnabled (isClusterLocal : Bool) (d : Draft) : Proc Unit := do
  let (reconcileError, d) ←
    (if isClusterLocal then reconcileLocalCluster else reconcileRemoteCluster) env d
  -- the error tested here is that of reading the resource
  let d := d.setCondition env.now (clusterReadyCondition none)
  finishReconcile env isClusterLocal reconcileError d

/-- `Reconcile` of a resource that is there, once it is known whether the
cluster is the local one. -/
def reconcileAs (isClusterLocal : Bool) (cluster : ClusterObject) : Proc Unit := do
  let status ← resetStatus env isClusterLocal cluster
  let d : Draft := ⟨{ cluster with status := status }, getCurrentConditions status.conditions, []⟩
  if cluster.disabled then reconcileDisabled env isClusterLocal d
  else reconcileEnabled env isClusterLocal d

def reconcileCluster (cluster : ClusterObject) : Proc Unit := do
  let clusterID ← read (·.clusterID)
  reconcileAs env (cluster.spec.clusterID = clusterID) cluster

/-- `Reconcile` once the resource has been read, or not. -/
def reconcileRead (name : String) : Except Failure ClusterObject → Proc Unit
  | .ok cluster => reconcileCluster env cluster
  | .error e =>
    if e.err.reason = .notFound then do
      removeIfFound name
      -- trigger local reconciles to fix possible local conflict status
      triggerLocalClusterReconciles env
    else fail (e.wrapIf "could not get object")

def reconcile (name : String) : Proc Unit := do
  setClusterID env
  let cluster ← (getCluster env.get name).attempt
  reconcileRead env name cluster

/-! ## A call run alone -/

/-- The local cluster ID, which the first call reads and later calls keep. -/
def localIDOf (clusterID kubeSystemUID : String) : String :=
  if clusterID = "" then kubeSystemUID else clusterID

@[simp] theorem localIDOf_localIDOf (clusterID kubeSystemUID : String) :
    localIDOf (localIDOf clusterID kubeSystemUID) kubeSystemUID =
      localIDOf clusterID kubeSystemUID := by
  unfold localIDOf
  split_ifs with h <;> rfl

def World.localID (w : World) : String := localIDOf w.clusterID w.kubeSystemUID

def World.identified (w : World) : World := { w with clusterID := w.localID }

theorem run_answer {α : Type} (fault : Option Err) (f : World → Except Failure α) (w : World) :
    (answer fault f).run w = ((match fault with
      | some e => .error ⟨e, false⟩
      | none => f w), w) :=
  (run_atomic _ w).trans (by cases fault <;> rfl)

theorem run_setClusterID_ok {w : World} (h : w.clusterID = "" → env.getClusterID = none) :
    (setClusterID env).run w = (.ok (), w.identified) := by
  unfold setClusterID World.identified World.localID localIDOf
  rw [run_bind_ok (a := w.clusterID) rfl]
  by_cases hid : w.clusterID = ""
  · rw [if_pos hid, if_pos hid, h hid]
    refine (run_bind_ok (a := w.kubeSystemUID) (t := w) ?_ _).trans rfl
    rw [run_mapError, run_answer]
    rfl
  · rw [if_neg hid, if_neg hid]
    rfl

theorem run_setClusterID_error {w : World} {e : Err} (hid : w.clusterID = "")
    (hf : env.getClusterID = some e) :
    (setClusterID env).run w = (.error ⟨e.wrapIf "could not get cluster id", false⟩, w) := by
  unfold setClusterID
  rw [run_bind_ok (a := w.clusterID) rfl, if_pos hid, hf]
  refine run_bind_error ?_ _
  rw [run_mapError, run_answer]
  rfl

theorem run_setClusterID (w : World) :
    ((w.clusterID = "" ∧ env.getClusterID ≠ none) ∧
        ∃ e, (setClusterID env).run w = (.error e, w)) ∨
      (setClusterID env).run w = (.ok (), w.identified) := by
  by_cases hid : w.clusterID = ""
  · cases hf : env.getClusterID with
    | some e => exact .inl ⟨⟨hid, nofun⟩, _, run_setClusterID_error env hid hf⟩
    | none => exact .inr (run_setClusterID_ok env fun _ => hf)
  · exact .inr (run_setClusterID_ok env fun h => absurd h hid)

/-- The outcome of reading the resource. -/
def World.readCluster (w : World) (name : String) : Except Failure ClusterObject :=
  match env.get with
  | some e => .error ⟨e, false⟩
  | none =>
    match w.clusters.get name with
    | none => .error notFound
    | some c => .ok c

theorem readCluster_eq_ok {w : World} {name : String} {c : ClusterObject} :
    w.readCluster env name = .ok c ↔ env.get = none ∧ w.clusters.get name = some c := by
  unfold World.readCluster
  cases env.get with
  | some e => simp
  | none => cases w.clusters.get name <;> simp

/-- **A call run alone** fails before it reads the resource, or comes down to
what it does with it. -/
theorem run_reconcile (name : String) (w : World) :
    ((w.clusterID = "" ∧ env.getClusterID ≠ none) ∧
        ∃ e, (reconcile env name).run w = (.error e, w)) ∨
      (reconcile env name).run w =
        (reconcileRead env name (w.readCluster env name)).run w.identified := by
  rcases run_setClusterID env w with ⟨hf, e, he⟩ | hid
  · exact .inl ⟨hf, e, run_bind_error he _⟩
  · right
    refine (run_bind_ok hid _).trans (run_attempt_bind ?_ _)
    exact run_answer env.get _ w.identified

theorem run_reconcileRead {name : String} {w : World} {c : ClusterObject}
    (hc : w.readCluster env name = .ok c) :
    (reconcileRead env name (w.readCluster env name)).run w.identified =
      (reconcileAs env (c.spec.clusterID = w.localID) c).run w.identified := by
  rw [hc]
  rfl

theorem reconcileAs_remote {cluster : ClusterObject} (h : cluster.disabled = false) :
    reconcileAs env false cluster = reconcileEnabled env false
      ⟨{ cluster with status := cluster.status.reset },
        getCurrentConditions cluster.status.conditions, []⟩ := by
  show (if cluster.disabled then _ else _) = _
  rw [h]
  rfl

end

end ClusterRegistry.Members
