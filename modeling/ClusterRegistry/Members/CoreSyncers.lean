import ClusterRegistry.Lib.Level
import ClusterRegistry.Members.Conflict
import ClusterRegistry.Members.Written

/-!
# The core resources

`controllers/core_syncers.go` and the watches of `SetupWithController` in
`controllers/cluster_reconciler.go`. The call for a local cluster ends with four
resources of its own: the rules by which the cluster takes over clusters, secrets
and rules from others, and the feature by which it offers its own. They come in
the order of a map loop, and the first error ends the loop.

The controller watches the rules, so that a core rule that somebody changes is
put right. There is no watch for the feature: the second watch has the Go type of
a rule. `core_differs_iff` says when a core resource stays wrong.
-/

namespace ClusterRegistry.Members

open Lib Lib.Code

/-! ## The resources -/

def coreResourcesSourceFeatureName : String := "cluster-registry-core-resources-source"

def coreResourceLabelName : String := "cluster-registry-controller.k8s.cisco.com/core-sync-resource"

/-- The fields of the configuration that are used here. -/
structure CoreConfig where
  coreResourcesSourceEnabled : Bool
  «namespace» : String

/-- A `ClusterFeature` or a `ResourceSyncRule`, both cluster-scoped. -/
inductive CoreSpec where
  | clusterFeature (featureName : String)
  | resourceSyncRule (spec : ResourceSyncRuleSpec)
  deriving DecidableEq

inductive CoreKind where
  | clusterFeature
  | resourceSyncRule
  deriving DecidableEq

def CoreSpec.kind : CoreSpec → CoreKind
  | .clusterFeature _ => .clusterFeature
  | .resourceSyncRule _ => .resourceSyncRule

structure CoreKey where
  kind : CoreKind
  name : String
  deriving DecidableEq

structure CoreObject where
  name : String
  labels : StringMap := ∅
  /-- The UID of the resource that controls this one. -/
  controller : Option Nat := none
  spec : CoreSpec
  deriving DecidableEq

namespace CoreObject

def key (o : CoreObject) : CoreKey := ⟨o.spec.kind, o.name⟩

/-- The label that the watch asks for. -/
def labelled (o : CoreObject) : Bool := o.labels.lookup coreResourceLabelName = some "true"

end CoreObject

def coreLabels : StringMap := (∅ : StringMap).insert coreResourceLabelName "true"

def registryGVK (kind : String) : GVK := ⟨"clusterregistry.k8s.cisco.com", "v1alpha1", kind⟩

def secretGVK : GVK := ⟨"", "v1", "Secret"⟩

def coreSyncersClusterFeature : CoreObject where
  name := "cluster-registry-core-resources"
  labels := coreLabels
  spec := .clusterFeature coreResourcesSourceFeatureName

/-- A rule for the objects of a kind, taken from clusters that offer theirs. -/
def coreRuleSpec (gvk : GVK) («matches» : Option (List SyncRuleMatch)) : ResourceSyncRuleSpec where
  clusterFeatureMatches := some [⟨coreResourcesSourceFeatureName, none, none⟩]
  gvk := gvk
  rules := some [{ «matches» := «matches», mutations := { syncStatus := false } }]

def coreRule (name : String) (spec : ResourceSyncRuleSpec) : CoreObject where
  name := name
  labels := coreLabels
  spec := .resourceSyncRule spec

def clustersSyncRule : CoreObject :=
  coreRule "cluster-registry-core-resource-clusters-sink"
    (coreRuleSpec (registryGVK "Cluster") none)

/-- The secrets of the registry in the namespace of the controller. -/
def clusterSecretsRuleSpec (config : CoreConfig) : ResourceSyncRuleSpec :=
  coreRuleSpec secretGVK (some [{
    content := some [⟨"type", .string secretTypeClusterRegistry⟩]
    namespaces := some [config.namespace] }])

def clusterSecretsSyncRule (config : CoreConfig) : CoreObject :=
  coreRule "cluster-registry-core-resource-cluster-secrets-sink" (clusterSecretsRuleSpec config)

def resourceSyncRuleSync : CoreObject :=
  coreRule "cluster-registry-core-resource-syncrules-sink"
    (coreRuleSpec (registryGVK "ResourceSyncRule") none)

inductive DesiredState where
  | present
  | absent
  deriving DecidableEq

def coreSyncers (config : CoreConfig) : List (CoreObject × DesiredState) :=
  [(coreSyncersClusterFeature,
      if config.coreResourcesSourceEnabled then .present else .absent),
    (clustersSyncRule, .present), (clusterSecretsSyncRule config, .present),
    (resourceSyncRuleSync, .present)]

/-- What is stored is what is wanted. -/
def DesiredState.Fits (o : CoreObject) : DesiredState → Option CoreObject → Prop
  | .present, current => ∃ c, current = some c ∧ c.labelled = true ∧ c.spec = o.spec
  | .absent, current => current = none

/-- The outcome of `ReconcileResource`, which is third-party code. -/
inductive ReconcileOutcome where
  | failed (e : Err)
  /-- There is nothing to do. -/
  | inSync
  | applied

structure CoreEnv where
  /-- The order of the map loop. -/
  order : Shuffle (CoreObject × DesiredState) := .refl _
  setControllerReference : CoreKey → Option Err := fun _ => none
  reconcileResource : CoreKey → ReconcileOutcome

section

variable (env : CoreEnv)

def reconcileResource (o : CoreObject) (state : DesiredState) :
    Eff (Map CoreKey CoreObject) Err Unit :=
  match env.reconcileResource o.key with
  | .failed e => Eff.throw e
  | .inSync => pure ()
  | .applied => Eff.modify (·.set o.key (if state = .present then some o else none))

/-- The loop of `reconcileCoreSyncers`. -/
def coreSyncersLoop (cluster : ClusterObject) :
    List (CoreObject × DesiredState) → Eff (Map CoreKey CoreObject) Err Unit
  | [] => pure ()
  | (o, state) :: rest => do
    match env.setControllerReference o.key with
    | some e =>
      Eff.throw (e.wrapIf "couldn't set local Cluster as resource owner for resource")
    | none => reconcileResource env { o with controller := some cluster.uid } state
    coreSyncersLoop cluster rest

def reconcileCoreSyncers (config : CoreConfig) (cluster : ClusterObject) :
    Eff (Map CoreKey CoreObject) Err Unit :=
  coreSyncersLoop env cluster (env.order.arrange (coreSyncers config))

end

/-! ## What the loop leaves behind -/

section

variable {env : CoreEnv} {config : CoreConfig} {cluster : ClusterObject}
  {store : Map CoreKey CoreObject}

/-- What is found to be in sync is so. -/
def CoreEnv.Honest (env : CoreEnv) (config : CoreConfig) (store : Map CoreKey CoreObject) : Prop :=
  ∀ p ∈ coreSyncers config, env.reconcileResource p.1.key = .inSync →
    p.2.Fits p.1 (store.lookup p.1.key)

theorem labelled_of_mem {p : CoreObject × DesiredState} (hp : p ∈ coreSyncers config) :
    p.1.labelled = true := by
  unfold coreSyncers at hp
  simp only [List.mem_cons, List.not_mem_nil, or_false] at hp
  rcases hp with rfl | rfl | rfl | rfl <;> rfl

theorem nodup_keys (config : CoreConfig) : ((coreSyncers config).map (·.1.key)).Nodup := by
  show [coreSyncersClusterFeature.key, clustersSyncRule.key,
    ⟨.resourceSyncRule, "cluster-registry-core-resource-cluster-secrets-sink"⟩,
    resourceSyncRuleSync.key].Nodup
  decide

/-- One resource is reconciled: it fits, and the others are as before. -/
theorem reconcileResource_spec {o : CoreObject} {state : DesiredState} (uid : Nat)
    (hlabel : o.labelled = true)
    (hsync : env.reconcileResource o.key = .inSync → state.Fits o (store.lookup o.key)) :
    (∃ e, reconcileResource env { o with controller := some uid } state store = (.error e, store)) ∨
    ∃ store', reconcileResource env { o with controller := some uid } state store =
        (.ok (), store') ∧ state.Fits o (store'.lookup o.key) ∧
      ∀ k, k ≠ o.key → store'.lookup k = store.lookup k := by
  have hkey : ({ o with controller := some uid } : CoreObject).key = o.key := rfl
  unfold reconcileResource
  rw [hkey]
  cases hout : env.reconcileResource o.key with
  | failed e => exact .inl ⟨e, rfl⟩
  | inSync => exact .inr ⟨store, rfl, hsync hout, fun _ _ => rfl⟩
  | applied =>
    refine .inr ⟨_, rfl, ?_, fun k hk => (Map.lookup_set ..).trans (if_neg hk)⟩
    rw [Map.lookup_set, if_pos rfl]
    cases state with
    | present => exact ⟨_, rfl, hlabel, rfl⟩
    | absent => rfl

/-- **The loop**: without an error all resources fit at its end. -/
theorem coreSyncersLoop_spec {l : List (CoreObject × DesiredState)}
    (hnd : (l.map (·.1.key)).Nodup) (hlabel : ∀ p ∈ l, p.1.labelled = true)
    (hsync : ∀ p ∈ l, env.reconcileResource p.1.key = .inSync →
      p.2.Fits p.1 (store.lookup p.1.key))
    (hok : (coreSyncersLoop env cluster l store).1 = .ok ()) :
    (∀ p ∈ l, p.2.Fits p.1 ((coreSyncersLoop env cluster l store).2.lookup p.1.key)) ∧
      ∀ k, (∀ p ∈ l, k ≠ p.1.key) →
        (coreSyncersLoop env cluster l store).2.lookup k = store.lookup k := by
  induction l generalizing store with
  | nil => exact ⟨by simp, fun _ _ => rfl⟩
  | cons p rest ih =>
    obtain ⟨o, state⟩ := p
    obtain ⟨hnot, hnd⟩ := List.nodup_cons.mp hnd
    obtain ⟨hlabel₀, hlabel⟩ := List.forall_mem_cons.mp hlabel
    obtain ⟨hsync₀, hsync⟩ := List.forall_mem_cons.mp hsync
    have hne : ∀ p ∈ rest, p.1.key ≠ o.key := fun p hp he =>
      hnot (List.mem_map.mpr ⟨p, hp, he⟩)
    unfold coreSyncersLoop at hok ⊢
    cases hset : env.setControllerReference o.key with
    | some e =>
      rw [hset] at hok
      cases hok
    | none =>
      rw [hset] at hok
      rcases reconcileResource_spec cluster.uid hlabel₀ hsync₀ with
        ⟨e, hrun⟩ | ⟨store', hrun, hfits, hframe⟩
      · have hfail := Eff.bind_of_error hrun fun _ => coreSyncersLoop env cluster rest
        simp only at hok
        rw [hfail] at hok
        cases hok
      · have hnext := Eff.bind_of_ok hrun fun _ => coreSyncersLoop env cluster rest
        simp only at hok ⊢
        rw [hnext] at hok ⊢
        have hsync' : ∀ p ∈ rest, env.reconcileResource p.1.key = .inSync →
            p.2.Fits p.1 (store'.lookup p.1.key) := by
          intro p hp hin
          rw [hframe _ (hne p hp)]
          exact hsync p hp hin
        obtain ⟨hall, hrest⟩ := ih hnd hlabel hsync' hok
        refine ⟨List.forall_mem_cons.mpr ⟨?_, hall⟩, fun k hk => ?_⟩
        · rw [hrest o.key fun p hp => Ne.symm (hne p hp)]
          exact hfits
        · obtain ⟨hk₀, hk⟩ := List.forall_mem_cons.mp hk
          exact (hrest k hk).trans (hframe k hk₀)

/-- The resources that the controller is to keep are all as they should be. -/
def CoreFits (config : CoreConfig) (store : Map CoreKey CoreObject) (k : CoreKey) : Prop :=
  ∀ p ∈ coreSyncers config, p.1.key = k → p.2.Fits p.1 (store.lookup k)

theorem coreFits_of_ok (h : env.Honest config store)
    (hok : (reconcileCoreSyncers env config cluster store).1 = .ok ()) (k : CoreKey) :
    CoreFits config (reconcileCoreSyncers env config cluster store).2 k := by
  have hmem : ∀ p, p ∈ env.order.arrange (coreSyncers config) ↔ p ∈ coreSyncers config :=
    fun p => env.order.mem
  have hnd : ((env.order.arrange (coreSyncers config)).map (·.1.key)).Nodup :=
    ((env.order.perm _).map _).nodup_iff.mpr (nodup_keys config)
  obtain ⟨hall, -⟩ := coreSyncersLoop_spec hnd (fun p hp => labelled_of_mem ((hmem p).mp hp))
    (fun p hp => h p ((hmem p).mp hp)) hok
  rintro p hp rfl
  exact hall p ((hmem p).mpr hp)

end

/-! ## The call that gets there -/

section

variable (env : Env) (w : World) (n : String)

/-- The call gets to the core resources, with this local cluster. -/
def reached : Option ClusterObject :=
  if w.clusterID = "" ∧ env.getClusterID ≠ none then none
  else
    match w.readCluster env n with
    | .error _ => none
    | .ok c =>
      if c.spec.clusterID = w.localID ∧ c.disabled = false ∧ env.conflictList = none ∧
          firstConflicting c (env.listOrder.arrange w.clusters.toList) = none ∧
          env.clusterMetadata.isOk = true ∧ env.provisionLocalClusterReaderSecret = none then
        some c
      else none

/-- The rest of the call, with what came of the core resources. -/
def Env.withCore (err : Option Err) : Env := { env with reconcileCoreSyncers := err }

variable {env w n}

structure Reaches (env : Env) (w : World) (n : String) (c : ClusterObject) : Prop
    extends Reads env w n c where
  isLocal : c.spec.clusterID = w.localID
  enabled : c.disabled = false
  list : env.conflictList = none
  alone : firstConflicting c (env.listOrder.arrange w.clusters.toList) = none
  clusterMetadata : env.clusterMetadata.isOk = true
  secret : env.provisionLocalClusterReaderSecret = none

theorem reached_eq_some {c : ClusterObject} : reached env w n = some c ↔ Reaches env w n c := by
  unfold reached
  constructor
  · intro h
    split at h
    · cases h
    · next hid =>
      split at h
      · cases h
      · next c' hread =>
        split at h
        · next hall =>
          cases h
          obtain ⟨hlocal, hen, hlist, halone, hmeta, hsecret⟩ := hall
          obtain ⟨hget, hstored⟩ := (readCluster_eq_ok env).mp hread
          refine ⟨⟨fun he => ?_, hget, hstored⟩, hlocal, hen, hlist, halone, hmeta, hsecret⟩
          exact not_not.mp fun hne => hid ⟨he, hne⟩
        · cases h
  · intro h
    have hid : ¬(w.clusterID = "" ∧ env.getClusterID ≠ none) := fun ⟨he, hne⟩ =>
      hne (h.identified he)
    have hread : w.readCluster env n = .ok c := (readCluster_eq_ok env).mpr ⟨h.get, h.stored⟩
    rw [if_neg hid, hread]
    exact if_pos ⟨h.isLocal, h.enabled, h.list, h.alone, h.clusterMetadata, h.secret⟩

theorem run_checkLocalClusterConflict_alone {d : Draft} (hlist : env.conflictList = none)
    (halone : firstConflicting d.cluster (env.listOrder.arrange w.clusters.toList) = none) :
    (checkLocalClusterConflict env d).run w =
      (.ok (none, d.setCondition env.now (localClusterConflictCondition false)), w) := by
  have hrun : (listClusters none env.listOrder).run w =
      (.ok (env.listOrder.arrange w.clusters.toList), w) := run_answer none _ w
  unfold checkLocalClusterConflict
  rw [hlist, run_attempt_bind hrun]
  dsimp only
  rw [halone]
  rfl

/-- What is left of `reconcileLocalCluster` once there is no conflict. -/
def localResult (env : Env) (d : Draft) : Option Failure × Draft :=
  match env.clusterMetadata with
  | .error e =>
    (some ⟨e, false⟩, d.setCondition env.now (clusterMetadataCondition (some ⟨e, false⟩)))
  | .ok clusterMetadata =>
    let d := d.setCondition env.now (clusterMetadataCondition none)
    ((env.provisionLocalClusterReaderSecret.or env.reconcileCoreSyncers).map (⟨·, false⟩),
      d.setStatus { d.cluster.status with clusterMetadata := clusterMetadata })

theorem run_reconcileLocalCluster_alone {d : Draft} (hlist : env.conflictList = none)
    (halone : firstConflicting d.cluster (env.listOrder.arrange w.clusters.toList) = none) :
    (reconcileLocalCluster env d).run w =
      (.ok (localResult env ((d.setCondition env.now (localClusterCondition true)).setCondition
        env.now (localClusterConflictCondition false))), w) := by
  have hcheck := @run_checkLocalClusterConflict_alone env w
    (d.setCondition env.now (localClusterCondition true)) hlist halone
  unfold reconcileLocalCluster localResult
  dsimp only
  rw [run_bind_ok hcheck]
  dsimp only
  rw [Option.isSome_none, if_neg Bool.false_ne_true]
  cases env.clusterMetadata with
  | error e => rfl
  | ok clusterMetadata =>
    dsimp only
    cases env.provisionLocalClusterReaderSecret.or env.reconcileCoreSyncers <;> rfl

/-- A call that gets that far has only the error of the core resources. -/
theorem localResult_reached (hmeta : env.clusterMetadata.isOk = true)
    (hsecret : env.provisionLocalClusterReaderSecret = none) (err : Option Err) (d : Draft) :
    ∃ d', localResult (env.withCore err) d = (err.map (⟨·, false⟩), d') := by
  refine ⟨_, Prod.ext ?_ rfl⟩
  unfold localResult
  cases hm : (env.withCore err).clusterMetadata with
  | error e =>
    have hm : env.clusterMetadata = .error e := hm
    rw [hm] at hmeta
    cases hmeta
  | ok clusterMetadata =>
    show (env.provisionLocalClusterReaderSecret.or err).map _ = _
    rw [hsecret, Option.none_or]

theorem localResult_unreached
    (h : ¬(env.clusterMetadata.isOk = true ∧ env.provisionLocalClusterReaderSecret = none))
    (err : Option Err) (d : Draft) :
    localResult (env.withCore err) d = localResult (env.withCore none) d := by
  have hmeta : ∀ err, (env.withCore err).clusterMetadata = env.clusterMetadata := fun _ => rfl
  unfold localResult
  rw [hmeta, hmeta]
  cases hm : env.clusterMetadata with
  | error e => rfl
  | ok clusterMetadata =>
    cases hs : env.provisionLocalClusterReaderSecret with
    | some e =>
      have hsecret : ∀ err, (env.withCore err).provisionLocalClusterReaderSecret = some e :=
        fun _ => hs
      dsimp only
      rw [hsecret, hsecret]
      rfl
    | none => exact absurd ⟨by rw [hm]; rfl, hs⟩ h

/-- An error of the core resources is that of the call, which is then repeated. -/
theorem run_of_core_error {c : ClusterObject} (h : Reaches env w n c) (e : Err) :
    ∃ w', (reconcile (env.withCore (some e)) n).run w = (.error ⟨e, false⟩, w') := by
  have hreads : Reads (env.withCore (some e)) w n c := ⟨h.identified, h.get, h.stored⟩
  obtain ⟨w₁, hreset, hjournal⟩ := run_resetStatus (env.withCore (some e)) true c w.identified
  have hclusters : w₁.clusters = w.clusters := (journal_eq_iff.mp hjournal).1
  have halone : firstConflicting (startDraft c (startStatus true c)).cluster
      (env.listOrder.arrange w₁.clusters.toList) = none := by
    rw [hclusters]
    exact h.alone
  have hlocal := @run_reconcileLocalCluster_alone (env.withCore (some e)) w₁
    (startDraft c (startStatus true c)) h.list halone
  obtain ⟨d, hresult⟩ := localResult_reached h.clusterMetadata h.secret (some e) _
  rw [hresult] at hlocal
  rw [run_reconcile_of_reads hreads, decide_eq_true h.isLocal]
  unfold reconcileAs
  rw [run_bind_ok hreset]
  dsimp only
  rw [h.enabled, if_neg Bool.false_ne_true]
  refine Exists.imp (fun w' hupdate => (run_bind_ok hlocal _).trans (run_bind_error hupdate _)) ?_
  exact run_updateCluster_transient _ _ _ e _ w₁

/-- A conflict, or a list that cannot be read, is an error. -/
theorem run_checkLocalClusterConflict_error {d : Draft}
    (h : ¬(env.conflictList = none ∧
      firstConflicting d.cluster (env.listOrder.arrange w.clusters.toList) = none)) :
    ∃ e d' w', (checkLocalClusterConflict env d).run w = (.ok (some e, d'), w') := by
  unfold checkLocalClusterConflict
  cases hlist : env.conflictList with
  | some e =>
    have hrun : (listClusters (some e) env.listOrder).run w = (.error ⟨e, false⟩, w) :=
      run_answer (some e) _ w
    rw [run_attempt_bind hrun]
    exact ⟨_, _, _, rfl⟩
  | none =>
    have hrun : (listClusters none env.listOrder).run w =
        (.ok (env.listOrder.arrange w.clusters.toList), w) := run_answer none _ w
    rw [run_attempt_bind hrun]
    dsimp only
    cases hfound : firstConflicting d.cluster (env.listOrder.arrange w.clusters.toList) with
    | none => exact absurd ⟨hlist, hfound⟩ h
    | some c =>
      dsimp only
      split
      · exact ⟨_, _, _, rfl⟩
      · exact ⟨_, _, _, rfl⟩

/-- What comes of the core resources does not matter to a call that does not get to them. -/
theorem run_reconcileLocalCluster_unreached {d : Draft}
    (h : ¬((env.conflictList = none ∧
      firstConflicting d.cluster (env.listOrder.arrange w.clusters.toList) = none) ∧
      env.clusterMetadata.isOk = true ∧ env.provisionLocalClusterReaderSecret = none))
    (err : Option Err) :
    (reconcileLocalCluster (env.withCore err) d).run w =
      (reconcileLocalCluster (env.withCore none) d).run w := by
  by_cases hcheck : env.conflictList = none ∧
      firstConflicting d.cluster (env.listOrder.arrange w.clusters.toList) = none
  · have hrun : ∀ err, (reconcileLocalCluster (env.withCore err) d).run w = _ := fun err =>
      run_reconcileLocalCluster_alone hcheck.1 hcheck.2
    rw [hrun, hrun, localResult_unreached fun hall => h ⟨hcheck, hall⟩]
    rfl
  · obtain ⟨e, d', w', hrun⟩ := run_checkLocalClusterConflict_error
      (d := d.setCondition env.now (localClusterCondition true)) hcheck
    have hend : ∀ err,
        (reconcileLocalCluster (env.withCore err) d).run w = (.ok (some e, d'), w') :=
      fun err => run_bind_ok (m := checkLocalClusterConflict (env.withCore err) _) hrun _
    rw [hend, hend]

/-- A call that does not get to the core resources does not depend on them. -/
theorem run_unreached (h : reached env w n = none) (err : Option Err) :
    (reconcile (env.withCore err) n).run w = (reconcile (env.withCore none) n).run w := by
  by_cases hid : w.clusterID = "" → env.getClusterID = none
  · have hread : ∀ err, (reconcile (env.withCore err) n).run w =
        (reconcileRead (env.withCore err) n (w.readCluster env n)).run w.identified := fun err =>
      (run_bind_ok (run_setClusterID_ok (env.withCore err) hid) _).trans
        (run_attempt_bind (run_answer env.get _ w.identified) _)
    rw [hread, hread]
    cases hc : w.readCluster env n with
    | error e => rfl
    | ok c =>
      have has : ∀ err, (reconcileRead (env.withCore err) n (.ok c)).run w.identified =
          (reconcileAs (env.withCore err) (c.spec.clusterID = w.localID) c).run w.identified :=
        fun _ => rfl
      rw [has, has]
      by_cases hlocal : c.spec.clusterID = w.localID
      · obtain ⟨w₁, hreset, hjournal⟩ := run_resetStatus env true c w.identified
        have hclusters : w₁.clusters = w.clusters := (journal_eq_iff.mp hjournal).1
        have hstart : ∀ err, (reconcileAs (env.withCore err) true c).run w.identified = _ :=
          fun err => run_bind_ok (m := resetStatus (env.withCore err) true c) hreset _
        rw [decide_eq_true hlocal, hstart, hstart]
        cases hen : c.disabled with
        | true => rfl
        | false =>
          have hsame := @run_reconcileLocalCluster_unreached env w₁
            (startDraft c (startStatus true c)) ?_ err
          · dsimp only
            rw [if_neg Bool.false_ne_true, if_neg Bool.false_ne_true]
            exact run_bind_congr hsame _
          · rw [hclusters]
            rintro ⟨⟨hlist, halone⟩, hmeta, hsecret⟩
            obtain ⟨hget, hstored⟩ := (readCluster_eq_ok env).mp hc
            have hreached := reached_eq_some.mpr
              ⟨⟨hid, hget, hstored⟩, hlocal, hen, hlist, halone, hmeta, hsecret⟩
            rw [h] at hreached
            cases hreached
      · rw [decide_eq_false hlocal]
        rfl
  · obtain ⟨hempty, hf⟩ := Classical.not_imp.mp hid
    obtain ⟨e, he⟩ := Option.ne_none_iff_exists'.mp hf
    have hfail : ∀ err, (reconcile (env.withCore err) n).run w = _ := fun err =>
      run_bind_error (run_setClusterID_error (env.withCore err) hempty he) _
    rw [hfail, hfail]

end

/-! ## The controller at work -/

/-- The core resources, watched by the controller of the `Cluster` resources. -/
structure CoreWorld where
  objects : Watched CoreKey CoreObject
  world : World
  started : Bool := false

namespace CoreWorld

inductive Act where
  /-- The process starts, for the first time or again. -/
  | start
  /-- Others create, change or delete a resource. -/
  | edit (k : CoreKey) (version : Option CoreObject)
  | refresh (k : CoreKey) (version : Option CoreObject)
  /-- The next event is handled; the clusters are listed for it. -/
  | handle (list : Option Err)
  /-- Others change `Cluster` resources, with the requests that follow. -/
  | clusters (clusters : Table ClusterObject.name) (requests : Finset String)
  | call (name : String) (env : Env) (core : CoreEnv)

/-- The predicate of the watch for rules; features are not watched. -/
def passes (n : Notice CoreKey CoreObject) : Bool :=
  n.key.kind = .resourceSyncRule &&
    match n.old, n.new with
    | some old, some _ => old.labelled
    | none, none => false
    | _, _ => true

def errorOf : Except Err Unit → Option Err
  | .ok _ => none
  | .error e => some e

variable (config : CoreConfig) (s : CoreWorld)

/-- The requests for an event: all clusters that are stored as local. -/
def localClusterMapFunc : Option Err → Finset String
  | some _ => ∅
  | none => ((s.world.clusters.toList.filter (·.status.type = .local)).map (·.name)).toFinset

/-- All `Cluster` resources are listed at the start. -/
def listed : Finset String := (s.world.clusters.toList.map (·.name)).toFinset

def enqueue (requests : Finset String) : World :=
  { s.world with queue := s.world.queue ∪ requests }

def step : Act → CoreWorld
  | .start =>
    { objects := { s.objects.relist with queue := ∅ }
      world := { s.world with clusterID := "", manager := ∅, instances := [], queue := s.listed }
      started := true }
  | .edit k version => { s with objects := s.objects.edit k version }
  | .refresh k version => { s with objects := s.objects.refresh k version }
  | .handle list =>
    match s.objects.notices with
    | [] => s
    | n :: rest =>
      { s with
        objects := { s.objects with notices := rest }
        world := if passes n then s.enqueue (s.localClusterMapFunc list) else s.world }
  | .clusters clusters requests =>
    { s with world := { s.enqueue requests with clusters := clusters } }
  | .call name env core =>
    match reached env (s.world.take name) name with
    | none => { s with world := s.world.handle (env.withCore none) name }
    | some cluster =>
      let (result, store) := reconcileCoreSyncers core config cluster s.objects.store
      { s with
        objects := { s.objects with store := store }
        world := s.world.handle (env.withCore (errorOf result)) name }

def Allowed : Act → Prop
  | .refresh _ _ => s.started = true
  | .handle _ => s.started = true
  | .clusters _ requests => s.started = true ∨ requests = ∅
  | .call name _ core => s.started = true ∧ name ∈ s.world.queue ∧
      core.Honest config s.objects.store
  | _ => True

end CoreWorld

def coreSyncing (config : CoreConfig) : System CoreWorld CoreWorld.Act where
  init s := s.started = false ∧ s.objects.notices = [] ∧ s.world.queue = ∅
  ok _ s a := s.Allowed config a
  step s a := s.step config a

namespace CoreWorld

section

variable (config : CoreConfig) (k : CoreKey) (s : CoreWorld)

/-- An event is ahead that counts. -/
def Ahead : Prop := ∃ n ∈ s.objects.notices, passes n = true

/-- A call is on its way. -/
def Due : Prop := s.Ahead ∨ s.world.queue ≠ ∅

def Seen : Prop := s.objects.cache.lookup k = s.objects.store.lookup k

def Wrong : Prop := s.started = true ∧ ¬s.Due ∧ s.Seen k ∧ ¬CoreFits config s.objects.store k

/-- The resource is wrong after the step, and nothing will come of it: there is no cluster
to begin with, the change is one that the watch drops or has seen, the event finds no
local cluster, or the call does not get to the core resources. -/
def Breaks : Act → Prop
  | .start => s.listed = ∅ ∧ ¬CoreFits config s.objects.store k
  | .edit k' version => k' = k ∧ s.started = true ∧ ¬s.Due ∧ s.objects.cache.lookup k = version ∧
      ¬CoreFits config (s.objects.store.set k version) k
  | .refresh k' version => k' = k ∧ ¬s.Due ∧
      passes ⟨k, s.objects.cache.lookup k, version⟩ = false ∧
      version = s.objects.store.lookup k ∧ ¬CoreFits config s.objects.store k
  | .handle list => s.world.queue = ∅ ∧ s.localClusterMapFunc list = ∅ ∧
      (∃ n rest, s.objects.notices = n :: rest ∧ passes n = true ∧ ∀ m ∈ rest, passes m = false) ∧
      s.Seen k ∧ ¬CoreFits config s.objects.store k
  | .clusters _ _ => False
  | .call name env core => ¬s.Ahead ∧ reached env (s.world.take name) name = none ∧
      (s.step config (.call name env core)).world.queue = ∅ ∧
      s.Seen k ∧ ¬CoreFits config s.objects.store k

/-- The step changes the resource, or asks for a call or makes one. -/
def Looks : Act → Prop
  | .start => True
  | .edit k' _ => k' = k
  | .refresh k' version => k' = k ∨ passes ⟨k', s.objects.cache.lookup k', version⟩ = true
  | .handle _ => False
  | .clusters _ requests => requests ≠ ∅
  | .call _ _ _ => True

end

variable {config : CoreConfig} {k : CoreKey} {s : CoreWorld}

theorem wrong_edit (k' : CoreKey) (version : Option CoreObject) :
    (s.step config (.edit k' version)).Wrong config k ↔
      s.Breaks config k (.edit k' version) ∨
        ¬s.Looks k (.edit k' version) ∧ s.Wrong config k := by
  have hstore : ∀ m, (s.objects.store.set k' version).lookup m =
      if m = k' then version else s.objects.store.lookup m := Map.lookup_set _ _ _
  by_cases hk : k' = k
  · subst hk
    have hseen : (s.step config (.edit k' version)).Seen k' ↔
        s.objects.cache.lookup k' = version := by
      show _ = (s.objects.store.set k' version).lookup k' ↔ _
      rw [hstore, if_pos rfl]
      exact Iff.rfl
    simp only [Breaks, Looks, true_and, not_true_eq_false, false_and, or_false]
    unfold Wrong
    rw [hseen]
    exact Iff.rfl
  · have hseen : (s.step config (.edit k' version)).Seen k ↔ s.Seen k := by
      show _ = (s.objects.store.set k' version).lookup k ↔ _
      rw [hstore, if_neg (Ne.symm hk)]
      exact Iff.rfl
    have hfits : CoreFits config (s.objects.store.set k' version) k ↔
        CoreFits config s.objects.store k := by
      unfold CoreFits
      rw [hstore, if_neg (Ne.symm hk)]
    simp only [Breaks, Looks, hk, false_and, not_false_eq_true, true_and, false_or]
    unfold Wrong
    rw [hseen]
    show _ ∧ _ ∧ _ ∧ ¬CoreFits config (s.objects.store.set k' version) k ↔ _
    rw [hfits]
    exact Iff.rfl

theorem due_refresh (k' : CoreKey) (version : Option CoreObject) :
    (s.step config (.refresh k' version)).Due ↔
      s.Due ∨ passes ⟨k', s.objects.cache.lookup k', version⟩ = true := by
  have hahead : (s.step config (.refresh k' version)).Ahead ↔
      s.Ahead ∨ passes ⟨k', s.objects.cache.lookup k', version⟩ = true := by
    show (∃ n ∈ s.objects.notices ++ [_], _) ↔ _
    simp only [List.mem_append, List.mem_singleton, or_and_right, exists_or, exists_eq_left]
    exact Iff.rfl
  unfold Due
  rw [hahead]
  exact or_right_comm

theorem wrong_refresh (k' : CoreKey) (version : Option CoreObject) (hs : s.started = true) :
    (s.step config (.refresh k' version)).Wrong config k ↔
      s.Breaks config k (.refresh k' version) ∨
        ¬s.Looks k (.refresh k' version) ∧ s.Wrong config k := by
  have hcache : (s.step config (.refresh k' version)).objects.cache.lookup k =
      if k = k' then version else s.objects.cache.lookup k := Watched.lookup_cache_refresh
  have hseen : (s.step config (.refresh k' version)).Seen k ↔
      (if k = k' then version else s.objects.cache.lookup k) = s.objects.store.lookup k := by
    unfold Seen
    rw [hcache]
    exact Iff.rfl
  have hstarted : (s.step config (.refresh k' version)).started = true := hs
  unfold Wrong
  rw [due_refresh, hseen, and_iff_right hstarted, and_iff_right hs, not_or]
  by_cases hk : k' = k
  · subst hk
    simp only [Breaks, Looks, true_and, true_or, not_true_eq_false, false_and, or_false, if_true,
      Bool.not_eq_true, and_assoc]
    exact Iff.rfl
  · simp only [Breaks, Looks, hk, Ne.symm hk, false_and, false_or, if_false]
    rw [and_assoc, and_left_comm]
    exact Iff.rfl

theorem wrong_handle (list : Option Err) (hs : s.started = true) :
    (s.step config (.handle list)).Wrong config k ↔
      s.Breaks config k (.handle list) ∨ s.Wrong config k := by
  cases hn : s.objects.notices with
  | nil =>
    have hstep : s.step config (.handle list) = s := by simp only [step, hn]
    have hbreaks : ¬s.Breaks config k (.handle list) := by
      rintro ⟨-, -, ⟨n, rest, hcons, -⟩, -⟩
      rw [hn] at hcons
      cases hcons
    rw [hstep, or_iff_right hbreaks]
  | cons n rest =>
    have hstep : s.step config (.handle list) =
        { s with
          objects := { s.objects with notices := rest }
          world := if passes n then s.enqueue (s.localClusterMapFunc list) else s.world } := by
      simp only [step, hn]
    have hahead : s.Ahead ↔ passes n = true ∨ ∃ m ∈ rest, passes m = true := by
      unfold Ahead
      rw [hn, List.exists_mem_cons_iff]
    rw [hstep]
    cases hp : passes n with
    | true =>
      have hnot : ¬s.Wrong config k := fun h => h.2.1 (.inl (hahead.mpr (.inl hp)))
      rw [or_iff_left hnot, if_pos rfl]
      constructor
      · rintro ⟨-, hdue, hseen, hfits⟩
        obtain ⟨hrest, hqueue⟩ := not_or.mp hdue
        obtain ⟨hempty, hnone⟩ := Finset.union_eq_empty.mp (not_not.mp hqueue)
        refine ⟨hempty, hnone, ⟨n, rest, hn, hp, fun m hm => ?_⟩, hseen, hfits⟩
        exact Bool.eq_false_iff.mpr fun hpm => hrest ⟨m, hm, hpm⟩
      · rintro ⟨hempty, hnone, ⟨n', rest', hcons, -, hrest⟩, hseen, hfits⟩
        rw [hn] at hcons
        cases hcons
        refine ⟨hs, not_or.mpr ⟨?_, not_not.mpr ?_⟩, hseen, hfits⟩
        · rintro ⟨m, hm, hpm⟩
          rw [hrest m hm] at hpm
          cases hpm
        · exact Finset.union_eq_empty.mpr ⟨hempty, hnone⟩
    | false =>
      have hbreaks : ¬s.Breaks config k (.handle list) := by
        rintro ⟨-, -, ⟨n', rest', hcons, hpass, -⟩, -⟩
        rw [hn] at hcons
        cases hcons
        exact absurd (hp.symm.trans hpass) Bool.false_ne_true
      have hdue : s.Due ↔ (∃ m ∈ rest, passes m = true) ∨ s.world.queue ≠ ∅ := by
        unfold Due
        rw [hahead, hp]
        simp only [Bool.false_eq_true, false_or]
      rw [or_iff_right hbreaks, if_neg Bool.false_ne_true]
      unfold Wrong
      rw [hdue]
      exact Iff.rfl

theorem wrong_call {name : String} {env : Env} {core : CoreEnv}
    (hok : s.Allowed config (.call name env core)) :
    (s.step config (.call name env core)).Wrong config k ↔
      s.Breaks config k (.call name env core) := by
  obtain ⟨hs, -, hhonest⟩ := hok
  cases hr : reached env (s.world.take name) name with
  | none =>
    have hstep : s.step config (.call name env core) =
        { s with world := s.world.handle (env.withCore none) name } := by simp only [step, hr]
    unfold Wrong Due
    simp only [Breaks, hstep, hr, not_or, not_not, true_and, and_assoc]
    exact and_iff_right hs
  | some cluster =>
    have hstep : s.step config (.call name env core) =
        { s with
          objects := { s.objects with store :=
            (reconcileCoreSyncers core config cluster s.objects.store).2 }
          world := s.world.handle (env.withCore (errorOf
            (reconcileCoreSyncers core config cluster s.objects.store).1)) name } := by
      simp only [step, hr]
    refine iff_of_false (fun hwrong => ?_) fun hbreaks => ?_
    · rw [hstep] at hwrong
      obtain ⟨-, hdue, -, hfits⟩ := hwrong
      cases hres : (reconcileCoreSyncers core config cluster s.objects.store).1 with
      | ok u => exact hfits (coreFits_of_ok hhonest hres k)
      | error e =>
        obtain ⟨w', hrun⟩ := run_of_core_error (reached_eq_some.mp hr) e
        refine hdue (.inr ?_)
        show (s.world.handle (env.withCore (errorOf _)) name).queue ≠ ∅
        rw [hres]
        unfold World.handle
        rw [show errorOf (.error e) = some e from rfl, hrun]
        exact Finset.insert_ne_empty _ _
    · rw [hbreaks.2.1] at hr
      cases hr

theorem wrong_start : (s.step config .start).Wrong config k ↔ s.Breaks config k .start := by
  have hahead : ¬(s.step config .start).Ahead := fun ⟨_, hn, _⟩ => nomatch hn
  have hdue : (s.step config .start).Due ↔ s.listed ≠ ∅ := or_iff_right hahead
  have hseen : (s.step config .start).Seen k := rfl
  unfold Wrong
  rw [hdue, not_not]
  exact ⟨fun ⟨_, hnone, _, hfits⟩ => ⟨hnone, hfits⟩,
    fun ⟨hnone, hfits⟩ => ⟨rfl, hnone, hseen, hfits⟩⟩

theorem wrong_clusters (clusters : Table ClusterObject.name) (requests : Finset String) :
    (s.step config (.clusters clusters requests)).Wrong config k ↔
      requests = ∅ ∧ s.Wrong config k := by
  have hdue : (s.step config (.clusters clusters requests)).Due ↔ s.Due ∨ requests ≠ ∅ := by
    show s.Ahead ∨ s.world.queue ∪ requests ≠ ∅ ↔ (s.Ahead ∨ s.world.queue ≠ ∅) ∨ requests ≠ ∅
    rw [or_assoc, ne_eq, Finset.union_eq_empty, not_and_or]
  unfold Wrong
  rw [hdue, not_or, not_not]
  constructor
  · rintro ⟨hs, ⟨hdue, hnone⟩, hseen, hfits⟩
    exact ⟨hnone, hs, hdue, hseen, hfits⟩
  · rintro ⟨hnone, hs, hdue, hseen, hfits⟩
    exact ⟨hs, ⟨hdue, hnone⟩, hseen, hfits⟩

theorem wrong_step {a : Act} (hok : s.Allowed config a) :
    (s.step config a).Wrong config k ↔
      s.Breaks config k a ∨ ¬s.Looks k a ∧ s.Wrong config k := by
  cases a with
  | start => simpa only [Looks, not_true_eq_false, false_and, or_false] using wrong_start
  | edit k' version => exact wrong_edit k' version
  | refresh k' version => exact wrong_refresh k' version hok
  | handle list =>
    simpa only [Looks, not_false_eq_true, true_and] using wrong_handle list hok
  | clusters clusters requests =>
    simpa only [Looks, Breaks, not_not, false_or] using wrong_clusters clusters requests
  | call name env core =>
    simpa only [Looks, not_true_eq_false, false_and, or_false] using wrong_call hok

/-- **Core resources that stay wrong**: in every run, with the loop in any order and any
errors, when the watch and the queue have come to rest a core resource is not as the
controller wants it exactly if something has broken it that leads to no call: there was
no cluster at the start, the watch has dropped the change (there is none for the feature)
or had it already, the event found no cluster stored as local or could not list them, or
the call was for a cluster that is deleted, not local, disabled or in conflict. -/
theorem core_differs_iff {tr : List (CoreWorld × Act)} (h : Run (coreSyncing config) tr s)
    (hstarted : s.started = true) (hnotices : s.objects.notices = [])
    (hcache : s.objects.cache = s.objects.store) (hqueue : s.world.queue = ∅) (k : CoreKey) :
    ¬CoreFits config s.objects.store k ↔ Since (Breaks config k) (Looks k) tr := by
  have hflag : s.Wrong config k ↔ Since (Breaks config k) (Looks k) tr := by
    refine h.since_iff (fun s hi hwrong => ?_) fun _ _ _ _ hok => wrong_step hok
    exact absurd (hi.1.symm.trans hwrong.1) Bool.false_ne_true
  have hdue : ¬s.Due := by
    rintro (⟨n, hn, -⟩ | hne)
    · rw [hnotices] at hn
      cases hn
    · exact hne hqueue
  have hseen : s.Seen k := by
    unfold Seen
    rw [hcache]
  rw [← hflag]
  unfold Wrong
  rw [and_iff_right hstarted, and_iff_right hdue, and_iff_right hseen]

/-- The version of a core resource that a call for the resource with UID 0 stores. -/
def stored (o : CoreObject) : Option CoreObject := some { o with controller := some 0 }

/-- Every resource is written. -/
def applying : CoreEnv where
  reconcileResource _ := .applied

/-- The feature is deleted once the core resources are there. -/
def featureGone : List (CoreWorld × Act) × CoreWorld :=
  let secrets := clusterSecretsSyncRule ⟨true, "ns"⟩
  played (coreSyncing ⟨true, "ns"⟩) []
    { objects := { store := ∅ }
      world := { kubeSystemUID := "home", clusters := Table.empty.put (localCluster "x") } }
    [.start, .call "x" .smooth applying,
      .refresh coreSyncersClusterFeature.key (stored coreSyncersClusterFeature),
      .refresh clustersSyncRule.key (stored clustersSyncRule),
      .refresh secrets.key (stored secrets),
      .refresh resourceSyncRuleSync.key (stored resourceSyncRuleSync),
      .handle none, .handle none, .handle none, .handle none, .call "x" .smooth applying,
      .edit coreSyncersClusterFeature.key none, .refresh coreSyncersClusterFeature.key none,
      .handle none]

theorem core_differs_iff_featureGone :
    Since (Breaks ⟨true, "ns"⟩ coreSyncersClusterFeature.key) (Looks coreSyncersClusterFeature.key)
      featureGone.1 := by
  have hgone : featureGone.2.objects.store.lookup coreSyncersClusterFeature.key = none := by
    decide +kernel
  have hrun : Run (coreSyncing ⟨true, "ns"⟩) featureGone.1 featureGone.2 := by
    refine .plays (.init ⟨rfl, rfl, rfl⟩) ?_
    refine ⟨trivial, ⟨rfl, by decide +kernel, fun _ _ h => nomatch h⟩, rfl, rfl, rfl, rfl, rfl, rfl,
      rfl, rfl, ⟨rfl, by decide +kernel, fun _ _ h => nomatch h⟩, trivial, rfl, rfl, trivial⟩
  refine (core_differs_iff hrun rfl (by decide +kernel) (by decide +kernel) (by decide +kernel)
    _).mp fun hfits => ?_
  obtain ⟨c, hc, -⟩ := hfits (coreSyncersClusterFeature, .present) (by decide) rfl
  rw [hgone] at hc
  cases hc

end CoreWorld

end ClusterRegistry.Members
