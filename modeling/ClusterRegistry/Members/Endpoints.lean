import ClusterRegistry.Members.Connection

/-!
# Where the connection of an instance comes from

The API server address and the certificates of an instance are worked out once,
from the spec of the resource and the kubeconfig that the call had read which
built it. A later call reuses the instance as long as the secret is the same,
and does not look at the endpoints in the spec.

The spec and the kubeconfig are in none of the fields of an instance, so they
are looked for in the past of a run: `Traced` says that every instance was built
from what the worlds passed so far held. A call in progress keeps that if each
of its sections takes place in one of these worlds.
-/

namespace ClusterRegistry.Members

open Lib Lib.Code

/-- The configuration that the build path of `getRemoteCluster` works out. -/
def builtConfig (cmd : ClientCmd) (networkName : String) (spec : ClusterSpec)
    (kubeconfig : String) : Except Err RestConfig := do
  cmd.load kubeconfig
  let overrides ← getKubeconfigOverridesForClusterByNetwork cmd spec networkName
  cmd.clientConfig kubeconfig overrides

/-- The address of the API server and the CA data. -/
def RestConfig.server (config : RestConfig) : String × String := (config.host, config.caData)

def builtServer (cmd : ClientCmd) (networkName : String) (spec : ClusterSpec)
    (kubeconfig : String) : Except Err (String × String) :=
  (builtConfig cmd networkName spec kubeconfig).map RestConfig.server

/-- The secret holds the kubeconfig. -/
def World.Offers (w : World) (ref : NamespacedName) (kubeconfig : String) : Prop :=
  ∃ secret, w.secrets.lookup ref = some secret ∧ secret.type = secretTypeClusterRegistry ∧
    secret.data.lookup kubeconfigKey = some kubeconfig

/-- The worlds passed so far, under a configuration that stays the same. -/
structure Past where
  passed : World → Prop
  cmd : ClientCmd
  networkName : String

namespace Past

/-- The resource had the spec at some time. -/
def Had (past : Past) (name : String) (spec : ClusterSpec) : Prop :=
  ∃ w c, past.passed w ∧ w.clusters.get name = some c ∧ c.spec = spec

def Held (past : Past) (ref : NamespacedName) (kubeconfig : String) : Prop :=
  ∃ w, past.passed w ∧ w.Offers ref kubeconfig

/-- The instance was built from the spec, and from a kubeconfig in the secret to
which the spec refers. -/
structure BuiltFrom (past : Past) (i : Instance) (spec : ClusterSpec) : Prop where
  had : past.Had i.name spec
  held : past.Held spec.secretRef i.kubeconfig
  secretID : i.secretID = some spec.secretRef.string
  config : builtConfig past.cmd past.networkName spec i.kubeconfig = .ok i.config

def Traced (past : Past) (w : World) : Prop := ∀ i ∈ w.instances, ∃ spec, past.BuiltFrom i spec

/-- The call was given the configuration. -/
def Configures (past : Past) (env : Env) : Prop :=
  env.cmd = past.cmd ∧ env.networkName = past.networkName

/-- Each section of the call that takes place in a world passed keeps every
instance traced, and the result is in `Q`. -/
def Vouches (past : Past) {ε α : Type} (c : Code World ε α)
    (Q : Except ε α → Prop := fun _ => True) : Prop :=
  ∀ w, c.Ensures (fun _ => past.passed) (fun w w' => past.Traced w → past.Traced w')
    (fun r _ => Q r) w

end Past

variable {past : Past}

/-! ## Changes of the instances -/

theorem Past.Traced.of_instances {w w' : World} (h : past.Traced w)
    (e : w'.instances = w.instances) : past.Traced w' := by
  unfold Past.Traced
  rwa [e]

/-- Where an instance came from is written in its fixed part. -/
theorem traced_iff_fixed {w : World} :
    past.Traced w ↔ ∀ i ∈ w.instances.map Instance.fixed, ∃ spec, past.BuiltFrom i spec := by
  have hfixed : ∀ i spec, past.BuiltFrom i.fixed spec ↔ past.BuiltFrom i spec := fun i spec =>
    ⟨fun h => ⟨h.had, h.held, h.secretID, h.config⟩, fun h => ⟨h.had, h.held, h.secretID, h.config⟩⟩
  simp only [Past.Traced, List.forall_mem_map, hfixed]

theorem traced_modify {w : World} (h : past.Traced w) (id : Nat) {f : Instance → Instance}
    (hf : ∀ i spec, past.BuiltFrom i spec → past.BuiltFrom (f i) spec) :
    past.Traced { w with instances := w.instances.modify id f } := by
  intro i hi
  obtain ⟨j, hj⟩ := List.mem_iff_getElem?.mp hi
  dsimp only at hj
  rw [List.getElem?_modify] at hj
  obtain ⟨i₀, hi₀, e⟩ := Option.map_eq_some_iff.mp hj
  obtain ⟨spec, hspec⟩ := h i₀ (List.mem_of_getElem? hi₀)
  refine ⟨spec, e ▸ ?_⟩
  split
  · exact hf i₀ spec hspec
  · exact hspec

theorem traced_append {w : World} {i : Instance} {spec : ClusterSpec} (h : past.Traced w)
    (hi : past.BuiltFrom i spec) : past.Traced { w with instances := w.instances ++ [i] } := by
  intro j hj
  rcases List.mem_append.mp hj with hj | hj
  · exact h j hj
  · cases List.mem_singleton.mp hj
    exact ⟨spec, hi⟩

/-! ## Calls that keep every instance traced -/

section

variable {ε ε' α β : Type}

/-- What the first call returned is known to the rest. -/
theorem Past.Vouches.bind {Q : Except ε α → Prop} {m : Code World ε α} {f : α → Code World ε β}
    (hm : past.Vouches m Q) (hok : ∀ a, Q (.ok a) → past.Vouches (f a)) :
    past.Vouches (m >>= f) :=
  fun w => (hm w).bind (fun _ _ _ => trivial) fun a t ha => hok a ha t

theorem Past.Vouches.bindAttempt {Q : Except ε' α → Prop} {m : Code World ε' α}
    {f : Except ε' α → Code World ε β} (hm : past.Vouches m Q)
    (hok : ∀ r, Q r → past.Vouches (f r)) : past.Vouches (m.attempt >>= f) :=
  fun w => (hm w).bindAttempt fun r t hr => hok r hr t

theorem Past.Vouches.mapError {m : Code World ε' α} (h : past.Vouches m) (g : ε' → ε) :
    past.Vouches (m.mapError g) :=
  fun w => ((h w).mono fun r _ _ => by cases r <;> trivial).mapError

theorem vouches_pure (a : α) : past.Vouches (pure a : Code World ε α) := fun _ => trivial

theorem vouches_fail (e : ε) : past.Vouches (fail e : Code World ε α) := fun _ => trivial

theorem vouches_of_quiet {c : Code World ε α} (h : Quiet World.connections c) : past.Vouches c := by
  intro w
  refine (h.yields.ensures (I := fun _ => True) (fun s t hv ht => ?_) (fun _ _ _ h => h)
    (fun _ _ _ h => h) trivial).mono fun _ _ h => h.1
  exact ht.of_instances (congrArg Prod.snd (hv ()))

theorem vouches_write {f : World → World} (h : ∀ w, past.Traced w → past.Traced (f w)) :
    past.Vouches (write f : Code World ε Unit) :=
  fun _ t _ => ⟨h t, trivial⟩

theorem vouches_ofExcept (r : Except ε' α) (g : ε' → ε) :
    past.Vouches ((ofExcept r : Code World ε' α).mapError g)
      fun r' => ∀ a, r' = .ok a → r = .ok a := by
  intro w
  cases r with
  | error e => exact fun _ h => nomatch h
  | ok a => exact fun _ h => by cases h; rfl

/-- What a call finds, it finds in a world passed. -/
theorem vouches_answer {fault : Option Err} {f : World → Except Failure α}
    {Q : Except Failure α → Prop} (hfault : ∀ e, Q (.error e)) (hf : ∀ w, past.passed w → Q (f w)) :
    past.Vouches (answer fault f) Q := by
  refine fun w => ensures_atomic fun t ht => ?_
  cases fault with
  | some e => exact ⟨id, hfault _⟩
  | none => exact ⟨id, hf t ht⟩

end

/-! ## The calls of the reconciler -/

theorem vouches_managerRemove (id : Nat) : past.Vouches (managerRemove id) := by
  refine (vouches_of_quiet (Quiet.read _)).bind fun found _ => ?_
  cases found with
  | none => exact vouches_pure _
  | some i =>
    refine vouches_write fun w hw => ?_
    have hstop := traced_modify hw id (f := Instance.stop) fun i spec h =>
      ⟨h.had, h.held, h.secretID, h.config⟩
    exact hstop.of_instances rfl

theorem vouches_removeExisting (found : Option Nat) :
    past.Vouches (removeExisting found) := by
  cases found with
  | none => exact vouches_pure _
  | some id => exact vouches_managerRemove id

theorem vouches_removeRemoteCluster (n : String) :
    past.Vouches (removeRemoteCluster n) := by
  refine (vouches_of_quiet (Quiet.read _)).bind fun found _ => ?_
  cases found with
  | none => exact vouches_fail _
  | some id => exact vouches_managerRemove id

theorem vouches_removeIfFound (n : String) : past.Vouches (removeIfFound n) := by
  refine (vouches_removeRemoteCluster n).bindAttempt fun r _ => ?_
  cases r with
  | ok u => exact vouches_pure _
  | error e =>
    dsimp only
    split
    · exact vouches_fail _
    · exact vouches_pure _

theorem vouches_newInstance {cluster : ClusterObject} {kubeconfig : String} {config : RestConfig}
    (had : past.Had cluster.name cluster.spec)
    (held : past.Held cluster.spec.secretRef kubeconfig)
    (hconfig : builtConfig past.cmd past.networkName cluster.spec kubeconfig = .ok config) :
    past.Vouches (newInstance cluster kubeconfig config) :=
  fun _ _ _ => ⟨fun ht => traced_append ht ⟨had, held, rfl, hconfig⟩, trivial⟩

theorem vouches_startInstance (env : Env) (id : Nat) :
    past.Vouches (startInstance env id) := by
  unfold startInstance
  cases env.livenessCheck with
  | error e => exact vouches_fail _
  | ok uid =>
    exact vouches_write fun w hw =>
      traced_modify hw id fun i spec h => ⟨h.had, h.held, h.secretID, h.config⟩

theorem vouches_managerAdd (id : Nat) : past.Vouches (managerAdd id) := by
  refine vouches_write fun w hw => hw.of_instances ?_
  cases w.instances[id]? <;> rfl

section

variable {env : Env} (henv : past.Configures env)

include henv

/-- The configuration of a new instance is the one worked out from the spec. -/
theorem vouches_buildInstance {cluster : ClusterObject} {kubeconfig : String}
    (had : past.Had cluster.name cluster.spec)
    (held : past.Held cluster.spec.secretRef kubeconfig) :
    past.Vouches (buildInstance env cluster kubeconfig) := by
  have hquiet : ∀ (fault : Option Err) (g : Failure → Failure),
      past.Vouches ((outcome fault).mapError g) := fun fault g =>
    vouches_of_quiet (quiet_outcome fault).mapError
  refine (vouches_ofExcept _ _).bind fun _ hload => ?_
  refine (vouches_ofExcept _ _).bind fun overrides hoverrides => ?_
  refine (vouches_ofExcept _ _).bind fun config hconfig => ?_
  have hbuilt : builtConfig past.cmd past.networkName cluster.spec kubeconfig = .ok config := by
    unfold builtConfig
    rw [← henv.1, ← henv.2, hload _ rfl, hoverrides _ rfl]
    exact hconfig _ rfl
  refine (hquiet _ _).bind fun _ _ => ?_
  refine (vouches_newInstance had held hbuilt).bind fun id _ => ?_
  refine (hquiet _ _).bind fun _ _ => ?_
  refine (hquiet _ _).bind fun _ _ => ?_
  refine ((vouches_startInstance env id).mapError _).bind fun _ _ => ?_
  exact (vouches_managerAdd id).bind fun _ _ => vouches_pure _

theorem vouches_getRemoteCluster {cluster : ClusterObject}
    (had : past.Had cluster.name cluster.spec) :
    past.Vouches (getRemoteCluster env cluster) := by
  have hsecret : past.Vouches (getK8SConfigForCluster env cluster.spec.secretRef) fun r =>
      ∀ kubeconfig, r = .ok kubeconfig → past.Held cluster.spec.secretRef kubeconfig := by
    refine vouches_answer (fun _ _ h => nomatch h) fun w hw kubeconfig h => ⟨w, hw, ?_⟩
    cases hs : w.secrets.lookup cluster.spec.secretRef with
    | none => simp [hs] at h
    | some secret =>
      by_cases ht : secret.type = secretTypeClusterRegistry
      · cases hd : secret.data.lookup kubeconfigKey with
        | none => simp [hs, ht, hd] at h
        | some content =>
          have e : content = kubeconfig := by simpa [hs, ht, hd] using h
          exact ⟨secret, hs, ht, e ▸ hd⟩
      · simp [hs, ht] at h
  refine ((vouches_of_quiet (Quiet.read _)).mapError _).bind fun found _ => ?_
  refine hsecret.bindAttempt fun r hr => ?_
  cases r with
  | error e => exact ((vouches_removeExisting found).mapError _).bind fun _ _ => vouches_fail _
  | ok kubeconfig =>
    have hbuild : ∀ state : ClusterState,
        past.Vouches ((buildInstance env cluster kubeconfig).mapError (·, state)) := fun _ =>
      (vouches_buildInstance henv had (hr _ rfl)).mapError _
    cases found with
    | none => exact hbuild _
    | some id =>
      refine (vouches_of_quiet (Quiet.read _)).bind fun found _ => ?_
      cases found with
      | none => exact hbuild _
      | some i =>
        dsimp only
        split
        · exact vouches_fail _
        split
        · exact vouches_pure _
        · exact ((vouches_managerRemove id).mapError _).bind fun _ _ => hbuild _

theorem vouches_reconcileRemoteCluster {d : Draft}
    (had : past.Had d.cluster.name d.cluster.spec) :
    past.Vouches (reconcileRemoteCluster env d) := by
  unfold reconcileRemoteCluster
  dsimp only
  split
  · exact vouches_pure _
  · refine (vouches_getRemoteCluster henv had).bindAttempt fun r _ => ?_
    cases r <;> exact vouches_pure _

theorem vouches_reconcileAs (isClusterLocal : Bool) {cluster : ClusterObject}
    (had : past.Had cluster.name cluster.spec) :
    past.Vouches (reconcileAs env isClusterLocal cluster) := by
  have hreset : past.Vouches (resetStatus env isClusterLocal cluster) := by
    cases isClusterLocal with
    | true => exact (vouches_removeIfFound _).bind fun _ _ => vouches_pure _
    | false => exact vouches_pure _
  refine hreset.bind fun status _ => ?_
  dsimp only
  split
  · refine (vouches_removeIfFound _).bind fun _ _ => ?_
    refine (vouches_of_quiet (quiet_updateCluster _ _ _ _ _)).bind fun d _ => ?_
    exact vouches_of_quiet (quiet_finishReconcile env _ _ _)
  · cases isClusterLocal with
    | true =>
      refine (vouches_of_quiet (quiet_reconcileLocalCluster env _)).bind fun p _ => ?_
      exact vouches_of_quiet (quiet_finishReconcile env _ _ _)
    | false =>
      refine Past.Vouches.bind (vouches_reconcileRemoteCluster henv had) fun p _ => ?_
      exact vouches_of_quiet (quiet_finishReconcile env _ _ _)

/-- **One call** builds an instance only from what it has read. -/
theorem vouches_reconcile (n : String) : past.Vouches (reconcile env n) := by
  have hget : past.Vouches (getCluster env.get n) fun r =>
      ∀ c, r = .ok c → past.Had c.name c.spec := by
    refine vouches_answer (fun _ _ h => nomatch h) fun w hw c h => ?_
    cases hc : w.clusters.get n with
    | none => simp [hc] at h
    | some c₀ =>
      have e : c₀ = c := by simpa [hc] using h
      subst e
      exact ⟨w, c₀, hw, (Table.key_of_get hc).symm ▸ hc, rfl⟩
  refine (vouches_of_quiet (quiet_setClusterID env)).bind fun _ _ => ?_
  refine hget.bindAttempt fun r hr => ?_
  cases r with
  | ok c =>
    refine (vouches_of_quiet (Quiet.read _)).bind fun _ _ => ?_
    exact vouches_reconcileAs henv _ (hr c rfl)
  | error e =>
    unfold reconcileRead
    dsimp only
    split
    · refine (vouches_removeIfFound n).bind fun _ _ => ?_
      exact vouches_of_quiet (quiet_triggerLocalClusterReconciles env)
    · exact vouches_fail _

end

/-! ## Runs -/

section

variable {workers : Nat}

/-- The calls are given one configuration. -/
def Pool.Act.Configured (cmd : ClientCmd) (networkName : String) : Pool.Act workers → Prop
  | .begin _ _ env => env.cmd = cmd ∧ env.networkName = networkName
  | .turn _ => True
  | .others _ => True

/-- Every instance is traced, and every call in progress keeps that. -/
structure Past.Covers (past : Past) (p : Pool workers) : Prop where
  world : past.Traced p.world
  jobs : ∀ i n c, p.jobs i = some (n, c) → past.Vouches c

theorem covers_step {p : Pool workers} {a : Pool.Act workers} (ha : p.Allowed a)
    (hconf : a.Configured past.cmd past.networkName) (hp : past.passed p.world)
    (h : past.Covers p) : past.Covers (p.step a) := by
  cases a with
  | begin i name env =>
    refine ⟨h.world, fun j n c hj => ?_⟩
    have hj' : Function.update p.jobs i (some (name, reconcile env name)) j = some (n, c) := hj
    rw [Function.update_apply] at hj'
    split at hj'
    · cases hj'
      exact vouches_reconcile hconf name
    · exact h.jobs j n c hj'
  | turn i =>
    unfold Pool.step
    dsimp only
    split
    · next name upd next hi =>
      have hsect := h.jobs i name _ hi p.world p.world hp
      refine ⟨hsect.1 h.world, fun j n c hj => ?_⟩
      dsimp only at hj
      rw [Function.update_apply] at hj
      split at hj
      · cases hnext : next p.world with
        | ret a => rw [hnext] at hj; cases hj
        | fail e => rw [hnext] at hj; cases hj
        | sect upd' next' =>
          have hrest := hsect.2
          rw [hnext] at hj hrest
          cases hj
          exact fun _ => hrest
      · exact h.jobs j n c hj
    · exact h
  | others w =>
    refine ⟨traced_iff_fixed.mpr ?_, h.jobs⟩
    have hfixed : w.instances.map Instance.fixed = p.world.instances.map Instance.fixed := ha.2
    rw [show (p.step (.others w)).world.instances = w.instances from rfl, hfixed]
    exact traced_iff_fixed.mp h.world

/-- The worlds of a run. -/
def pastOf (tr : List (Pool workers × Pool.Act workers)) (p : Pool workers) (cmd : ClientCmd)
    (networkName : String) : Past where
  passed w := ∃ q ∈ states tr p, q.world = w
  cmd := cmd
  networkName := networkName

/-- **Every instance has an origin**: in a run under one configuration it was
built from a spec that the resource had, and a kubeconfig that the secret held,
at some time before. -/
theorem traced_of_run {tr : List (Pool workers × Pool.Act workers)} {p : Pool workers}
    {cmd : ClientCmd} {networkName : String} (h : Run (pool workers) tr p)
    (hconf : ∀ x ∈ tr, x.2.Configured cmd networkName) :
    (pastOf tr p cmd networkName).Traced p.world := by
  suffices hpart : ∀ past : Past, (∀ x ∈ tr, x.2.Configured past.cmd past.networkName) →
      (∀ q ∈ states tr p, past.passed q.world) → past.Covers p from
    (hpart (pastOf tr p cmd networkName) hconf fun q hq => ⟨q, hq, rfl⟩).world
  clear hconf
  intro past
  induction h with
  | init hi =>
    obtain ⟨hidle, -, hnone⟩ := hi
    refine fun _ _ => ⟨fun i hin => ?_, fun i n c hj => ?_⟩
    · rw [hnone] at hin
      cases hin
    · exact absurd ((hidle i).symm.trans hj) (by simp)
  | @step tr p a hr hok ih =>
    intro hconf hpassed
    obtain ⟨ha, hconf⟩ := List.forall_mem_cons.mp hconf
    obtain ⟨-, hpassed⟩ := List.forall_mem_cons.mp hpassed
    exact covers_step hok ha (hpassed p List.mem_cons_self) (ih hconf hpassed)

end

/-! ## What the endpoint decides -/

/-- The override for an address, none for the empty one. -/
def ClientCmd.address (cmd : ClientCmd) (address : String) : Except Err String :=
  if address = "" then .ok "" else cmd.urlWithHTTPSScheme address

/-- What an endpoint says about the API server. -/
def KubernetesAPIEndpoint.server (e : KubernetesAPIEndpoint) : String × String :=
  (e.serverAddress, e.caBundle)

/-- An override, or what the kubeconfig has if it is empty. -/
def overridden (own override : String) : String := if override = "" then own else override

/-- Two overrides are equal, or one is empty and the other repeats what the kubeconfig has. -/
def Coincide (own a b : String) : Prop := a = b ∨ a = "" ∧ b = own ∨ b = "" ∧ a = own

theorem overridden_eq_iff {own a b : String} :
    overridden own a = overridden own b ↔ Coincide own a b := by
  unfold overridden Coincide
  by_cases ha : a = ""
  · by_cases hb : b = ""
    · simp [ha, hb]
    · simp [ha, hb, eq_comm]
  · by_cases hb : b = ""
    · simp [ha, hb]
    · simp [ha, hb]

/-- `clientcmd` takes from the kubeconfig, which has `own`, what the endpoint leaves open. -/
def ClientCmd.Merges (cmd : ClientCmd) (kubeconfig : String) (own : String × String)
    (e : KubernetesAPIEndpoint) : Prop :=
  ∀ url config, cmd.address e.serverAddress = .ok url →
    cmd.clientConfig kubeconfig ⟨url, e.caBundle⟩ = .ok config →
      config.server = (overridden own.1 url, overridden own.2 e.caBundle)

/-- The endpoints name one API server over a kubeconfig which has `own`: the addresses have
one URL and the CA bundles are equal, up to repeating the kubeconfig. -/
structure ClientCmd.SameServer (cmd : ClientCmd) (own : String × String)
    (e e' : KubernetesAPIEndpoint) : Prop where
  address : ∀ url url', cmd.address e.serverAddress = .ok url →
    cmd.address e'.serverAddress = .ok url' → Coincide own.1 url url'
  caBundle : Coincide own.2 e.caBundle e'.caBundle

theorem merges_bare (kubeconfig : String) (e : KubernetesAPIEndpoint) :
    ClientCmd.bare.Merges kubeconfig ("", "") e := by
  have hself : ∀ a, overridden "" a = a := fun a => ite_eq_right_iff.mpr Eq.symm
  rintro url config - ⟨⟩
  rw [hself, hself]
  rfl

section

variable {cmd : ClientCmd} {spec : ClusterSpec} {networkName kubeconfig : String}
  {config : RestConfig}

/-- The overrides are those of the endpoint that is selected. -/
theorem overrides_eq_ok_iff {o : ConfigOverrides} :
    getKubeconfigOverridesForClusterByNetwork cmd spec networkName = .ok o ↔
      cmd.address (getEndpointForClusterByNetwork spec networkName).serverAddress = .ok o.server ∧
        (getEndpointForClusterByNetwork spec networkName).caBundle =
          o.certificateAuthorityData := by
  obtain ⟨server, ca⟩ := o
  unfold getKubeconfigOverridesForClusterByNetwork ClientCmd.address
  split
  · next hnone =>
    have hempty : getEndpointForClusterByNetwork spec networkName = {} := by
      rw [getEndpointForClusterByNetwork, List.isEmpty_iff.mp hnone]
      rfl
    simp [hempty]
  · by_cases hne : (getEndpointForClusterByNetwork spec networkName).serverAddress = ""
    · simp [hne]
    · dsimp only
      rw [if_pos hne, if_neg hne]
      split
      · next e hurl => simp [hurl]
      · next url hurl => simp [hurl]

theorem builtConfig_eq_ok :
    builtConfig cmd networkName spec kubeconfig = .ok config ↔ cmd.load kubeconfig = .ok () ∧
      ∃ o, getKubeconfigOverridesForClusterByNetwork cmd spec networkName = .ok o ∧
        cmd.clientConfig kubeconfig o = .ok config := by
  unfold builtConfig
  cases cmd.load kubeconfig with
  | error e => exact iff_of_false nofun fun h => nomatch h.1
  | ok u =>
    cases getKubeconfigOverridesForClusterByNetwork cmd spec networkName with
    | error e => exact iff_of_false nofun fun ⟨_, _, h, _⟩ => nomatch h
    | ok o =>
      refine ⟨fun h => ⟨rfl, o, rfl, h⟩, ?_⟩
      rintro ⟨-, o', ho, h⟩
      cases ho
      exact h

variable {spec' : ClusterSpec} {networkName' : String}

/-- One endpoint and one kubeconfig give one configuration. -/
theorem builtConfig_of_endpoint (h : builtConfig cmd networkName spec kubeconfig = .ok config)
    (hsame : (getEndpointForClusterByNetwork spec networkName).server =
      (getEndpointForClusterByNetwork spec' networkName').server) :
    builtConfig cmd networkName' spec' kubeconfig = .ok config := by
  obtain ⟨haddress, hca⟩ := Prod.mk.inj hsame
  obtain ⟨hload, o, ho, hclient⟩ := builtConfig_eq_ok.mp h
  rw [overrides_eq_ok_iff, haddress, hca] at ho
  exact builtConfig_eq_ok.mpr ⟨hload, o, overrides_eq_ok_iff.mpr ho, hclient⟩

/-- The server of a connection is made of the endpoint and the kubeconfig. -/
theorem builtConfig_server {own : String × String}
    (hmerges : cmd.Merges kubeconfig own (getEndpointForClusterByNetwork spec networkName))
    (h : builtConfig cmd networkName spec kubeconfig = .ok config) :
    ∃ url, cmd.address (getEndpointForClusterByNetwork spec networkName).serverAddress = .ok url ∧
      config.server = (overridden own.1 url,
        overridden own.2 (getEndpointForClusterByNetwork spec networkName).caBundle) := by
  obtain ⟨-, ⟨url, ca⟩, ho, hclient⟩ := builtConfig_eq_ok.mp h
  obtain ⟨haddress, rfl⟩ := overrides_eq_ok_iff.mp ho
  exact ⟨url, haddress, hmerges url config haddress hclient⟩

theorem sameServer_iff {config' : RestConfig} {own : String × String}
    (hmerges : cmd.Merges kubeconfig own (getEndpointForClusterByNetwork spec networkName))
    (hmerges' : cmd.Merges kubeconfig own (getEndpointForClusterByNetwork spec' networkName'))
    (h : builtConfig cmd networkName spec kubeconfig = .ok config)
    (h' : builtConfig cmd networkName' spec' kubeconfig = .ok config') :
    config.server = config'.server ↔
      cmd.SameServer own (getEndpointForClusterByNetwork spec networkName)
        (getEndpointForClusterByNetwork spec' networkName') := by
  obtain ⟨url, haddress, hserver⟩ := builtConfig_server hmerges h
  obtain ⟨url', haddress', hserver'⟩ := builtConfig_server hmerges' h'
  rw [hserver, hserver', Prod.mk.injEq, overridden_eq_iff, overridden_eq_iff]
  constructor
  · rintro ⟨hurl, hca⟩
    refine ⟨fun a a' ha ha' => ?_, hca⟩
    cases haddress.symm.trans ha
    cases haddress'.symm.trans ha'
    exact hurl
  · rintro ⟨hurl, hca⟩
    exact ⟨hurl url url' haddress haddress', hca⟩

end

theorem builtServer_eq_ok {cmd : ClientCmd} {networkName kubeconfig : String} {spec : ClusterSpec}
    {server : String × String} : builtServer cmd networkName spec kubeconfig = .ok server ↔
      ∃ config, builtConfig cmd networkName spec kubeconfig = .ok config ∧
        config.server = server := by
  unfold builtServer
  cases builtConfig cmd networkName spec kubeconfig with
  | error e => exact iff_of_false nofun fun ⟨_, h, _⟩ => nomatch h
  | ok config => simp [Except.map]

/-! ## Reuse -/

section

variable (env : Env) {w : World} {c : ClusterObject}

/-- A call run alone, of which nothing is asked. -/
theorem sees_whole {ε α : Type} (m : Code World ε α) :
    Sees whole () (fun _ => True) m fun _ _ => True := by
  induction m with
  | ret a => exact fun _ _ => trivial
  | fail e => exact fun _ _ => trivial
  | sect upd next ih =>
    exact Sees.sect (B := fun _ _ => True) (fun _ _ => ⟨fun _ h => absurd rfl h, trivial⟩) ih

/-- A new instance gets the next position. -/
theorem fresh_buildInstance (kubeconfig : String) (k : Nat) :
    Sees whole () (fun w => w.instances.length = k) (buildInstance env c kubeconfig)
      fun r _ => ∀ id, r = .ok id → id = k := by
  have hquiet : ∀ fault, Quiet whole (outcome fault) := fun fault => by
    cases fault <;> exact trivial
  unfold buildInstance
  refine Sees.bind (Quiet.ofExcept _).mapError.sees (fun _ _ _ _ h => nomatch h) fun _ => ?_
  refine Sees.bind (Quiet.ofExcept _).mapError.sees (fun _ _ _ _ h => nomatch h) fun _ => ?_
  refine Sees.bind (Quiet.ofExcept _).mapError.sees (fun _ _ _ _ h => nomatch h) fun config => ?_
  refine Sees.bind (hquiet _).mapError.sees (fun _ _ _ _ h => nomatch h) fun _ => ?_
  refine Sees.bindOk (B := fun id _ => id = k ∧ True) ?_ fun id => Sees.given fun hid => ?_
  · exact Sees.sect (B := fun s _ => s.instances.length = k)
      (fun s hs => ⟨fun _ h => absurd rfl h, hs⟩) fun s => Sees.pure fun _ h => ⟨_, rfl, h, trivial⟩
  refine Sees.bind (sees_whole _) (fun _ _ _ _ h => nomatch h) fun _ => ?_
  refine Sees.bind (sees_whole _) (fun _ _ _ _ h => nomatch h) fun _ => ?_
  refine Sees.bind (sees_whole _) (fun _ _ _ _ h => nomatch h) fun _ => ?_
  refine Sees.bind (sees_whole _) (fun _ _ _ _ h => nomatch h) fun _ => ?_
  exact Sees.pure fun _ _ j hj => by cases hj; exact hid

/-- The instance that is registered is what `getRemoteCluster` returns for the
resource. -/
def Reuses (w : World) (c : ClusterObject) (id : Nat) : Prop :=
  w.manager.lookup c.name = some id ∧ ((getRemoteCluster env c).run w).1 = .ok id

/-- An instance is reused if it is alive and its credentials are not seen to
have changed. -/
theorem Reuses.unchanged {id : Nat} (h : Reuses env w c id) (ht : (w.view c.name).Tidy) :
    ∃ i kubeconfig, w.instances[id]? = some i ∧ i.alive = true ∧
      Readable env w c.spec.secretRef kubeconfig ∧
      credentialsChanged i c.spec.secretRef.string kubeconfig = false := by
  obtain ⟨hid, hret⟩ := h
  obtain ⟨i, hi, hname⟩ := ownInstance_ne_none (ht.registered_own id hid)
  obtain ⟨kubeconfig, hr, -⟩ | ⟨e, he⟩ := run_getK8SConfigForCluster env c.spec.secretRef w
  · refine ⟨i, kubeconfig, hi, ?_, hr, ?_⟩
    all_goals rw [run_getRemoteCluster_registered env hr hid hi] at hret
    · by_contra halive
      rw [if_pos (by simp [halive])] at hret
      cases hret
    · by_contra hchanged
      have hlt : id < w.instances.length := (List.getElem?_eq_some_iff.mp hi).1
      have hremoved : ((managerRemove id).mapError (·, c.status.state)).run w =
          (.ok (), w.remove id c.name) := by
        rw [run_mapError, run_managerRemove hi (by rw [hname, hid]; simp), hname]
        rfl
      split at hret
      · cases hret
      rw [if_neg (by simpa using hchanged), run_bind_ok hremoved, run_mapError] at hret
      have hnew := (fresh_buildInstance env (c := c) kubeconfig w.instances.length).ends
        (s := w.remove id c.name) (by simp [whole, World.remove])
      unfold Eff.Ends at hnew
      cases hb : ((buildInstance env c kubeconfig).run (w.remove id c.name)).1 with
      | error e => rw [hb] at hret; cases hret
      | ok id' =>
        rw [hb] at hret hnew
        cases hret
        exact absurd (hnew id rfl) hlt.ne
  · rw [run_getRemoteCluster_unreadable env he] at hret
    rcases hm : ((removeExisting (w.manager.lookup c.name)).mapError
      fun f => (f, ClusterState.invalidAuthInfo)).run w with ⟨e' | u, w'⟩
    · rw [run_bind_error hm] at hret
      cases hret
    · rw [run_bind_ok hm] at hret
      cases hret

end

theorem credentials_same {i : Instance} {ref ref' : NamespacedName} {kubeconfig : String}
    (h : credentialsChanged i ref.string kubeconfig = false)
    (hid : i.secretID = some ref'.string) :
    ref'.string = ref.string ∧ (i.kubeconfig = "" ∨ i.kubeconfig = kubeconfig) := by
  unfold credentialsChanged at h
  simp only [hid, Option.isSome_some, Bool.true_and, Bool.or_eq_false_iff, bne_eq_false_iff_eq,
    Option.some.injEq, Bool.and_eq_false_iff] at h
  exact ⟨h.1, h.2.imp_right Eq.symm⟩

/-- **Reuse against rebuilding**: where `getRemoteCluster` returns the registered
instance for a resource, and the kubeconfig is the one it was built from, the API
server address and the CA data of the instance are those that the build path would
work out now, if the endpoint selected for the network has the address and the CA
bundle that it had then. With a `clientcmd` that takes from the kubeconfig what the
endpoint leaves open, they are so exactly if the two endpoints name one server. -/
theorem reuse_agrees_iff (workers : Nat) (tr : List (Pool workers × Pool.Act workers))
    (p : Pool workers) (h : Run (pool workers) tr p) (env : Env) (networkName : String)
    (hconf : ∀ x ∈ tr, x.2.Configured env.cmd networkName) (c : ClusterObject)
    (hn : p.Free c.name) (id : Nat) (hreuse : Reuses env p.world c id) :
    ∃ i kubeconfig, p.world.instances[id]? = some i ∧ i.alive = true ∧
      Readable env p.world c.spec.secretRef kubeconfig ∧
      (∃ spec, (pastOf tr p env.cmd networkName).BuiltFrom i spec) ∧
      ∀ spec, (pastOf tr p env.cmd networkName).BuiltFrom i spec →
        spec.secretRef.string = c.spec.secretRef.string ∧
        (i.kubeconfig = "" ∨ i.kubeconfig = kubeconfig) ∧
        (i.kubeconfig = kubeconfig →
          (getEndpointForClusterByNetwork spec networkName).server =
              (getEndpointForClusterByNetwork c.spec env.networkName).server →
            builtServer env.cmd env.networkName c.spec kubeconfig = .ok i.config.server) ∧
        (i.kubeconfig = kubeconfig → ∀ own,
          env.cmd.Merges kubeconfig own (getEndpointForClusterByNetwork spec networkName) →
          env.cmd.Merges kubeconfig own (getEndpointForClusterByNetwork c.spec env.networkName) →
          ∀ server, builtServer env.cmd env.networkName c.spec kubeconfig = .ok server →
            (i.config.server = server ↔ env.cmd.SameServer own
              (getEndpointForClusterByNetwork spec networkName)
              (getEndpointForClusterByNetwork c.spec env.networkName))) := by
  obtain ⟨i, kubeconfig, hi, halive, hr, hsame⟩ := hreuse.unchanged env (tidy_of_free h hn)
  refine ⟨i, kubeconfig, hi, halive, hr, traced_of_run h hconf i (List.mem_of_getElem? hi), ?_⟩
  intro spec hspec
  obtain ⟨href, hcontent⟩ := credentials_same hsame hspec.secretID
  have hbuilt : builtConfig env.cmd networkName spec i.kubeconfig = .ok i.config := hspec.config
  refine ⟨href, hcontent, ?_, ?_⟩
  · rintro rfl hendpoint
    exact builtServer_eq_ok.mpr ⟨_, builtConfig_of_endpoint hbuilt hendpoint, rfl⟩
  · rintro rfl own hmerges hmerges' server hserver
    obtain ⟨config, hconfig, rfl⟩ := builtServer_eq_ok.mp hserver
    exact sameServer_iff hmerges hmerges' hbuilt hconfig

/-- The resource, with an endpoint for the clients of a network. -/
def relocated (network : String) : ClusterObject :=
  let endpoint : KubernetesAPIEndpoint := ⟨network, "10.0.0.2:6443", "new CA"⟩
  let c := peer "a" "s"
  { c with spec := { c.spec with kubernetesAPIEndpoints := [endpoint] } }

/-- The cluster is connected, and then the endpoint is added. -/
def edited (network : String) : World :=
  { joined.2.world with clusters := Table.empty.put (relocated network) }

theorem run_edited (network : String) :
    Run (pool 1) ((joined.2, .others (edited network)) :: joined.1)
      ⟨edited network, joined.2.jobs⟩ := run_joined_others ⟨rfl, rfl⟩

theorem configured_edited (network : String) :
    ∀ x ∈ (joined.2, Pool.Act.others (edited network)) :: joined.1, x.2.Configured .bare "" := by
  refine List.forall_mem_cons.mpr ⟨trivial, forall_mem_played (fun _ h => nomatch h) ?_⟩
  refine List.forall_mem_cons.mpr ⟨⟨rfl, rfl⟩, fun a ha => ?_⟩
  rw [List.eq_of_mem_replicate ha]
  trivial

/-- An endpoint for another network makes no difference, and one for every network does. -/
theorem reuse_agrees_iff_edited :
    (∃ i kubeconfig, (edited "elsewhere").instances[0]? = some i ∧
      Readable .smooth (edited "elsewhere") ⟨"ns", "s"⟩ kubeconfig ∧
      builtServer .bare "" (relocated "elsewhere").spec kubeconfig = .ok i.config.server) ∧
    ∃ i kubeconfig, (edited "").instances[0]? = some i ∧
      Readable .smooth (edited "") ⟨"ns", "s"⟩ kubeconfig ∧
      builtServer .bare "" (relocated "").spec kubeconfig ≠ .ok i.config.server := by
  have hfree : ∀ network, Pool.Free ⟨edited network, joined.2.jobs⟩ "a" :=
    fun _ i c hi => absurd ((idle_joined i).symm.trans hi) (by simp)
  have hfrom : ∀ network i, (edited network).instances[0]? = some i →
      (pastOf ((joined.2, Pool.Act.others (edited network)) :: joined.1)
        ⟨edited network, joined.2.jobs⟩ .bare "").BuiltFrom i (peer "a" "s").spec := by
    intro network i hi
    have hpassed : joined.2 ∈ states ((joined.2, Pool.Act.others (edited network)) :: joined.1)
        ⟨edited network, joined.2.jobs⟩ := List.mem_cons_of_mem _ List.mem_cons_self
    cases hi
    exact ⟨⟨_, peer "a" "s", ⟨_, hpassed, rfl⟩, rfl, rfl⟩,
      ⟨_, ⟨_, hpassed, rfl⟩, _, rfl, rfl, rfl⟩, rfl, rfl⟩
  have hsame : ∀ network i kubeconfig, (edited network).instances[0]? = some i →
      Readable .smooth (edited network) ⟨"ns", "s"⟩ kubeconfig → i.kubeconfig = kubeconfig := by
    rintro network i kubeconfig hi ⟨-, secret, hs, -, hk⟩
    cases hi
    cases hs
    exact Option.some.inj hk
  have hagrees := fun network => reuse_agrees_iff 1 _ _ (run_edited network) .smooth ""
    (configured_edited network) (relocated network) (hfree network) 0
  refine ⟨?_, ?_⟩
  · obtain ⟨i, kubeconfig, hi, -, hr, -, h⟩ := hagrees "elsewhere" ⟨rfl, rfl⟩
    exact ⟨i, kubeconfig, hi, hr, (h _ (hfrom _ i hi)).2.2.1 (hsame _ i kubeconfig hi hr) rfl⟩
  · obtain ⟨i, kubeconfig, hi, -, hr, -, h⟩ := hagrees "" ⟨rfl, rfl⟩
    refine ⟨i, kubeconfig, hi, hr, fun hserver => ?_⟩
    have hsameServer := ((h _ (hfrom _ i hi)).2.2.2 (hsame _ i kubeconfig hi hr) ("", "")
      (merges_bare _ _) (merges_bare _ _) _ hserver).mp rfl
    have hca : Coincide "" "" "new CA" := hsameServer.caBundle
    revert hca
    unfold Coincide
    decide

theorem reuse_outdated_edited :
    Run (pool 1) ((joined.2, .others (edited "")) :: joined.1) ⟨edited "", joined.2.jobs⟩ ∧
    (∀ i, joined.2.jobs i = none) ∧ (edited "").clusters.get "a" = some (relocated "") ∧
    Readable .smooth (edited "") ⟨"ns", "s"⟩ "token" ∧
    Reuses .smooth (edited "") (relocated "").restarted 0 ∧
    ((reconcile .smooth "a").run (edited "")).1 = .ok () ∧
    ((reconcile .smooth "a").run (edited "")).2.connections () = (edited "").connections () ∧
    (edited "").instances.map (fun i => (i.alive, i.config.server)) = [(true, "", "")] ∧
    builtServer .bare "" (relocated "").spec "token" =
      .ok ("https://10.0.0.2:6443", "new CA") :=
  ⟨run_edited "", idle_joined, rfl, ⟨rfl, _, rfl, rfl, rfl⟩, ⟨rfl, rfl⟩, rfl, rfl, rfl,
    by decide +kernel⟩

end ClusterRegistry.Members
