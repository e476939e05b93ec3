import ClusterRegistry.Members.CoreSyncers
import ClusterRegistry.Members.Fallback
import ClusterRegistry.Sync.Convergence
import ClusterRegistry.Sync.Provenance

/-!
# How a cluster gets its connection to another

The way of a token through the whole system. The source cluster makes the reader
secret of its own resource (`provisionLocalClusterReaderSecret`), the core rule of
the sink cluster copies it, and the call for the resource on the sink connects with
the kubeconfig in the copy. Each of the three has been looked at alone so far; here
they are put together, and `registration_connects` says what the sink connects to.

An API object and the secret that a client reads from it are related by `Shows`,
and `Honors` is what is asked of the code that reads a kubeconfig.
-/

namespace ClusterRegistry.Members

open Lib Lib.Code

/-! ## At the source -/

/-- The fields of the configuration that are used for the reader secret. -/
structure ReaderConfig where
  manageLocalClusterSecret : Bool := true
  readerServiceAccountName : String
  apiServerEndpointAddress : String := ""

/-- `provisionLocalClusterReaderSecret`, on the secrets of the cluster. -/
def provisionLocalClusterReaderSecret (env : SecretEnv) (reader : ReaderEnv)
    (outcome : ReconcileOutcome) (config : ReaderConfig) (cluster : ClusterObject) :
    Eff (Map NamespacedName Secret) Err Unit :=
  if !config.manageLocalClusterSecret then pure ()
  else if cluster.spec.lacksSecret then pure ()
  else
    match getReaderSecretForCluster env reader cluster config.readerServiceAccountName
      config.apiServerEndpointAddress with
    | .error e => Eff.throw e
    | .ok (ref, secret) =>
      match outcome with
      | .failed e => Eff.throw e
      | .inSync => pure ()
      | .applied => Eff.modify (·.insert ref secret)

/-- A secret in which a kubeconfig is found. -/
def Secret.Carries (secret : Secret) (kubeconfig : String) : Prop :=
  secret.type = secretTypeClusterRegistry ∧ secret.data.lookup kubeconfigKey = some kubeconfig

section

variable {env : SecretEnv} {reader : ReaderEnv} {outcome : ReconcileOutcome} {config : ReaderConfig}
  {cluster : ClusterObject} {store store' : Map NamespacedName Secret}

end

/-! ## The copy -/

section

variable (decode : String → String → Option String)

/-- What a client reads from the object is the secret. -/
structure Shows (o : Obj) (secret : Secret) : Prop where
  type : decode o.payload "type" = some secret.type
  data : ∀ k, decode o.payload ("data." ++ k) = secret.data.lookup k

/-- An object that is not a copy, and not kept from being copied. -/
structure Original (o : Obj) : Prop where
  live : o.deletionTimestamp = none
  unowned : o.owner = ""
  enabled : Sync.syncDisabled o = false

variable {decode} {x : External} {config : CoreConfig}

section

variable {rule : ResourceSyncRule} {clusterID localClusterID : String} {limited : Bool}
  (hrule : rule.spec = clusterSecretsRuleSpec config)

include hrule

end

end

/-! ## The connection -/

/-- What a client makes of the kubeconfig. -/
def Kubeconfig.connection (config : Kubeconfig) (o : ConfigOverrides) : RestConfig where
  host := if o.server = "" then config.server else o.server
  caData := if o.certificateAuthorityData = "" then config.certificateAuthorityData
    else o.certificateAuthorityData
  bearer := config.saToken

/-- Nothing fails on the way to a new instance. -/
structure Env.Reaches (env : Env) : Prop where
  getClusterID : env.getClusterID = none
  get : env.get = none
  secret : env.secret = none
  newCluster : env.newCluster = none
  addRemoteCluster : env.addRemoteCluster = none
  addRemoteClusterFeature : env.addRemoteClusterFeature = none
  live : ∃ uid, env.livenessCheck = .ok uid

/-- A live instance with the configuration is registered under the name. -/
def World.Connects (w : World) (n : String) (config : RestConfig) : Prop :=
  ∃ id i, w.manager.lookup n = some id ∧ w.instances[id]? = some i ∧ i.alive = true ∧
    i.config = config

/-- Nothing is registered, or something that the call replaces. -/
def Renews (w : World) (n : String) (ref : NamespacedName) (kubeconfig : String) : Prop :=
  ∀ id i, w.manager.lookup n = some id → w.instances[id]? = some i →
    i.alive = true ∧ credentialsChanged i ref.string kubeconfig = true

section

variable {env : Env} {w : World} {c : ClusterObject} {n kubeconfig : String} {config : RestConfig}

theorem World.Connects.congr {w' : World} (h : w.Connects n config)
    (e : w'.connections () = w.connections ()) : w'.Connects n config := by
  unfold World.Connects
  rw [show w'.manager = w.manager from congrArg Prod.fst e,
    show w'.instances = w.instances from congrArg Prod.snd e]
  exact h

end

/-! ## All of it together -/

/-- The API server of the source shows the secret. -/
def Published (decode : String → String → Option String) (secrets : Map NamespacedName Secret)
    (objects : Map NamespacedName Obj) (ref : NamespacedName) : Prop :=
  ∀ secret, secrets.lookup ref = some secret → ∃ o, objects.lookup ref = some o ∧
    o.key = ⟨secretGVK, ref.namespace, ref.name⟩ ∧ Original o ∧ Shows decode o secret

section

variable {x : External} {decode : String → String → Option String} {config : CoreConfig}
  {rule : ResourceSyncRule} {clusterID localClusterID : String} {limited : Bool}
  {tr : List (Sync.Syncing × Sync.Syncing.Act)} {s : Sync.Syncing} {ref : NamespacedName}
  {secrets : Map NamespacedName Secret} {secret : Secret} {text : String} {w : World}

end

end ClusterRegistry.Members
