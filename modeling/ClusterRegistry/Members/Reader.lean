import ClusterRegistry.Members.World
import Mathlib.Data.List.Infix

/-!
# The credentials of the reader account

`pkg/util/cluster_secret.go`: the token of the service account that other
clusters read with, and the kubeconfig that is made of it. A secret that is
already there is taken as it is; a new one is polled until the token controller
has filled it in. A `ReaderEnv` fixes the answers of the API server, and with
them what the token controller does to the new secret in the meantime: it may do
anything to its data, and delete it.
-/

namespace ClusterRegistry.Members

open Lib

/-- `wait.ExponentialBackoff`, without the pauses. -/
def exponentialBackoff {α : Type} (condition : Nat → Except Err (Option α)) (steps : Nat) :
    Except Err α :=
  tryUpTo (.new "timed out waiting for the condition") condition steps 0

/-! ## The token -/

def secretTypeServiceAccountToken : String := "kubernetes.io/service-account-token"
def serviceAccountNameKey : String := "kubernetes.io/service-account.name"
def tokenKey : String := "token"
def caCertKey : String := "ca.crt"

/-- A secret in the namespace of the service account. -/
structure AccountSecret where
  name : String
  type : String
  annotations : StringMap := ∅
  data : StringMap := ∅

namespace AccountSecret

/-- `Data["token"]`; `none` is nil. -/
def token (s : AccountSecret) : Option String := s.data.lookup tokenKey

/-- `Data["ca.crt"]`. -/
def caCert (s : AccountSecret) : Option String := s.data.lookup caCertKey

/-- A token secret that is annotated with the name of the service account. -/
def BelongsTo (name : String) (s : AccountSecret) : Prop :=
  s.type = secretTypeServiceAccountToken ∧ s.annotations.lookup serviceAccountNameKey = some name

instance (name : String) (s : AccountSecret) : Decidable (s.BelongsTo name) :=
  inferInstanceAs (Decidable (_ ∧ _))

end AccountSecret

structure ReaderEnv where
  getServiceAccount : Option Err := none
  /-- The secrets in the namespace, in the order of the list. -/
  list : Except Err (List AccountSecret)
  create : Option Err := none
  /-- The data of the new secret at each poll, or the error of reading it. -/
  poll : Nat → Except Err StringMap

/-- The secret that is made for the service account. -/
def newAccountSecret (saName : String) : AccountSecret where
  name := saName ++ "-token"
  type := secretTypeServiceAccountToken
  annotations := (∅ : StringMap).insert serviceAccountNameKey saName

theorem belongsTo_newAccountSecret (saName : String) (data : StringMap) :
    { newAccountSecret saName with data := data }.BelongsTo saName :=
  ⟨rfl, Finmap.lookup_insert _⟩

section

variable (env : ReaderEnv) (saName : String)

/-- One poll: done once there is a token and a CA certificate. -/
def tokenGenerated (i : Nat) : Except Err (Option (String × String)) :=
  match env.poll i with
  | .error e => if e.reason = .notFound then .ok none else .error e
  | .ok data =>
    match data.lookup tokenKey, data.lookup caCertKey with
    | some token, some caCert => .ok (some (token, caCert))
    | _, _ => .ok none

/-- The number of steps of the default backoff. -/
def backoffSteps : Nat := 3

def waitForSecretTokenGenerated : Except Err (Option String × Option String) :=
  match exponentialBackoff (tokenGenerated env) backoffSteps with
  | .error e => .error (e.wrapIf "fail to wait for the token and CA cert to be generated")
  | .ok (token, caCert) => .ok (some token, some caCert)

def getReaderSecretTokenAndCACert : Except Err (Option String × Option String) :=
  match env.getServiceAccount with
  | some e => .error e
  | none =>
    match env.list with
    | .error e => .error (e.wrapIf "retrieving kubernetes secrets failed with unexpected error")
    | .ok secrets =>
      match secrets.find? (·.BelongsTo saName) with
      | some secret => .ok (secret.token, secret.caCert)
      | none =>
        match env.create with
        | some e => .error (e.wrapIf "creating kubernetes secret failed")
        | none => waitForSecretTokenGenerated env

end

/-- The call finds the secret in the list. -/
def Finds (env : ReaderEnv) (saName : String) (s : AccountSecret) : Prop :=
  env.getServiceAccount = none ∧
    ∃ secrets, env.list = .ok secrets ∧ secrets.find? (·.BelongsTo saName) = some s

/-- The call makes a secret, and this is what it finds at the poll that ends the wait. -/
def Generates (env : ReaderEnv) (saName : String) (s : AccountSecret) : Prop :=
  env.getServiceAccount = none ∧
    (∃ secrets, env.list = .ok secrets ∧ secrets.find? (·.BelongsTo saName) = none) ∧
    env.create = none ∧
    ∃ k < backoffSteps, ∃ data, env.poll k = .ok data ∧
      s = { newAccountSecret saName with data := data } ∧
      s.token ≠ none ∧ s.caCert ≠ none ∧ ∀ j < k, tokenGenerated env j = .ok none

/-- The secret that a call takes the token from. -/
def Supplies (env : ReaderEnv) (saName : String) (s : AccountSecret) : Prop :=
  Finds env saName s ∨ Generates env saName s

section

variable {env : ReaderEnv} {saName : String}

theorem tokenGenerated_eq_some {i : Nat} {token caCert : String} :
    tokenGenerated env i = .ok (some (token, caCert)) ↔ ∃ data, env.poll i = .ok data ∧
      data.lookup tokenKey = some token ∧ data.lookup caCertKey = some caCert := by
  unfold tokenGenerated
  cases env.poll i with
  | error e =>
    refine iff_of_false ?_ (by simp)
    dsimp only
    split <;> exact nofun
  | ok data =>
    cases ht : Finmap.lookup tokenKey data with
    | none => simp [ht]
    | some t => cases hc : Finmap.lookup caCertKey data <;> simp [ht, hc]

/-- The wait ends with the first poll that has both. -/
theorem waitForSecretTokenGenerated_eq_ok {token caCert : Option String} :
    waitForSecretTokenGenerated env = .ok (token, caCert) ↔ ∃ k < backoffSteps, ∃ data,
      env.poll k = .ok data ∧ data.lookup tokenKey = token ∧ data.lookup caCertKey = caCert ∧
        token ≠ none ∧ caCert ≠ none ∧ ∀ j < k, tokenGenerated env j = .ok none := by
  have hwait : ∀ {t c : String}, exponentialBackoff (tokenGenerated env) backoffSteps = .ok (t, c) ↔
      ∃ k < backoffSteps, (∃ data, env.poll k = .ok data ∧ data.lookup tokenKey = some t ∧
        data.lookup caCertKey = some c) ∧ ∀ j < k, tokenGenerated env j = .ok none := by
    intro t c
    refine tryUpTo_eq_ok.trans ?_
    simp only [Nat.zero_add, tokenGenerated_eq_some]
  unfold waitForSecretTokenGenerated
  constructor
  · intro h
    split at h
    · cases h
    · next t c hrun =>
      cases h
      obtain ⟨k, hk, ⟨data, hdata, ht, hc⟩, hbefore⟩ := hwait.mp hrun
      exact ⟨k, hk, data, hdata, ht, hc, nofun, nofun, hbefore⟩
  · rintro ⟨k, hk, data, hdata, ht, hc, htoken, hca, hbefore⟩
    obtain ⟨t, rfl⟩ := Option.ne_none_iff_exists'.mp htoken
    obtain ⟨c, rfl⟩ := Option.ne_none_iff_exists'.mp hca
    rw [hwait.mpr ⟨k, hk, ⟨data, hdata, ht, hc⟩, hbefore⟩]

/-- **Where the token comes from**: one secret, found or made. -/
theorem getReaderSecretTokenAndCACert_eq_ok {token caCert : Option String} :
    getReaderSecretTokenAndCACert env saName = .ok (token, caCert) ↔
      ∃ s, Supplies env saName s ∧ s.token = token ∧ s.caCert = caCert := by
  unfold getReaderSecretTokenAndCACert
  constructor
  · intro h
    split at h
    · cases h
    · next hsa =>
      split at h
      · cases h
      · next secrets hlist =>
        split at h
        · next s hfind =>
          cases h
          exact ⟨s, .inl ⟨hsa, secrets, hlist, hfind⟩, rfl, rfl⟩
        · next hfind =>
          split at h
          · cases h
          · next hcreate =>
            obtain ⟨k, hk, data, hdata, rfl, rfl, ht, hc, hbefore⟩ :=
              waitForSecretTokenGenerated_eq_ok.mp h
            exact ⟨{ newAccountSecret saName with data := data }, .inr ⟨hsa, ⟨secrets, hlist,
              hfind⟩, hcreate, k, hk, data, hdata, rfl, ht, hc, hbefore⟩, rfl, rfl⟩
  · rintro ⟨s, ⟨hsa, secrets, hlist, hfind⟩ |
      ⟨hsa, ⟨secrets, hlist, hfind⟩, hcreate, k, hk, data, hdata, rfl, ht, hc, hbefore⟩, rfl, rfl⟩
    · simp only [hsa, hlist, hfind]
    · simp only [hsa, hlist, hfind, hcreate]
      exact waitForSecretTokenGenerated_eq_ok.mpr
        ⟨k, hk, data, hdata, rfl, rfl, ht, hc, hbefore⟩

end

/-! ## The kubeconfig -/

/-- `clientcmd/api/v1.Config`, as far as it is filled in; the cluster, its context
and the current context have one name. -/
structure Kubeconfig where
  name : String
  username : String
  server : String
  certificateAuthorityData : String
  saToken : String
  deriving DecidableEq

/-- What `GetReaderSecretForCluster` works with besides the token. -/
structure SecretEnv where
  cmd : ClientCmd
  /-- `yaml.Marshal`. -/
  marshal : Kubeconfig → Except Err String
  /-- The configuration of the local client. -/
  kubeConfig : RestConfig
  /-- `GetExternalAddressOfAPIServer`. -/
  externalAddress : Except Err String

section

variable (env : SecretEnv)

/-- The first part of `GetKubeconfigWithSAToken`: the configuration to be marshalled. -/
def kubeconfigWithSAToken (name username endpointURL caData saToken : String) :
    Except Err Kubeconfig :=
  match env.cmd.urlWithHTTPSScheme endpointURL with
  | .error e => .error e
  | .ok address => .ok ⟨name, username, address, caData, saToken⟩

/-- `bytes.Contains`. -/
def containsText (text part : String) : Bool := part.toList <:+: text.toList

/-- The CA certificates for the cluster. -/
def readerCAData (spec : ClusterSpec) (caCert : Option String) : String :=
  let caData := caCert.getD ""
  let caData :=
    if !containsText caData env.kubeConfig.caData then caData ++ "\n" ++ env.kubeConfig.caData
    else caData
  -- add overrides specified in the cluster resource without network specified
  let endpoint := getEndpointForClusterByNetwork spec ""
  if endpoint.caBundle ≠ "" then caData ++ "\n" ++ endpoint.caBundle else caData

/-- The first address that is not empty. -/
def readerAddress (spec : ClusterSpec) (apiServerEndpointAddress : String) : String :=
  let endpoint := getEndpointForClusterByNetwork spec ""
  let address :=
    if endpoint.serverAddress ≠ "" then endpoint.serverAddress else apiServerEndpointAddress
  -- try to get external ip address from api server
  let address := if address = "" then env.externalAddress.toOption.getD "" else address
  -- try to get endpoint from used kubeconfig
  if address = "" then env.kubeConfig.host else address

/-- The kubeconfig for a token and a CA certificate. -/
def readerKubeconfig (cluster : ClusterObject) (saName apiServerEndpointAddress : String)
    (token caCert : Option String) : Except Err Kubeconfig :=
  kubeconfigWithSAToken env cluster.name saName
    (readerAddress env cluster.spec apiServerEndpointAddress)
    (readerCAData env cluster.spec caCert) (token.getD "")

/-- `GetReaderSecretForCluster` up to the text of the kubeconfig. -/
def getReaderKubeconfig (reader : ReaderEnv) (cluster : ClusterObject)
    (saName apiServerEndpointAddress : String) : Except Err (Kubeconfig × String) :=
  match getReaderSecretTokenAndCACert reader saName with
  | .error e => .error (e.wrapIf "error getting reader secret for cluster")
  | .ok (token, caCert) =>
    match readerKubeconfig env cluster saName apiServerEndpointAddress token caCert with
    | .error e => .error e
    | .ok config =>
      match env.marshal config with
      | .error e => .error e
      | .ok text => .ok (config, text)

/-- The secret that holds the text of a kubeconfig. -/
def kubeconfigSecret (text : String) : Secret :=
  ⟨secretTypeClusterRegistry, (∅ : StringMap).insert kubeconfigKey text⟩

/-- The secret, under the reference in the resource. -/
def getReaderSecretForCluster (reader : ReaderEnv) (cluster : ClusterObject)
    (saName apiServerEndpointAddress : String) : Except Err (NamespacedName × Secret) :=
  match getReaderKubeconfig env reader cluster saName apiServerEndpointAddress with
  | .error e => .error e
  | .ok (_, text) => .ok (cluster.spec.secretRef, kubeconfigSecret text)

end

/-- The rest of `GetReaderSecretForCluster` goes through with the secret. -/
def Usable (env : SecretEnv) (cluster : ClusterObject) (saName address : String)
    (s : AccountSecret) : Prop :=
  ∃ config text, readerKubeconfig env cluster saName address s.token s.caCert = .ok config ∧
    env.marshal config = .ok text

section

variable {env : SecretEnv} {reader : ReaderEnv} {cluster : ClusterObject}
  {saName address : String}

theorem saToken_of_readerKubeconfig {token caCert : Option String} {config : Kubeconfig}
    (h : readerKubeconfig env cluster saName address token caCert = .ok config) :
    config.saToken = token.getD "" := by
  unfold readerKubeconfig kubeconfigWithSAToken at h
  split at h
  · cases h
  · cases h
    rfl

theorem getReaderKubeconfig_eq_ok {config : Kubeconfig} {text : String} :
    getReaderKubeconfig env reader cluster saName address = .ok (config, text) ↔
      ∃ s, Supplies reader saName s ∧
        readerKubeconfig env cluster saName address s.token s.caCert = .ok config ∧
        env.marshal config = .ok text := by
  unfold getReaderKubeconfig
  constructor
  · intro h
    split at h
    · cases h
    · next token caCert hget =>
      obtain ⟨s, hs, rfl, rfl⟩ := getReaderSecretTokenAndCACert_eq_ok.mp hget
      split at h
      · cases h
      · next config' hconfig =>
        split at h
        · cases h
        · next text' htext =>
          cases h
          exact ⟨s, hs, hconfig, htext⟩
  · rintro ⟨s, hs, hconfig, htext⟩
    have hget : getReaderSecretTokenAndCACert reader saName = .ok (s.token, s.caCert) :=
      getReaderSecretTokenAndCACert_eq_ok.mpr ⟨s, hs, rfl, rfl⟩
    simp only [hget, hconfig, htext]

theorem getReaderSecretForCluster_eq_ok {ref : NamespacedName} {secret : Secret} :
    getReaderSecretForCluster env reader cluster saName address = .ok (ref, secret) ↔
      ∃ config text, getReaderKubeconfig env reader cluster saName address = .ok (config, text) ∧
        ref = cluster.spec.secretRef ∧ secret = kubeconfigSecret text := by
  unfold getReaderSecretForCluster
  cases getReaderKubeconfig env reader cluster saName address with
  | error e => simp
  | ok made => simp [Prod.ext_iff, eq_comm]

theorem Finds.belongsTo {s : AccountSecret} (h : Finds reader saName s) : s.BelongsTo saName := by
  obtain ⟨-, secrets, -, hfind⟩ := h
  simpa using List.find?_some hfind

theorem Supplies.belongsTo {s : AccountSecret} (h : Supplies reader saName s) :
    s.BelongsTo saName := by
  obtain h | ⟨-, -, -, k, -, data, -, rfl, -⟩ := h
  · exact h.belongsTo
  · exact belongsTo_newAccountSecret saName data

end

/-- **The reader token**. A new secret is polled until it has a token and a CA
certificate, but one that is found is not looked at, and an empty token counts
as one on both ways. -/
theorem reader_token_iff (env : SecretEnv) (reader : ReaderEnv) (cluster : ClusterObject)
    (saName address : String) :
    ((∀ token caCert, getReaderSecretTokenAndCACert reader saName = .ok (token, caCert) →
        token ≠ none ∧ caCert ≠ none ∧ ∃ s, Supplies reader saName s ∧ s.BelongsTo saName ∧
          s.token = token ∧ s.caCert = caCert) ∧
      ∀ ref secret, getReaderSecretForCluster env reader cluster saName address =
        .ok (ref, secret) → ∃ config text, config.saToken ≠ "" ∧
          getReaderKubeconfig env reader cluster saName address = .ok (config, text) ∧
          secret.data.lookup kubeconfigKey = some text) ↔
    (∀ s, Finds reader saName s → s.token ≠ none ∧ s.caCert ≠ none) ∧
      ∀ s, Supplies reader saName s → Usable env cluster saName address s →
        s.token ≠ some "" := by
  constructor
  · rintro ⟨hget, hconfig⟩
    refine ⟨fun s hs => ?_, fun s hs husable htoken => ?_⟩
    · obtain ⟨ht, hc, -⟩ := hget s.token s.caCert
        (getReaderSecretTokenAndCACert_eq_ok.mpr ⟨s, .inl hs, rfl, rfl⟩)
      exact ⟨ht, hc⟩
    · obtain ⟨config, text, hmade, htext⟩ := husable
      have hrun := getReaderKubeconfig_eq_ok.mpr ⟨s, hs, hmade, htext⟩
      obtain ⟨config', text', hne, hrun', -⟩ := hconfig _ _
        (getReaderSecretForCluster_eq_ok.mpr ⟨config, text, hrun, rfl, rfl⟩)
      cases hrun.symm.trans hrun'
      rw [saToken_of_readerKubeconfig hmade, htoken] at hne
      exact hne rfl
  · rintro ⟨hfound, hnonempty⟩
    have hboth : ∀ s, Supplies reader saName s → s.token ≠ none ∧ s.caCert ≠ none := by
      rintro s (hs | ⟨-, -, -, k, -, data, -, -, ht, hc, -⟩)
      · exact hfound s hs
      · exact ⟨ht, hc⟩
    refine ⟨fun token caCert hget => ?_, fun ref secret hsecret => ?_⟩
    · obtain ⟨s, hs, rfl, rfl⟩ := getReaderSecretTokenAndCACert_eq_ok.mp hget
      exact ⟨(hboth s hs).1, (hboth s hs).2, s, hs, hs.belongsTo, rfl, rfl⟩
    · obtain ⟨config, text, hrun, -, rfl⟩ := getReaderSecretForCluster_eq_ok.mp hsecret
      refine ⟨config, text, ?_, hrun, Finmap.lookup_insert _⟩
      obtain ⟨s, hs, hmade, htext⟩ := getReaderKubeconfig_eq_ok.mp hrun
      obtain ⟨token, htoken⟩ := Option.ne_none_iff_exists'.mp (hboth s hs).1
      have hne := hnonempty s hs ⟨config, text, hmade, htext⟩
      rw [saToken_of_readerKubeconfig hmade, htoken]
      rintro (rfl : token = "")
      exact hne htoken

/-- The namespace after a wait that timed out: the new secret is there, and the
token controller has not come to it yet. -/
def unpopulated : ReaderEnv where
  list := .ok [newAccountSecret "reader"]
  poll _ := .ok ∅

/-- A client with its own address and CA certificate, and a marshaller that
writes the token. -/
def homeClient : SecretEnv where
  cmd := .bare
  marshal config := .ok config.saToken
  kubeConfig := { host := "home", caData := "ca" }
  externalAddress := .error (.new "could not determine external apiserver address")

theorem unpopulated_empty_token :
    getReaderSecretTokenAndCACert unpopulated "reader" = .ok (none, none) ∧
      getReaderKubeconfig homeClient unpopulated { name := "home", spec := { clusterID := "home" } }
        "reader" "" = .ok (⟨"home", "reader", "https://home", "\nca", ""⟩, "") ∧
      getReaderSecretForCluster homeClient unpopulated
        { name := "home", spec := { clusterID := "home", secretRef := ⟨"ns", "home"⟩ } }
        "reader" "" = .ok (⟨"ns", "home"⟩, kubeconfigSecret "") :=
  ⟨rfl, rfl, rfl⟩

end ClusterRegistry.Members
