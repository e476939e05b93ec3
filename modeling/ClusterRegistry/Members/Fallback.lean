import ClusterRegistry.Members.Endpoints
import ClusterRegistry.Members.Reader

/-!
# The endpoint of a network without one

`GetEndpointForClusterByNetwork` returns the first entry that names the network,
and keeps an entry for every network in case there is none. For the empty name
the two are the same and the first one is returned; for any other name the loop
goes on and the last one stays. The reader secret is made for the empty name
and connections are made for the configured one, so the two agree if there is
one such entry at most, or the first and the last are equal.
-/

namespace ClusterRegistry.Members

open Lib

/-- The entries for every network. -/
def ClusterSpec.openEndpoints (spec : ClusterSpec) : List KubernetesAPIEndpoint :=
  spec.kubernetesAPIEndpoints.filter (·.clientNetwork = "")

/-- The first entry of the network. -/
def ClusterSpec.ownEndpoint (spec : ClusterSpec) (networkName : String) :
    Option KubernetesAPIEndpoint :=
  spec.kubernetesAPIEndpoints.find? (·.clientNetwork = networkName)

section

variable {spec : ClusterSpec} {networkName : String}

/-- **The loop**, from any endpoint kept so far. -/
theorem endpointLoop_eq (networkName : String) (l : List KubernetesAPIEndpoint)
    (endpoint : KubernetesAPIEndpoint) : endpointLoop networkName endpoint l =
      ((l.find? (·.clientNetwork = networkName)).or
        (l.filter (·.clientNetwork = "")).getLast?).getD endpoint := by
  induction l generalizing endpoint with
  | nil => rfl
  | cons e l ih =>
    unfold endpointLoop
    by_cases hn : e.clientNetwork = networkName
    · simp [hn]
    · rw [if_neg hn, ih, List.find?_cons_of_neg (by simpa using hn)]
      cases l.find? (·.clientNetwork = networkName) with
      | some own => rfl
      | none =>
        by_cases he : e.clientNetwork = ""
        · rw [if_pos he, List.filter_cons_of_pos (by simpa using he), List.getLast?_cons]
          rfl
        · rw [if_neg he, List.filter_cons_of_neg (by simpa using he)]

theorem getEndpointForClusterByNetwork_eq (spec : ClusterSpec) (networkName : String) :
    getEndpointForClusterByNetwork spec networkName =
      ((spec.ownEndpoint networkName).or spec.openEndpoints.getLast?).getD {} :=
  endpointLoop_eq networkName spec.kubernetesAPIEndpoints {}

/-- The empty name is the one of the entries for every network. -/
theorem getEndpointForClusterByNetwork_empty (spec : ClusterSpec) :
    getEndpointForClusterByNetwork spec "" = spec.openEndpoints.head?.getD {} := by
  have hown : spec.ownEndpoint "" = spec.openEndpoints.head? := by
    rw [ClusterSpec.openEndpoints, List.head?_filter]
    rfl
  rw [getEndpointForClusterByNetwork_eq, hown]
  cases spec.openEndpoints <;> rfl

theorem ownEndpoint_eq_none : spec.ownEndpoint networkName = none ↔
    ∀ e ∈ spec.kubernetesAPIEndpoints, e.clientNetwork ≠ networkName := by
  simp [ClusterSpec.ownEndpoint]

/-- **First and last**: without an entry of its own a network gets the last entry for
every network, and the empty name the first. -/
theorem fallback_agrees_iff (hown : spec.ownEndpoint networkName = none) :
    getEndpointForClusterByNetwork spec networkName = getEndpointForClusterByNetwork spec "" ↔
      spec.openEndpoints.head? = spec.openEndpoints.getLast? := by
  rw [getEndpointForClusterByNetwork_empty, getEndpointForClusterByNetwork_eq, hown,
    Option.none_or]
  cases spec.openEndpoints with
  | nil => simp
  | cons e l => simp [List.getLast?_cons, eq_comm]

end

/-! ## Who uses the endpoint -/

/-- A connection with the kubeconfig goes to the server in it, and trusts the CA
certificates in it or the last of them. -/
structure ConfigOverrides.Follows (o : ConfigOverrides) (config : Kubeconfig) : Prop where
  server : o.server = "" ∨ o.server = config.server
  ca : o.certificateAuthorityData = "" ∨
    ∃ own, config.certificateAuthorityData = own ++ "\n" ++ o.certificateAuthorityData

section

variable {cmd : ClientCmd} {env : SecretEnv} {spec : ClusterSpec} {networkName : String}

/-- The network matters only for the endpoint. -/
theorem overrides_congr {n m : String}
    (h : getEndpointForClusterByNetwork spec n = getEndpointForClusterByNetwork spec m) :
    getKubeconfigOverridesForClusterByNetwork cmd spec n =
      getKubeconfigOverridesForClusterByNetwork cmd spec m := by
  unfold getKubeconfigOverridesForClusterByNetwork
  rw [h]

theorem readerAddress_of_endpoint (address : String)
    (h : (getEndpointForClusterByNetwork spec "").serverAddress ≠ "") :
    readerAddress env spec address = (getEndpointForClusterByNetwork spec "").serverAddress := by
  simp only [readerAddress, if_pos h, if_neg h]

theorem readerCAData_of_endpoint (caCert : Option String)
    (h : (getEndpointForClusterByNetwork spec "").caBundle ≠ "") :
    ∃ own, readerCAData env spec caCert =
      own ++ "\n" ++ (getEndpointForClusterByNetwork spec "").caBundle :=
  ⟨_, if_pos h⟩

theorem readerKubeconfig_server {cluster : ClusterObject} {saName address : String}
    {token caCert : Option String} {config : Kubeconfig}
    (h : readerKubeconfig env cluster saName address token caCert = .ok config) :
    env.cmd.urlWithHTTPSScheme (readerAddress env cluster.spec address) = .ok config.server ∧
      config.certificateAuthorityData = readerCAData env cluster.spec caCert := by
  unfold readerKubeconfig kubeconfigWithSAToken at h
  split at h
  · cases h
  · next server hurl =>
    cases h
    exact ⟨hurl, rfl⟩

/-- The overrides of a connection for the empty name lead where the reader's
kubeconfig leads. -/
theorem follows_reader {reader : ReaderEnv} {cluster : ClusterObject} {saName address : String}
    {config : Kubeconfig} {text : String} {o : ConfigOverrides}
    (hreader : getReaderKubeconfig env reader cluster saName address = .ok (config, text))
    (ho : getKubeconfigOverridesForClusterByNetwork env.cmd cluster.spec "" = .ok o) :
    o.Follows config := by
  obtain ⟨s, -, hconfig, -⟩ := getReaderKubeconfig_eq_ok.mp hreader
  obtain ⟨hserver, hca⟩ := readerKubeconfig_server hconfig
  obtain ⟨haddress, hbundle⟩ := overrides_eq_ok_iff.mp ho
  unfold ClientCmd.address at haddress
  refine ⟨?_, ?_⟩
  · split at haddress
    · exact .inl (Except.ok.inj haddress).symm
    · next hne =>
      rw [readerAddress_of_endpoint address hne, haddress] at hserver
      exact .inr (Except.ok.inj hserver)
  · by_cases hne : o.certificateAuthorityData = ""
    · exact .inl hne
    · rw [← hbundle] at hne ⊢
      rw [hca]
      exact .inr (readerCAData_of_endpoint s.caCert hne)

end

/-- The endpoint of the network is its own, or else the one that the reader secret
is made with. -/
structure CoherentFor (spec : ClusterSpec) (networkName : String) : Prop where
  own : ∀ e, spec.ownEndpoint networkName = some e →
    getEndpointForClusterByNetwork spec networkName = e
  fallback : spec.ownEndpoint networkName = none →
    getEndpointForClusterByNetwork spec networkName = getEndpointForClusterByNetwork spec ""
  /-- A connection is made as it would be made for the empty name. -/
  connection : spec.ownEndpoint networkName = none → ∀ cmd kubeconfig,
    builtConfig cmd networkName spec kubeconfig = builtConfig cmd "" spec kubeconfig
  /-- A connection with the kubeconfig of the reader secret uses its address and CA. -/
  reader : spec.ownEndpoint networkName = none →
    ∀ env reader cluster saName address config text o, cluster.spec = spec →
      getReaderKubeconfig env reader cluster saName address = .ok (config, text) →
      getKubeconfigOverridesForClusterByNetwork env.cmd spec networkName = .ok o →
        o.Follows config

/-- **Endpoint fallback**. A network has an entry of its own, or it gets the endpoint of
the empty name exactly if the first and the last entry for every network are
equal. -/
theorem endpoint_coherent_iff (spec : ClusterSpec) (networkName : String) :
    CoherentFor spec networkName ↔
      (∃ e ∈ spec.kubernetesAPIEndpoints, e.clientNetwork = networkName) ∨
        spec.openEndpoints.head? = spec.openEndpoints.getLast? := by
  constructor
  · intro h
    refine or_iff_not_imp_left.mpr fun hnone => ?_
    have hown : spec.ownEndpoint networkName = none :=
      ownEndpoint_eq_none.mpr fun e he hn => hnone ⟨e, he, hn⟩
    exact (fallback_agrees_iff hown).mp (h.fallback hown)
  · intro h
    have hsame : spec.ownEndpoint networkName = none →
        getEndpointForClusterByNetwork spec networkName =
          getEndpointForClusterByNetwork spec "" := by
      intro hown
      obtain ⟨e, he, hn⟩ | h := h
      · exact absurd hn (ownEndpoint_eq_none.mp hown e he)
      · exact (fallback_agrees_iff hown).mpr h
    refine ⟨fun e he => ?_, hsame, fun hown cmd kubeconfig => ?_, ?_⟩
    · rw [getEndpointForClusterByNetwork_eq, he]
      rfl
    · unfold builtConfig
      rw [overrides_congr (hsame hown)]
    · rintro hown env reader cluster saName address config text o rfl hreader ho
      rw [overrides_congr (hsame hown)] at ho
      exact follows_reader hreader ho

/-- Two entries for every network. -/
def twoOpen : ClusterSpec where
  clusterID := "home"
  kubernetesAPIEndpoints :=
    [{ serverAddress := "10.0.0.1", caBundle := "ca-1" },
      { serverAddress := "10.0.0.2", caBundle := "ca-2" }]

/-- The token controller has filled in the secret. -/
def populated : ReaderEnv where
  list := .ok [{ newAccountSecret "reader" with
    data := (Finmap.singleton tokenKey "token").insert caCertKey "ca" }]
  poll _ := .ok ∅

theorem twoOpen_apart :
    getEndpointForClusterByNetwork twoOpen "edge" = ⟨"", "10.0.0.2", "ca-2"⟩ ∧
      getEndpointForClusterByNetwork twoOpen "" = ⟨"", "10.0.0.1", "ca-1"⟩ ∧
      getKubeconfigOverridesForClusterByNetwork .bare twoOpen "edge" =
        .ok ⟨"https://10.0.0.2", "ca-2"⟩ ∧
      getReaderKubeconfig homeClient populated { name := "home", spec := twoOpen } "reader" "" =
        .ok (⟨"home", "reader", "https://10.0.0.1", "ca\nca-1", "token"⟩, "token") ∧
      ¬CoherentFor twoOpen "edge" := by
  refine ⟨rfl, rfl, rfl, by decide +kernel, fun h => ?_⟩
  have he := h.fallback rfl
  revert he
  decide

end ClusterRegistry.Members
