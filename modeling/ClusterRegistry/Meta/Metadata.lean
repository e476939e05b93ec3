import ClusterRegistry.Lib.Table
import ClusterRegistry.Meta.Detection

/-!
# Cluster metadata

`GetClusterMetadata` in `pkg/clustermeta/metadata.go`, the part of a cluster's
status that describes its nodes. What occurs on them is collected in four maps,
and a list is filled by a loop over each. `Orders` are the orders of these
loops.
-/

namespace ClusterRegistry.Meta

open Lib

structure Locality where
  region : String := ""
  regions : List String := []
  zones : List String := []
  deriving DecidableEq

structure ClusterMetadata where
  provider : String := ""
  distribution : String := ""
  kubeProxyVersions : List String := []
  kubeletVersions : List String := []
  version : String := ""
  locality : Option Locality := none
  deriving DecidableEq

/-- What is collected, each in a map of its own. -/
inductive Kind where
  | kubeProxyVersion
  | kubeletVersion
  | region
  | zone
  deriving DecidableEq, Repr

/-- The orders of the loops over the maps. -/
abbrev Orders : Type := Kind → Shuffle String

/-- The keys of the maps, without repeats. -/
structure Seen where
  kubeProxyVersions : List String := []
  kubeletVersions : List String := []
  regions : List String := []
  zones : List String := []

def regionLabel : String := "topology.kubernetes.io/region"
def zoneLabel : String := "topology.kubernetes.io/zone"

def noteValue (v : String) (l : List String) : List String := if v ≠ "" then l.insert v else l

/-- One turn of the loop over the nodes. -/
def Seen.add (seen : Seen) (node : Node) : Seen :=
  let seen := { seen with
    kubeProxyVersions := seen.kubeProxyVersions.insert node.kubeProxyVersion
    kubeletVersions := seen.kubeletVersions.insert node.kubeletVersion }
  if node.labels ≠ ∅ then
    { seen with
      regions := noteValue (node.labels.val regionLabel) seen.regions
      zones := noteValue (node.labels.val zoneLabel) seen.zones }
  else seen

def localityOf (orders : Orders) (seen : Seen) : Option Locality :=
  if seen.regions ≠ [] ∨ seen.zones ≠ [] then
    let locality : Locality := {}
    let locality :=
      if seen.regions ≠ [] then
        let regions := (orders .region).arrange seen.regions
        { locality with regions := regions, region := ", ".intercalate regions }
      else locality
    some { locality with zones := (orders .zone).arrange seen.zones }
  else none

/-- The rest of `GetClusterMetadata`, with provider and distribution. -/
def describe (orders : Orders) (provider distribution : String) (nodes : List Node) :
    ClusterMetadata :=
  let seen := nodes.foldl Seen.add {}
  let kubeProxyVersions := (orders .kubeProxyVersion).arrange seen.kubeProxyVersions
  { provider := provider
    distribution := distribution
    kubeProxyVersions := kubeProxyVersions
    -- there is one, as there is a node
    version := kubeProxyVersions.headD ""
    kubeletVersions := (orders .kubeletVersion).arrange seen.kubeletVersions
    locality := localityOf orders seen }

def isUnknownProviderError : DetectError → Bool
  | .unknownProvider => true
  | _ => false

def isUnknownDistributionError : DetectError → Bool
  | .unknownDistribution => true
  | _ => false

def getClusterMetadata (parse : String → Except Err String) (orders : Orders) :
    Probe (ClusterMetadata × Option DetectError) := do
  match ← Code.read Site.nodes with
  | .error e => pure ({}, some (.other e))
  | .ok [] => pure ({}, none)
  | .ok (node :: nodes) => do
    let (provider, err) ← detectProvider parse (some node)
    match err.filter (!isUnknownProviderError ·) with
    | some e => pure ({}, some e)
    | none => do
      let (distribution, err) ← detectDistribution parse (some node)
      match err.filter (!isUnknownDistributionError ·) with
      | some e => pure ({}, some e)
      | none => pure (describe orders provider distribution (node :: nodes), none)

/-! ## What is listed -/

/-- The list for a kind. -/
def ClusterMetadata.list (md : ClusterMetadata) : Kind → List String
  | .kubeProxyVersion => md.kubeProxyVersions
  | .kubeletVersion => md.kubeletVersions
  | .region => (md.locality.getD {}).regions
  | .zone => (md.locality.getD {}).zones

def Seen.keys (seen : Seen) : Kind → List String
  | .kubeProxyVersion => seen.kubeProxyVersions
  | .kubeletVersion => seen.kubeletVersions
  | .region => seen.regions
  | .zone => seen.zones

/-- What a node has of a kind; a region or a zone only if it is not empty. -/
def Node.values (node : Node) : Kind → List String
  | .kubeProxyVersion => [node.kubeProxyVersion]
  | .kubeletVersion => [node.kubeletVersion]
  | .region => [node.labels.val regionLabel].filter (· ≠ "")
  | .zone => [node.labels.val zoneLabel].filter (· ≠ "")

/-- The list has every value that occurs on the nodes, and each once. -/
def Lists (l : List String) (nodes : List Node) (k : Kind) : Prop :=
  l.Nodup ∧ ∀ v, v ∈ l ↔ ∃ node ∈ nodes, v ∈ node.values k

theorem noteValue_eq (v : String) (l : List String) :
    noteValue v l = [v].filter (· ≠ "") ∪ l := by
  unfold noteValue
  by_cases hv : v = "" <;> simp [hv]

theorem keys_add (seen : Seen) (node : Node) (k : Kind) :
    (seen.add node).keys k = node.values k ∪ seen.keys k := by
  unfold Seen.add
  by_cases hlabels : node.labels = ∅
  · have hval : ∀ label, (∅ : StringMap).val label = "" := fun _ => rfl
    cases k <;> simp [hlabels, hval, Seen.keys, Node.values]
  · cases k <;> simp [hlabels, Seen.keys, Node.values, noteValue_eq]

/-- **The loop over the nodes**: a map ends with what it had before and what
occurs on the nodes. -/
theorem keys_foldl (nodes : List Node) (k : Kind) (seen : Seen) (hseen : (seen.keys k).Nodup) :
    ((nodes.foldl Seen.add seen).keys k).Nodup ∧ ∀ v,
      v ∈ (nodes.foldl Seen.add seen).keys k ↔
        v ∈ seen.keys k ∨ ∃ node ∈ nodes, v ∈ node.values k := by
  induction nodes generalizing seen with
  | nil => exact ⟨hseen, fun v => by simp⟩
  | cons node nodes ih =>
    have hadd : ((seen.add node).keys k).Nodup := by
      rw [keys_add]
      exact hseen.union _
    obtain ⟨hnodup, hmem⟩ := ih (seen.add node) hadd
    refine ⟨hnodup, fun v => ?_⟩
    rw [List.foldl_cons, hmem, keys_add, List.mem_union_iff]
    simp only [List.mem_cons, exists_eq_or_imp]
    rw [or_assoc, or_left_comm]

theorem lists_collected (nodes : List Node) (k : Kind) :
    Lists ((nodes.foldl Seen.add {}).keys k) nodes k := by
  obtain ⟨hnodup, hmem⟩ := keys_foldl nodes k {} (by cases k <;> exact List.nodup_nil)
  refine ⟨hnodup, fun v => (hmem v).trans (or_iff_right ?_)⟩
  cases k <;> exact List.not_mem_nil

section

variable {orders : Orders} {provider distribution : String} {nodes : List Node}

theorem list_describe (k : Kind) :
    (describe orders provider distribution nodes).list k =
      (orders k).arrange ((nodes.foldl Seen.add {}).keys k) := by
  have hnil : ∀ f : Shuffle String, f.arrange [] = [] := fun f => List.perm_nil.mp (f.perm [])
  unfold describe localityOf ClusterMetadata.list Seen.keys
  cases k with
  | kubeProxyVersion => rfl
  | kubeletVersion => rfl
  | region =>
    by_cases hr : (nodes.foldl Seen.add {}).regions = []
    · by_cases hz : (nodes.foldl Seen.add {}).zones = [] <;> simp [hr, hz, hnil]
    · simp [hr]
  | zone =>
    by_cases hr : (nodes.foldl Seen.add {}).regions = []
    · by_cases hz : (nodes.foldl Seen.add {}).zones = [] <;> simp [hr, hz, hnil]
    · simp [hr]

theorem lists_describe (k : Kind) :
    Lists ((describe orders provider distribution nodes).list k) nodes k := by
  obtain ⟨hnodup, hmem⟩ := lists_collected nodes k
  rw [list_describe]
  exact ⟨((orders k).perm _).nodup_iff.mpr hnodup, fun v => (orders k).mem.trans (hmem v)⟩

/-- Of each kind, all values that occur are the same. -/
def Uniform (nodes : List Node) : Prop :=
  ∀ k, ∀ a ∈ nodes, ∀ b ∈ nodes, ∀ v ∈ a.values k, ∀ w ∈ b.values k, v = w

/-- **The orders show** unless the nodes are all alike. -/
theorem describe_const_iff (provider distribution : String) :
    (∀ orders orders' : Orders, describe orders provider distribution nodes =
      describe orders' provider distribution nodes) ↔ Uniform nodes := by
  constructor
  · intro h k a ha b hb v hv w hw
    obtain ⟨-, hmem⟩ := lists_collected nodes k
    refine arrange_const_iff.mp (fun f g => ?_) v ((hmem v).mpr ⟨a, ha, hv⟩) w
      ((hmem w).mpr ⟨b, hb, hw⟩)
    have hlist := congrArg (ClusterMetadata.list · k) (h (fun _ => f) fun _ => g)
    simpa only [list_describe] using hlist
  · intro h orders orders'
    have hall : ∀ k, (orders k).arrange ((nodes.foldl Seen.add {}).keys k) =
        (orders' k).arrange ((nodes.foldl Seen.add {}).keys k) := by
      intro k
      obtain ⟨-, hmem⟩ := lists_collected nodes k
      refine arrange_const_iff.mpr (fun v hv w hw => ?_) _ _
      obtain ⟨a, ha, hva⟩ := (hmem v).mp hv
      obtain ⟨b, hb, hwb⟩ := (hmem w).mp hw
      exact h k a ha b hb v hva w hwb
    have hp := hall .kubeProxyVersion
    have hk := hall .kubeletVersion
    have hr := hall .region
    have hz := hall .zone
    simp only [Seen.keys] at hp hk hr hz
    unfold describe localityOf
    simp only [hp, hk, hr, hz]

end

/-! ## What a run returns -/

/-- Detection fails: the provider ID of the first node is no URL. -/
def Undetectable (parse : String → Except Err String) (done : Bool) (node : Node) : Prop :=
  done = false ∧ node.providerID ≠ "" ∧ ∃ e, parse node.providerID = .error e

section

variable {parse : String → Except Err String} {n : Node}

theorem schemeOf_eq_error {e : Err} :
    schemeOf parse n = .error e ↔ n.providerID ≠ "" ∧ parse n.providerID = .error e := by
  unfold schemeOf
  by_cases hid : n.providerID = ""
  · simp [hid]
  · cases parse n.providerID <;> simp [hid, Except.map]

theorem providerOf_of_error {e : Err} (h : schemeOf parse n = .error e) :
    providerOf parse n = ("", some (.other e)) := by
  have hfirst : (providerVerdict parse n "aws" amazon true).result =
      some ("", some (.other e)) := by
    rw [providerVerdict_result, h]
  unfold providerOf conclude providerVerdicts providerTable
  rw [List.map_cons, List.findSome?_cons, hfirst]
  rfl

/-- Where no detector fails, the loop returns a name or that there is none. -/
theorem conclude_of_no_error {unknown : DetectError} {vs : List Verdict}
    (h : ∀ v ∈ vs, v.err = none) :
    (conclude unknown vs).2 = none ∨ conclude unknown vs = ("", some unknown) := by
  unfold conclude
  cases hfind : vs.findSome? Verdict.result with
  | none => exact .inr rfl
  | some x =>
    obtain ⟨v, hv, hx⟩ := List.exists_of_findSome?_eq_some hfind
    unfold Verdict.result at hx
    rw [h v hv] at hx
    cases hok : v.ok with
    | false =>
      rw [hok] at hx
      cases hx
    | true =>
      rw [hok] at hx
      cases hx
      exact .inl rfl

/-- And this is no error to the caller. -/
theorem expected_of_no_error {unknown : DetectError} {vs : List Verdict}
    (h : ∀ v ∈ vs, v.err = none) {expected : DetectError → Bool}
    (hunknown : expected unknown = true) :
    (conclude unknown vs).2.filter (!expected ·) = none := by
  obtain hnone | heq := @conclude_of_no_error unknown vs h
  · rw [hnone]
    rfl
  · rw [heq]
    simp [hunknown]

theorem err_providerVerdicts {found : Option String} (h : schemeOf parse n = .ok found) :
    ∀ v ∈ providerVerdicts parse n, v.err = none := by
  refine List.forall_mem_map.mpr fun row _ => ?_
  unfold providerVerdict
  rw [h]
  dsimp only
  split <;> rfl

theorem err_distributionVerdicts {found : Option String} (h : schemeOf parse n = .ok found) :
    ∀ v ∈ distributionVerdicts parse n, v.err = none := by
  refine List.forall_mem_map.mpr ?_
  rintro ⟨distribution, check, provider⟩ -
  unfold distributionVerdict
  cases check with
  | false => rfl
  | true =>
    cases provider with
    | none => rfl
    | some provider =>
      obtain herr | hunknown : (providerOf parse n).2 = none ∨
          providerOf parse n = ("", some .unknownProvider) :=
        conclude_of_no_error (err_providerVerdicts h)
      · rcases hof : providerOf parse n with ⟨detected, err⟩
        rw [hof] at herr
        cases herr
        rfl
      · rw [hunknown]
        rfl

theorem run_getClusterMetadata_error {e : Err} (h : schemeOf parse n = .error e)
    (orders : Orders) (nodes : List Node) :
    (getClusterMetadata parse orders).run ⟨false, .ok (n :: nodes)⟩ =
      (.ok ({}, some (.other e)), ⟨false, .ok (n :: nodes)⟩) := by
  unfold getClusterMetadata
  rw [Code.run_read_bind]
  dsimp only
  rw [Code.run_bind_ok (run_detectProvider rfl rfl), providerOf_of_error h]
  rfl

/-- **A run** that gets to the nodes, in any orders. -/
theorem run_getClusterMetadata {done : Bool} (h : ¬Undetectable parse done n)
    (nodes : List Node) :
    ∃ provider distribution, ∀ orders,
      (getClusterMetadata parse orders).run ⟨done, .ok (n :: nodes)⟩ =
        (.ok (describe orders provider distribution (n :: nodes), none),
          ⟨done, .ok (n :: nodes)⟩) := by
  cases done with
  | true => exact ⟨"", "", fun orders => rfl⟩
  | false =>
    cases hscheme : schemeOf parse n with
    | error e =>
      obtain ⟨hid, he⟩ := schemeOf_eq_error.mp hscheme
      exact absurd ⟨rfl, hid, e, he⟩ h
    | ok found =>
      refine ⟨(providerOf parse n).1,
        (conclude .unknownDistribution (distributionVerdicts parse n)).1, fun orders => ?_⟩
      have hprovider : (providerOf parse n).2.filter (!isUnknownProviderError ·) = none :=
        expected_of_no_error (err_providerVerdicts hscheme) rfl
      have hdistribution : (conclude .unknownDistribution (distributionVerdicts parse n)).2.filter
          (!isUnknownDistributionError ·) = none :=
        expected_of_no_error (err_distributionVerdicts hscheme) rfl
      unfold getClusterMetadata
      rw [Code.run_read_bind]
      dsimp only
      rw [Code.run_bind_ok (run_detectProvider rfl rfl), hprovider]
      dsimp only
      rw [Code.run_bind_ok (run_detectDistribution rfl rfl), hdistribution]
      rfl

end

/-- **Metadata flaps** with the orders of the loops, unless detection fails or all nodes
are alike. What it lists is right in any case. -/
theorem metadata_stable_iff (parse : String → Except Err String) (done : Bool) (n : Node)
    (nodes : List Node) :
    ((∀ orders orders', (getClusterMetadata parse orders).run ⟨done, .ok (n :: nodes)⟩ =
        (getClusterMetadata parse orders').run ⟨done, .ok (n :: nodes)⟩) ∧
      ∀ orders md, (getClusterMetadata parse orders).run ⟨done, .ok (n :: nodes)⟩ =
        (.ok (md, none), ⟨done, .ok (n :: nodes)⟩) → ∀ k, Lists (md.list k) (n :: nodes) k) ↔
      Undetectable parse done n ∨ Uniform (n :: nodes) := by
  by_cases hu : Undetectable parse done n
  · obtain ⟨rfl, hid, e, he⟩ := hu
    have hrun := run_getClusterMetadata_error (schemeOf_eq_error.mpr ⟨hid, he⟩)
    refine iff_of_true ⟨fun orders orders' => ?_, fun orders md hmd => ?_⟩ (.inl ⟨rfl, hid, e, he⟩)
    · rw [hrun, hrun]
    · rw [hrun] at hmd
      cases hmd
  · obtain ⟨provider, distribution, hrun⟩ := run_getClusterMetadata hu nodes
    rw [or_iff_right hu, ← describe_const_iff provider distribution]
    constructor
    · rintro ⟨hsame, -⟩ orders orders'
      have hsame := hsame orders orders'
      rw [hrun, hrun] at hsame
      exact (Prod.mk.inj (Except.ok.inj (Prod.mk.inj hsame).1)).1
    · intro hconst
      refine ⟨fun orders orders' => ?_, fun orders md hmd k => ?_⟩
      · rw [hrun, hrun, hconst orders orders']
      · rw [hrun] at hmd
        cases hmd
        exact lists_describe k

/-- Two nodes in the middle of an upgrade. -/
def upgrading : Site where
  done := false
  nodes := .ok [{ kubeProxyVersion := "v1.24", kubeletVersion := "v1.24" },
    { kubeProxyVersion := "v1.25", kubeletVersion := "v1.24" }]

/-- What is written about them. -/
def upgraded (kubeProxyVersions : List String) (version : String) : ClusterMetadata where
  kubeProxyVersions := kubeProxyVersions
  kubeletVersions := ["v1.24"]
  version := version

theorem version_flaps_upgrading :
    (getClusterMetadata Except.ok fun _ => ⟨id, List.Perm.refl⟩).run upgrading =
        (.ok (upgraded ["v1.25", "v1.24"] "v1.25", none), upgrading) ∧
      (getClusterMetadata Except.ok fun _ => ⟨List.reverse, List.reverse_perm⟩).run upgrading =
        (.ok (upgraded ["v1.24", "v1.25"] "v1.24", none), upgrading) := by
  constructor <;> rfl

end ClusterRegistry.Meta
