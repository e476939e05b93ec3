import ClusterRegistry.Api.Types
import ClusterRegistry.Lib.Code
import Mathlib.Data.List.Perm.Basic
import Mathlib.Data.List.Forall2

/-!
# Provider and distribution

`pkg/clustermeta`: which cloud a cluster runs on and which distribution it is,
both read off one node. A detector is called with a node, or with nil for the
first one that the client lists; the first of the known detectors that accepts
the node decides. A detector returns what it returns in the source, an error
beside the other results; the dereference of a nil node fails the call.

What a detector answers depends on the node alone (`answers_knownProviders`,
`answers_knownDistributions`), so that a call is a search in a list of verdicts.
-/

namespace ClusterRegistry.Meta

open Lib

/-- `corev1.Node`, as far as it is read. -/
structure Node where
  labels : StringMap := ∅
  annotations : StringMap := ∅
  providerID : String := ""
  kubeProxyVersion : String := ""
  kubeletVersion : String := ""

/-- What a call sees besides its node: whether the context is done, and the nodes
that the client lists. -/
structure Site where
  done : Bool
  nodes : Except Err (List Node)

inductive Crash where
  | nilNode
  deriving DecidableEq, Repr

abbrev Probe : Type → Type := Code Site Crash

inductive DetectError where
  | unknownProvider
  | unknownDistribution
  | other (e : Err)

/-- The three results of a detector. -/
structure Verdict where
  ok : Bool
  name : String
  err : Option DetectError

/-- `IsProvider`, `IsDistribution`. -/
abbrev Detector : Type := Option Node → Probe Verdict

/-! ## The loop over the known detectors -/

def firstMatch (unknown : DetectError) : List Detector → Option Node →
    Probe (String × Option DetectError)
  | [], _ => pure ("", some unknown)
  | f :: fs, node => do
    let done ← Code.read Site.done
    if done then pure ("", some unknown)
    else do
      let verdict ← f node
      match verdict.err with
      | some e => pure ("", some e)
      | none => if verdict.ok then pure (verdict.name, none) else firstMatch unknown fs node

/-! ## Nodes -/

def deref : Option Node → Probe Node
  | some node => pure node
  | none => .fail .nilNode

/-- `none` is nil, with `found` being false. -/
def getK8sNode : Probe (Except Err (Option Node)) :=
  .read fun s => s.nodes.map List.head?

/-- The start of a call: the node, or the one that is listed first. -/
def nodeOrFirst : Option Node → Probe (Except Err (Option Node))
  | some node => pure (.ok (some node))
  | none => getK8sNode

section

-- the scheme of a URL that `url.Parse` reads
variable (parse : String → Except Err String)

/-- The part of `detectNodeByProviderID` that has a node. -/
def matchProviderID (scheme : String) (node : Node) : Bool × Option Node × Option Err :=
  if node.providerID ≠ "" then
    match parse node.providerID with
    | .error e => (false, none, some e)
    | .ok s => if s = scheme then (true, some node, none) else (false, some node, none)
  else (false, some node, none)

def detectNodeByProviderID (node : Option Node) (scheme : String) :
    Probe (Bool × Option Node × Option Err) := do
  match ← nodeOrFirst node with
  | .error e => pure (false, none, some e)
  | .ok none => pure (false, none, none)
  | .ok (some node) => pure (matchProviderID parse scheme node)

/-! ## Providers -/

def amazon : String := "amazon"
def azure : String := "azure"
def google : String := "google"
def vsphere : String := "vsphere"
def kindP : String := "kind"
def cisco : String := "cisco"

def intersightVersion : String := "iks.intersight.cisco.com/version"

/-- The providers that have a scheme of their own. -/
def isByScheme (scheme name : String) : Detector := fun node => do
  let (ok, _, err) ← detectNodeByProviderID parse node scheme
  match err with
  | some e => pure ⟨ok, "", some (.other e)⟩
  | none => pure ⟨ok, name, none⟩

def onIntersight (node : Node) : Bool := node.labels.val intersightVersion ≠ ""

/-- The two that share one: the label decides between them. -/
def isOnVsphere (intersight : Bool) (name : String) : Detector := fun node => do
  let (ok, node, err) ← detectNodeByProviderID parse node "vsphere"
  match err with
  | some e => pure ⟨ok, "", some (.other e)⟩
  | none => do
    -- read even if there is no node
    let node ← deref node
    if onIntersight node == intersight then pure ⟨ok, name, none⟩
    else pure ⟨false, "", none⟩

def isAmazon : Detector := isByScheme parse "aws" amazon
def isAzure : Detector := isByScheme parse "azure" azure
def isGoogle : Detector := isByScheme parse "gce" google
def isVsphere : Detector := isOnVsphere parse false vsphere
def isKind : Detector := isByScheme parse "kind" kindP
def isCisco : Detector := isOnVsphere parse true cisco

def knownProviders : List Detector :=
  [isAmazon parse, isAzure parse, isGoogle parse, isVsphere parse, isKind parse, isCisco parse]

def detectProvider : Option Node → Probe (String × Option DetectError) :=
  firstMatch .unknownProvider (knownProviders parse)

/-! ## Distributions -/

def pke : String := "PKE"
def eks : String := "EKS"
def gke : String := "GKE"
def aks : String := "AKS"
def kindD : String := "KIND"
def iks : String := "IKS"
def openshift : String := "OPENSHIFT"

def criSocket : String := "kubeadm.alpha.kubernetes.io/cri-socket"
def osID : String := "node.openshift.io/os_id"

/-- What a detector asks of labels and annotations. -/
def onNode (p : Node → Bool) (node : Option Node) : Probe Bool := do
  let node ← deref node
  pure (p node)

/-- The distributions: first the node itself is looked at, then its provider
is detected, if one is asked for. -/
def isDistribution (distribution : String) (check : Option Node → Probe Bool)
    (provider : Option String) : Detector := fun node => do
  match ← nodeOrFirst node with
  | .error e => pure ⟨false, distribution, some (.other e)⟩
  | .ok node => do
    let passed ← check node
    if !passed then pure ⟨false, distribution, none⟩
    else
      match provider with
      | none => pure ⟨true, distribution, none⟩
      | some provider => do
        let (detected, err) ← detectProvider parse node
        match err with
        | some .unknownProvider => pure ⟨false, distribution, none⟩
        | some e => pure ⟨true, distribution, some e⟩
        | none => pure ⟨detected = provider, distribution, none⟩

def isPKE : Detector :=
  isDistribution parse pke (onNode fun node =>
    node.labels.val "nodepool.banzaicloud.io/name" ≠ "" ∧ node.annotations.val criSocket ≠ "") none

def isEKS : Detector :=
  isDistribution parse eks (onNode fun node =>
    node.annotations.lookup criSocket = none ∧ node.labels.lookup osID = none) (some amazon)

def isGKE : Detector :=
  isDistribution parse gke (onNode fun node =>
    node.labels.val "cloud.google.com/gke-nodepool" ≠ "") (some google)

def isAKS : Detector :=
  isDistribution parse aks (onNode fun node => node.labels.val "agentpool" ≠ "") (some azure)

/-- The one that looks at nothing itself. -/
def isKIND : Detector := isDistribution parse kindD (fun _ => pure true) (some kindP)

def isIKS : Detector :=
  isDistribution parse iks (onNode onIntersight) (some cisco)

def isOpenShift : Detector :=
  isDistribution parse openshift (onNode fun node => node.labels.val osID ≠ "") none

def knownDistributions : List Detector :=
  [isEKS parse, isPKE parse, isGKE parse, isAKS parse, isKIND parse, isIKS parse,
    isOpenShift parse]

def detectDistribution : Option Node → Probe (String × Option DetectError) :=
  firstMatch .unknownDistribution (knownDistributions parse)

end

/-! ## A call as a search in verdicts -/

/-- What the loop returns at a verdict, if it returns. -/
def Verdict.result (v : Verdict) : Option (String × Option DetectError) :=
  match v.err with
  | some e => some ("", some e)
  | none => if v.ok then some (v.name, none) else none

def conclude (unknown : DetectError) (vs : List Verdict) : String × Option DetectError :=
  (vs.findSome? Verdict.result).getD ("", some unknown)

def Answers (s : Site) (node : Option Node) (f : Detector) (v : Verdict) : Prop :=
  (f node).run s = (.ok v, s)

/-- The node that a call works with. -/
def Site.resolve (s : Site) : Option Node → Option Node
  | some node => some node
  | none => s.nodes.toOption.bind List.head?

section

variable {unknown : DetectError} {s : Site} {node : Option Node} {n : Node}
  {fs : List Detector} {vs : List Verdict}

/-- **The loop**, under a context that is not done. -/
theorem run_firstMatch (hs : s.done = false) (h : List.Forall₂ (Answers s node) fs vs) :
    (firstMatch unknown fs node).run s = (.ok (conclude unknown vs), s) := by
  induction h with
  | nil => rfl
  | @cons f v fs vs hf hfs ih =>
    unfold firstMatch conclude
    rw [Code.run_read_bind, hs, if_neg Bool.false_ne_true, Code.run_bind_ok hf,
      List.findSome?_cons]
    unfold Verdict.result
    cases v.err with
    | some e => rfl
    | none =>
      cases v.ok with
      | true => rfl
      | false => exact ih

theorem run_nodeOrFirst (h : s.resolve node = some n) :
    (nodeOrFirst node).run s = (.ok (.ok (some n)), s) := by
  cases node with
  | some node =>
    cases h
    rfl
  | none =>
    obtain ⟨done, nodes⟩ := s
    cases nodes with
    | error e => cases h
    | ok nodes => exact congrArg (fun o => (Except.ok (Except.ok o), Site.mk done (.ok nodes))) h

variable {parse : String → Except Err String}

theorem run_deref (n : Node) (s : Site) : (deref (some n)).run s = (.ok n, s) := rfl

theorem run_detectNodeByProviderID (h : s.resolve node = some n) (scheme : String) :
    (detectNodeByProviderID parse node scheme).run s =
      (.ok (matchProviderID parse scheme n), s) := by
  unfold detectNodeByProviderID
  rw [Code.run_bind_ok (run_nodeOrFirst h)]
  rfl

end

/-! ## The verdicts about a node -/

section

variable (parse : String → Except Err String) (n : Node)

/-- The scheme of the provider ID, if there is one. -/
def schemeOf : Except Err (Option String) :=
  if n.providerID = "" then .ok none else (parse n.providerID).map some

theorem matchProviderID_eq (scheme : String) :
    matchProviderID parse scheme n = match schemeOf parse n with
      | .error e => (false, none, some e)
      | .ok found => (found = some scheme, some n, none) := by
  unfold matchProviderID schemeOf
  by_cases hid : n.providerID = ""
  · simp [hid]
  · cases parse n.providerID with
    | error e => simp [hid, Except.map]
    | ok found => by_cases hscheme : found = scheme <;> simp [hid, hscheme, Except.map]

/-- The verdict of a provider's detector; `p` says whether it takes nodes like this one. -/
def providerVerdict (scheme name : String) (p : Bool) : Verdict :=
  match schemeOf parse n with
  | .error e => ⟨false, "", some (.other e)⟩
  | .ok found => if p then ⟨found = some scheme, name, none⟩ else ⟨false, "", none⟩

/-- Scheme, name, and whether the detector takes nodes like this one. -/
def providerTable : List (String × String × Bool) :=
  [("aws", amazon, true), ("azure", azure, true), ("gce", google, true),
    ("vsphere", vsphere, !onIntersight n), ("kind", kindP, true),
    ("vsphere", cisco, onIntersight n)]

def providerVerdicts : List Verdict :=
  (providerTable n).map fun (scheme, name, p) => providerVerdict parse n scheme name p

/-- The provider of a node. -/
def providerOf : String × Option DetectError :=
  conclude .unknownProvider (providerVerdicts parse n)

def distributionVerdict (distribution : String) (check : Bool) (provider : Option String) :
    Verdict :=
  if !check then ⟨false, distribution, none⟩
  else
    match provider with
    | none => ⟨true, distribution, none⟩
    | some provider =>
      match providerOf parse n with
      | (_, some .unknownProvider) => ⟨false, distribution, none⟩
      | (_, some e) => ⟨true, distribution, some e⟩
      | (detected, none) => ⟨detected = provider, distribution, none⟩

/-- Name, what the detector asks of the node, and the provider. -/
def distributionTable : List (String × Bool × Option String) :=
  [(eks, n.annotations.lookup criSocket = none ∧ n.labels.lookup osID = none, some amazon),
    (pke, n.labels.val "nodepool.banzaicloud.io/name" ≠ "" ∧ n.annotations.val criSocket ≠ "",
      none),
    (gke, n.labels.val "cloud.google.com/gke-nodepool" ≠ "", some google),
    (aks, n.labels.val "agentpool" ≠ "", some azure),
    (kindD, true, some kindP),
    (iks, onIntersight n, some cisco),
    (openshift, n.labels.val osID ≠ "", none)]

def distributionVerdicts : List Verdict :=
  (distributionTable n).map fun (distribution, check, provider) =>
    distributionVerdict parse n distribution check provider

end

section

variable {parse : String → Except Err String} {s : Site} {node : Option Node} {n : Node}

theorem answers_isByScheme (h : s.resolve node = some n) (scheme name : String) :
    Answers s node (isByScheme parse scheme name) (providerVerdict parse n scheme name true) := by
  unfold Answers isByScheme providerVerdict
  rw [Code.run_bind_ok (run_detectNodeByProviderID h scheme), matchProviderID_eq]
  cases schemeOf parse n <;> rfl

theorem answers_isOnVsphere (h : s.resolve node = some n) (intersight : Bool) (name : String) :
    Answers s node (isOnVsphere parse intersight name)
      (providerVerdict parse n "vsphere" name (onIntersight n == intersight)) := by
  unfold Answers isOnVsphere providerVerdict
  rw [Code.run_bind_ok (run_detectNodeByProviderID h "vsphere"), matchProviderID_eq]
  cases schemeOf parse n with
  | error e => rfl
  | ok found =>
    dsimp only
    rw [Code.run_bind_ok (run_deref n s)]
    cases onIntersight n == intersight <;> rfl

theorem answers_knownProviders (h : s.resolve node = some n) :
    List.Forall₂ (Answers s node) (knownProviders parse) (providerVerdicts parse n) := by
  have hv := @answers_isOnVsphere parse s node n h false vsphere
  have hc := @answers_isOnVsphere parse s node n h true cisco
  simp only [beq_false, beq_true] at hv hc
  exact .cons (answers_isByScheme h _ _) (.cons (answers_isByScheme h _ _)
    (.cons (answers_isByScheme h _ _) (.cons hv (.cons (answers_isByScheme h _ _)
    (.cons hc .nil)))))

/-- **The provider**: with the first node, or with any. -/
theorem run_detectProvider (hs : s.done = false) (h : s.resolve node = some n) :
    (detectProvider parse node).run s = (.ok (providerOf parse n), s) :=
  run_firstMatch hs (answers_knownProviders h)

theorem run_onNode (p : Node → Bool) : (onNode p (some n)).run s = (.ok (p n), s) := rfl

theorem answers_isDistribution (hs : s.done = false) (h : s.resolve node = some n)
    {check : Option Node → Probe Bool} {passed : Bool}
    (hcheck : (check (some n)).run s = (.ok passed, s)) (distribution : String)
    (provider : Option String) :
    Answers s node (isDistribution parse distribution check provider)
      (distributionVerdict parse n distribution passed provider) := by
  unfold Answers isDistribution distributionVerdict
  rw [Code.run_bind_ok (run_nodeOrFirst h)]
  dsimp only
  rw [Code.run_bind_ok hcheck]
  cases passed with
  | false => rfl
  | true =>
    cases provider with
    | none => rfl
    | some provider =>
      simp only [Bool.not_true, Bool.false_eq_true, if_false]
      rw [Code.run_bind_ok (run_detectProvider hs rfl)]
      obtain ⟨detected, err⟩ := providerOf parse n
      rcases err with _ | _ | _ | e <;> rfl

theorem answers_knownDistributions (hs : s.done = false) (h : s.resolve node = some n) :
    List.Forall₂ (Answers s node) (knownDistributions parse) (distributionVerdicts parse n) := by
  have hd := @answers_isDistribution parse s node n hs h
  exact .cons (hd (run_onNode _) _ _) (.cons (hd (run_onNode _) _ _)
    (.cons (hd (run_onNode _) _ _) (.cons (hd (run_onNode _) _ _) (.cons (hd rfl _ _)
    (.cons (hd (run_onNode _) _ _) (.cons (hd (run_onNode _) _ _) .nil))))))

/-- **The distribution**. -/
theorem run_detectDistribution (hs : s.done = false) (h : s.resolve node = some n) :
    (detectDistribution parse node).run s =
      (.ok (conclude .unknownDistribution (distributionVerdicts parse n)), s) :=
  run_firstMatch hs (answers_knownDistributions hs h)

end

/-! ## With and without a node -/

/-- Both detections with nil come to what they come to with the first node, and
without any node both say that it is unknown. -/
def AgreesOn (parse : String → Except Err String) : List Node → Prop
  | [] =>
    let s : Site := ⟨false, .ok []⟩
    (detectProvider parse none).run s = (.ok ("", some .unknownProvider), s) ∧
      (detectDistribution parse none).run s = (.ok ("", some .unknownDistribution), s)
  | n :: nodes =>
    let s : Site := ⟨false, .ok (n :: nodes)⟩
    (detectProvider parse none).run s = (detectProvider parse (some n)).run s ∧
      (detectDistribution parse none).run s = (detectDistribution parse (some n)).run s

/-- **No node given**. Every detector looks for the first node itself. Where there is
none, those for vSphere and for EKS read its labels all the same. -/
theorem agreesOn_iff (parse : String → Except Err String) (nodes : List Node) :
    AgreesOn parse nodes ↔ nodes ≠ [] := by
  cases nodes with
  | nil =>
    refine iff_of_false ?_ (not_not_intro rfl)
    rintro ⟨hprovider, -⟩
    cases congrArg Prod.fst hprovider
  | cons n nodes =>
    refine iff_of_true ⟨?_, ?_⟩ (List.cons_ne_nil n nodes)
    · rw [run_detectProvider rfl (n := n) rfl, run_detectProvider rfl (n := n) rfl]
    · rw [run_detectDistribution rfl (n := n) rfl, run_detectDistribution rfl (n := n) rfl]

theorem no_node_dereferenced :
    (detectProvider Except.ok none).run ⟨false, .ok []⟩ = (.error .nilNode, ⟨false, .ok []⟩) ∧
      (detectDistribution Except.ok none).run ⟨false, .ok []⟩ =
        (.error .nilNode, ⟨false, .ok []⟩) :=
  ⟨rfl, rfl⟩

/-! ## Provider and distribution together -/

/-- The detector accepts the node. -/
def Accepts (s : Site) (n : Node) (f : Detector) : Prop :=
  ∃ name, Answers s (some n) f ⟨true, name, none⟩

section

variable {parse : String → Except Err String} {s : Site} {n : Node} {unknown : DetectError}

theorem Answers.unique {node : Option Node} {f : Detector} {v w : Verdict}
    (hv : Answers s node f v) (hw : Answers s node f w) : v = w := by
  cases hv.symm.trans hw
  rfl

/-- Where two detectors look for the same scheme, one of them does not take the node. -/
theorem pairwise_providerTable (n : Node) :
    (providerTable n).Pairwise fun a b => ¬(a.2.2 = true ∧ b.2.2 = true ∧ a.1 = b.1) := by
  unfold providerTable
  cases onIntersight n <;> decide

theorem providerTable_unique (n : Node) : ∀ a ∈ providerTable n, ∀ b ∈ providerTable n,
    a.2.2 = true → b.2.2 = true → a.1 = b.1 → a = b := by
  unfold providerTable
  cases onIntersight n <;> decide

theorem providerVerdict_ok {scheme name : String} {p : Bool}
    (h : (providerVerdict parse n scheme name p).ok = true) :
    p = true ∧ schemeOf parse n = .ok (some scheme) := by
  unfold providerVerdict at h
  cases hscheme : schemeOf parse n with
  | error e =>
    rw [hscheme] at h
    cases h
  | ok found =>
    rw [hscheme] at h
    cases p with
    | false => cases h
    | true => exact ⟨rfl, congrArg Except.ok (of_decide_eq_true h)⟩

theorem providerVerdict_result {scheme name : String} {p : Bool}
    {x : String × Option DetectError} :
    (providerVerdict parse n scheme name p).result = some x ↔ match schemeOf parse n with
      | .error e => x = ("", some (.other e))
      | .ok found => p = true ∧ found = some scheme ∧ x = (name, none) := by
  unfold providerVerdict Verdict.result
  cases schemeOf parse n with
  | error e => simp [eq_comm]
  | ok found => cases p <;> simp [eq_comm]

theorem pairwise_providerVerdicts (parse : String → Except Err String) (n : Node) :
    (providerVerdicts parse n).Pairwise fun v w => ¬(v.ok = true ∧ w.ok = true) := by
  refine List.pairwise_map.mpr ((pairwise_providerTable n).imp ?_)
  rintro a b hab ⟨ha, hb⟩
  obtain ⟨hpa, hsa⟩ := providerVerdict_ok ha
  obtain ⟨hpb, hsb⟩ := providerVerdict_ok hb
  exact hab ⟨hpa, hpb, Option.some.inj (Except.ok.inj (hsa.symm.trans hsb))⟩

/-- No two detectors that come to a result come to different ones. -/
theorem providerVerdicts_agree :
    ∀ v ∈ providerVerdicts parse n, ∀ w ∈ providerVerdicts parse n,
      ∀ x ∈ v.result, ∀ y ∈ w.result, x = y := by
  unfold providerVerdicts
  simp only [List.forall_mem_map]
  intro a ha b hb x hx y hy
  rw [Option.mem_def, providerVerdict_result] at hx hy
  cases hscheme : schemeOf parse n with
  | error e =>
    simp only [hscheme] at hx hy
    rw [hx, hy]
  | ok found =>
    simp only [hscheme] at hx hy
    obtain ⟨hpa, hsa, rfl⟩ := hx
    obtain ⟨hpb, hsb, rfl⟩ := hy
    rw [providerTable_unique n a ha b hb hpa hpb (Option.some.inj (hsa.symm.trans hsb))]

/-- A loop that returns a name has met a detector that accepts under this name. -/
theorem conclude_eq_name {vs : List Verdict} {name : String}
    (h : conclude unknown vs = (name, none)) : ∃ v ∈ vs, v.result = some (name, none) := by
  unfold conclude at h
  cases hfind : vs.findSome? Verdict.result with
  | none =>
    rw [hfind] at h
    cases h
  | some x =>
    obtain ⟨v, hv, hx⟩ := List.exists_of_findSome?_eq_some hfind
    rw [hfind] at h
    cases h
    exact ⟨v, hv, hx⟩

/-- A distribution is accepted under its name, and with the provider that it asks for. -/
theorem distributionVerdict_result {distribution name : String} {check : Bool}
    {provider : Option String}
    (h : (distributionVerdict parse n distribution check provider).result = some (name, none)) :
    distribution = name ∧ ∀ wanted ∈ provider, providerOf parse n = (wanted, none) := by
  unfold distributionVerdict Verdict.result at h
  cases check with
  | false => cases h
  | true =>
    cases provider with
    | none =>
      cases h
      exact ⟨rfl, nofun⟩
    | some provider =>
      rcases hof : providerOf parse n with ⟨detected, _ | _ | _ | e⟩ <;> simp [hof] at h
      obtain ⟨rfl, rfl⟩ := h
      exact ⟨rfl, fun wanted hwanted => by rw [Option.mem_some.mp hwanted]⟩

/-- The provider of a distribution that has one of its own. -/
theorem provider_of_distribution {distribution provider : String}
    (hrow : (distribution, provider) ∈
      [(eks, amazon), (gke, google), (aks, azure), (kindD, kindP), (iks, cisco)])
    (h : conclude unknown (distributionVerdicts parse n) = (distribution, none)) :
    providerOf parse n = (provider, none) := by
  obtain ⟨v, hv, hresult⟩ := conclude_eq_name h
  obtain ⟨⟨name, check, wanted⟩, hmem, rfl⟩ := List.mem_map.mp hv
  have hasked : (name, wanted) ∈ [(eks, some amazon), (pke, none), (gke, some google),
      (aks, some azure), (kindD, some kindP), (iks, some cisco), (openshift, none)] :=
    List.mem_map_of_mem (f := fun row => (row.1, row.2.2)) hmem
  have hrows : ∀ r ∈ [(eks, some amazon), (pke, none), (gke, some google), (aks, some azure),
      (kindD, some kindP), (iks, some cisco), (openshift, none)],
      ∀ p ∈ [(eks, amazon), (gke, google), (aks, azure), (kindD, kindP), (iks, cisco)],
      r.1 = p.1 → r.2 = some p.2 := by decide
  obtain ⟨hname, hprovider⟩ := distributionVerdict_result hresult
  exact hprovider provider (hrows _ hasked _ hrow hname)

end

/-- **One provider, and the distribution's own**. -/
theorem detection_coherent (parse : String → Except Err String) (n : Node)
    (nodes : Except Err (List Node)) :
    (knownProviders parse).Pairwise
        (fun f g => ¬(Accepts ⟨false, nodes⟩ n f ∧ Accepts ⟨false, nodes⟩ n g)) ∧
      (∀ fs, fs.Perm (knownProviders parse) →
        (firstMatch .unknownProvider fs (some n)).run ⟨false, nodes⟩ =
          (detectProvider parse (some n)).run ⟨false, nodes⟩) ∧
      ∀ distribution provider, (distribution, provider) ∈
          [(eks, amazon), (gke, google), (aks, azure), (kindD, kindP), (iks, cisco)] →
        (detectDistribution parse (some n)).run ⟨false, nodes⟩ =
          (.ok (distribution, none), ⟨false, nodes⟩) →
        (detectProvider parse (some n)).run ⟨false, nodes⟩ =
          (.ok (provider, none), ⟨false, nodes⟩) := by
  have hknown := @answers_knownProviders parse ⟨false, nodes⟩ (some n) n rfl
  refine ⟨?_, fun fs hfs => ?_, fun distribution provider hrow hdist => ?_⟩
  · refine pairwise_of_forall₂ hknown (pairwise_providerVerdicts parse n) ?_
    rintro f g v w hf hg hvw ⟨⟨name, hv⟩, ⟨name', hw⟩⟩
    rw [hf.unique hv, hg.unique hw] at hvw
    exact hvw ⟨rfl, rfl⟩
  · obtain ⟨vs, hvs, hperm⟩ := List.perm_comp_forall₂ hfs hknown
    rw [detectProvider, run_firstMatch rfl hvs, run_firstMatch rfl hknown, conclude, conclude,
      findSome_eq_of_perm hperm.symm providerVerdicts_agree]
  · rw [run_detectDistribution rfl rfl] at hdist
    rw [run_detectProvider rfl rfl, provider_of_distribution hrow
      (Except.ok.inj (Prod.mk.inj hdist).1)]

example : (detectDistribution (fun _ => .ok "kind") (some { providerID := "kind://node" })).run
      ⟨false, .ok []⟩ = (.ok (kindD, none), ⟨false, .ok []⟩) := by
  rfl

end ClusterRegistry.Meta
