import ClusterRegistry.Members.Conflict

/-!
# The admission webhook for `Cluster` resources

`pkg/webhooks/cluster_validator.go`. The validator only looks at resources
whose stored type is not `Peer`, so that what it lets through depends on what
the reconciler has stored: a disabled local cluster is stored as a peer, and so
is a remote cluster that is about to get the local ID.
-/

namespace ClusterRegistry.Members

open Lib Lib.Code Registry

/-! ## The validator -/

/-- The test in the loop of `validateUniqueLocalCluster`. -/
def clashes (newClusterCR oldClusterCR : ClusterObject) : Bool :=
  oldClusterCR.status.type = .local &&
    oldClusterCR.spec.clusterID = newClusterCR.spec.clusterID &&
    -- an older version of itself is no reason to reject an update
    oldClusterCR.name ≠ newClusterCR.name

def validateUniqueLocalCluster (newClusterCR : ClusterObject)
    (oldClusterCRs : List ClusterObject) : Except Err Unit :=
  if newClusterCR.status.type = .peer then .ok ()
  else
    match oldClusterCRs.find? (clashes newClusterCR) with
    | some oldClusterCR =>
      .error (.new ("a local cluster CR with name " ++ oldClusterCR.name ++
        " already exists with the same clusterID " ++ newClusterCR.spec.clusterID))
    | none => .ok ()

inductive Response where
  | allowed
  | errored (code : Nat) (err : Err)
  deriving DecidableEq

def statusBadRequest : Nat := 400
def statusConflict : Nat := 409

/-- `ClusterValidator.Handle`, for the outcomes of decoding the request and of
the list call. -/
def ClusterValidator.handle (decoded : Except Err ClusterObject)
    (listed : Except Err (List ClusterObject)) : Response :=
  match decoded with
  | .error e =>
    .errored statusBadRequest (e.wrapIf "decoding admission request as new cluster CR failed")
  | .ok newClusterCR =>
    match listed with
    | .error e => .errored statusConflict (e.wrapIf "listing existing cluster CRs failed")
    | .ok oldClusterCRs =>
      match validateUniqueLocalCluster newClusterCR oldClusterCRs with
      | .error e =>
        .errored statusConflict (e.wrapIf "validating unique local cluster CR failed")
      | .ok () => .allowed

theorem validateUniqueLocalCluster_ok {new : ClusterObject} {old : List ClusterObject} :
    validateUniqueLocalCluster new old = .ok () ↔
      new.status.type = .peer ∨ ∀ c ∈ old, clashes new c = false := by
  unfold validateUniqueLocalCluster
  by_cases ht : new.status.type = .peer
  · simp [ht]
  · rw [if_neg ht, or_iff_right ht]
    cases hf : old.find? (clashes new) with
    | none =>
      exact iff_of_true rfl fun c hc => Bool.eq_false_iff.mpr (List.find?_eq_none.mp hf c hc)
    | some c =>
      refine iff_of_false nofun fun h => ?_
      exact absurd ((h c (List.mem_of_find?_eq_some hf)).symm.trans (List.find?_some hf)) nofun

/-- A request is allowed if it says that it is for a peer, or if no resource
known to be local has its cluster ID under another name. -/
theorem handle_eq_allowed {new : ClusterObject} {old : List ClusterObject} :
    ClusterValidator.handle (.ok new) (.ok old) = .allowed ↔ new.status.type = .peer ∨
      ∀ c ∈ old, c.status.type = .local → c.spec.clusterID = new.spec.clusterID →
        c.name = new.name := by
  have hvalid : ClusterValidator.handle (.ok new) (.ok old) = .allowed ↔
      validateUniqueLocalCluster new old = .ok () := by
    cases h : validateUniqueLocalCluster new old <;> simp [ClusterValidator.handle, h]
  rw [hvalid, validateUniqueLocalCluster_ok]
  simp [clashes]

/-! ## Requests -/

inductive Request where
  | create (obj : ClusterObject)
  /-- The spec and the annotations change; the status is the stored one. -/
  | update (name : String) (spec : ClusterSpec) (annotations : StringMap)
  | delete (name : String)

def ClusterObject.updated (c : ClusterObject) (spec : ClusterSpec) (annotations : StringMap)
    (version : Nat) : ClusterObject :=
  { c with spec := spec, annotations := annotations, resourceVersion := version }

/-- The object that a create or update request would store. -/
def World.requested (w : World) : Request → Option ClusterObject
  | .create obj => some (obj.created (w.rev + 1))
  | .update name spec annotations =>
    (w.clusters.get name).map (·.updated spec annotations (w.rev + 1))
  | .delete _ => none

def Request.name : Request → String
  | .create obj => obj.name
  | .update name _ _ => name
  | .delete name => name

def World.store (w : World) (r : Request) : World :=
  let clusters :=
    match w.requested r with
    | some obj => w.clusters.put obj
    | none => w.clusters.erase r.name
  { w with clusters := clusters, rev := w.rev + 1 }

/-- A resource can be created once, and changed or deleted while it is there. -/
def World.Possible (w : World) : Request → Prop
  | .create obj => w.clusters.get obj.name = none
  | .update name _ _ => w.clusters.get name ≠ none
  | .delete name => w.clusters.get name ≠ none

/-- The validator allows the request, for the resources as they are listed. -/
def World.Admits (w : World) (order : Shuffle ClusterObject) (r : Request) : Prop :=
  ∀ obj, w.requested r = some obj →
    ClusterValidator.handle (.ok obj) (.ok (order.arrange w.clusters.toList)) = .allowed

instance (w : World) (order : Shuffle ClusterObject) (r : Request) : Decidable (w.Admits order r) :=
  inferInstanceAs (Decidable (∀ obj ∈ w.requested r, _))

theorem name_requested {w : World} {r : Request} {obj : ClusterObject}
    (h : w.requested r = some obj) : obj.name = r.name := by
  cases r with
  | create c =>
    cases h
    rfl
  | update name spec annotations =>
    obtain ⟨c, hc, rfl⟩ := Option.map_eq_some_iff.mp h
    show c.name = name
    exact Table.key_of_get hc
  | delete name => cases h

theorem replaces_store (w : World) (r : Request) :
    Replaces (w.registry ()) ((w.store r).registry ()) r.name (w.requested r) := by
  refine ⟨fun m => ?_, Nat.le_succ _, rfl⟩
  show (w.store r).clusters.get m = _
  unfold World.store
  cases h : w.requested r with
  | none => exact Table.get_erase _ _ _
  | some obj =>
    rw [← name_requested h]
    exact Table.get_put _ _ _

/-! ## Runs -/

/-- The resources, and the names of those that the reconciler has not seen
since their last change. -/
structure Served where
  world : World
  stale : Finset String := ∅

inductive Traffic where
  | request (r : Request) (order : Shuffle ClusterObject)
  | reconcile (name : String) (env : Env)

namespace Served

def registry (s : Served) : Registry := s.world.registry ()

def next (s : Served) : Traffic → Served
  | .request r _ => ⟨s.world.store r, insert r.name s.stale⟩
  | .reconcile n env => ⟨((reconcile env n).run s.world).2, s.stale.erase n⟩

/-- A request comes when every resource has been reconciled: no stale one is left. -/
def Enabled (s : Served) : Traffic → Prop
  | .request r order => (∀ n ∈ s.stale, s.world.clusters.get n = none) ∧
      s.world.Possible r ∧ s.world.Admits order r
  | .reconcile _ env => env.Steady

/-- No request for the local ID comes with the type of a peer, or while a
disabled resource has the ID. -/
def Checked (s : Served) : Traffic → Prop
  | .request r _ => ∀ obj, s.world.requested r = some obj →
      obj.spec.clusterID = s.registry.localID → ∀ y c, s.registry.LocalAt y c → y ≠ r.name →
        obj.status.type ≠ .peer ∧ c.disabled = false
  | .reconcile _ _ => True

/-- What is stored tells the enabled local clusters from the others. -/
def Typed (s : Served) : Prop :=
  ∀ x c, s.registry.LocalAt x c → x ∉ s.stale → (c.status.type = .local ↔ c.disabled = false)

end Served

/-- At most one resource has the local cluster ID. -/
def Registry.Unique (g : Registry) : Prop :=
  ∀ x y c c', g.LocalAt x c → g.LocalAt y c' → x = y

/-- Requests that pass the webhook, and calls of the reconciler in between. -/
def admission : System Served Traffic where
  init := fun s => s.world.clusters = Table.empty
  ok := fun _ s t => s.Enabled t
  step := Served.next

/-- A call keeps the local clusters, and updates the type of its own one. -/
theorem Effect.localAt {env : Env} {g g' : Registry} {n x : String} {c' : ClusterObject}
    (he : Effect env g g' n) (h : g'.LocalAt x c') :
    ∃ c, g.LocalAt x c ∧ (x ≠ n → c' = c) ∧
      (x = n → (c'.status.type = .local ↔ c'.disabled = false)) := by
  cases he with
  | absent hn hg =>
    have hl : g.LocalAt x c' := by
      rw [hg] at h
      exact ⟨h.1, h.2.trans (localIDOf_localIDOf _ _)⟩
    refine ⟨c', hl, fun _ => rfl, ?_⟩
    rintro rfl
    exact absurd (hn.symm.trans hl.1) nofun
  | enabledLocal hc hen hr hs ht =>
    by_cases hx : x = n
    · subst hx
      obtain ⟨hc', -⟩ := hr.localAt_self.mp h
      cases hc'
      exact ⟨_, hc, fun hne => absurd rfl hne, fun _ => iff_of_true ht (hs.disabled.trans hen)⟩
    · exact ⟨c', (hr.localAt hx).mp h, fun _ => rfl, fun e => absurd e hx⟩
  | @peer c c₁ hc hp hr hs ht =>
    by_cases hx : x = n
    · subst hx
      obtain ⟨hc', hid⟩ := hr.localAt_self.mp h
      cases hc'
      have hid' : c.spec.clusterID = g.localID := hs.spec ▸ hid
      have hdis : c.disabled = true := hp.resolve_left fun hne => hne hid'
      refine ⟨c, ⟨hc, hid'⟩, fun hne => absurd rfl hne, fun _ => iff_of_false ?_ ?_⟩
      · rw [ht hdis]
        nofun
      · rw [hs.disabled, hdis]
        nofun
    · exact ⟨c', (hr.localAt hx).mp h, fun _ => rfl, fun e => absurd e hx⟩

theorem typed_next {s : Served} (h : s.Typed) {t : Traffic} (ht : s.Enabled t) :
    (s.next t).Typed := by
  intro x c hl hx
  cases t with
  | request r order =>
    have hne : x ≠ r.name := fun e => hx (Finset.mem_insert.mpr (.inl e))
    exact h x c (((replaces_store s.world r).localAt hne).mp hl)
      fun hm => hx (Finset.mem_insert_of_mem hm)
  | reconcile n env =>
    obtain ⟨c₀, hl₀, hother, hown⟩ := (effect_reconcile ht n s.world).localAt hl
    by_cases e : x = n
    · exact hown e
    · rw [hother e]
      exact h x c₀ hl₀ fun hm => hx (Finset.mem_erase.mpr ⟨e, hm⟩)

theorem typed_of_run {tr : List (Served × Traffic)} {s : Served} (h : Run admission tr s) :
    s.Typed := by
  refine h.invariant (P := Served.Typed) ?_ fun _ _ _ _ hs hok => typed_next hs hok
  exact fun s hs x c hl => absurd hl (not_localAt_of_empty (g := s.registry) hs)

/-- One request. -/
theorem unique_store_iff {s : Served} (hu : s.registry.Unique) (hs : s.Typed) {r : Request}
    {order : Shuffle ClusterObject} (hok : s.Enabled (.request r order)) :
    (s.next (.request r order)).registry.Unique ↔ s.Checked (.request r order) := by
  have hr := replaces_store s.world r
  obtain ⟨hfresh, -, hadmits⟩ := hok
  constructor
  · intro hu' obj hobj hid y c hl hne
    refine absurd (hu' y r.name c obj ?_ ?_) hne
    · exact (hr.localAt hne).mpr hl
    · exact hr.localAt_self.mpr ⟨hobj, hid⟩
  · intro hch
    have hclash : ∀ y c obj, s.registry.LocalAt y c → y ≠ r.name →
        s.world.requested r = some obj → obj.spec.clusterID = s.registry.localID → False := by
      intro y c obj hl hne hobj hid
      obtain ⟨hpeer, hen⟩ := hch obj hobj hid y c hl hne
      have hseen : y ∉ s.stale := fun hm => absurd ((hfresh y hm).symm.trans hl.1) nofun
      have hlocal := (hs y c hl hseen).mpr hen
      have hname : c.name = y := Table.key_of_get hl.1
      have hmem : c ∈ order.arrange s.world.clusters.toList :=
        order.mem.mpr (Table.mem_toList.mpr (hname ▸ hl.1))
      have := (handle_eq_allowed.mp (hadmits obj hobj)).resolve_left hpeer c hmem hlocal
        (hl.2.trans hid.symm)
      exact hne (hname.symm.trans (this.trans (name_requested hobj)))
    intro x y c c' hx hy
    by_cases ex : x = r.name <;> by_cases ey : y = r.name
    · rw [ex, ey]
    · subst ex
      obtain ⟨hobj, hid⟩ := hr.localAt_self.mp hx
      exact (hclash y c' c ((hr.localAt ey).mp hy) ey hobj hid).elim
    · subst ey
      obtain ⟨hobj, hid⟩ := hr.localAt_self.mp hy
      exact (hclash x c c' ((hr.localAt ex).mp hx) ex hobj hid).elim
    · exact hu x y c c' ((hr.localAt ex).mp hx) ((hr.localAt ey).mp hy)

theorem unique_next_iff {s : Served} (hu : s.registry.Unique) (hs : s.Typed) {t : Traffic}
    (hok : s.Enabled t) : (s.next t).registry.Unique ↔ s.Checked t := by
  cases t with
  | request r order => exact unique_store_iff hu hs hok
  | reconcile n env =>
    refine iff_of_true (fun x y c c' hx hy => ?_) trivial
    obtain ⟨c₀, hx₀, -⟩ := (effect_reconcile hok n s.world).localAt hx
    obtain ⟨c₁, hy₀, -⟩ := (effect_reconcile hok n s.world).localAt hy
    exact hu x y c₀ c₁ hx₀ hy₀

/-- **The local cluster is unique** in every state of a run, if and only if
every request of the run was one that the validator can judge. -/
theorem local_unique_iff {tr : List (Served × Traffic)} {s : Served}
    (h : Run admission tr s) :
    (∀ v ∈ states tr s, v.registry.Unique) ↔ ∀ p ∈ tr, p.1.Checked p.2 := by
  refine h.good_iff (G := fun v => v.registry.Unique) (C := Served.Checked) ?_ ?_
  · exact fun v hv x y c c' hx => absurd hx (not_localAt_of_empty (g := v.registry) hv)
  · exact fun _ v t hr hu hok => unique_next_iff hu (typed_of_run hr) hok

instance (s : Served) (t : Traffic) : Decidable (s.Checked t) :=
  match t with
  | .reconcile _ _ => .isTrue trivial
  | .request r _ =>
    decidable_of_iff (∀ obj ∈ s.world.requested r, obj.spec.clusterID = s.registry.localID →
        ∀ c ∈ s.world.clusters.toList, c.spec.clusterID = s.registry.localID → c.name ≠ r.name →
          obj.status.type ≠ .peer ∧ c.disabled = false) <| by
      simp only [Served.Checked, s.registry.forall_localAt, Option.mem_def]
      rfl

instance (g : Registry) : Decidable g.Unique :=
  decidable_of_iff (∀ c ∈ g.clusters.toList, c.spec.clusterID = g.localID →
      ∀ c' ∈ g.clusters.toList, c'.spec.clusterID = g.localID → c.name = c'.name) <| by
    simp only [Registry.Unique]
    constructor
    · intro h x y c c' hx hy
      obtain ⟨hc, rfl, hid⟩ := g.localAt_iff.mp hx
      obtain ⟨hc', rfl, hid'⟩ := g.localAt_iff.mp hy
      exact h c hc hid c' hc' hid'
    · intro h c hc hid c' hc' hid'
      exact h c.name c'.name c c' (g.localAt_iff.mpr ⟨hc, rfl, hid⟩)
        (g.localAt_iff.mpr ⟨hc', rfl, hid'⟩)

/-- The local cluster, and a remote one whose secret is missing. -/
def enrolled : List (Served × Traffic) × Served :=
  played admission [] { world := { kubeSystemUID := "home" } }
    [.request (.create (localCluster "x")) (.refl _), .reconcile "x" .smooth,
      .request (.create (peer "y" "s")) (.refl _), .reconcile "y" .smooth]

theorem run_enrolled : Run admission enrolled.1 enrolled.2 := by
  refine Run.plays (.init rfl) ⟨⟨?_, rfl, ?_⟩, steady_smooth, ⟨?_, rfl, ?_⟩, steady_smooth, trivial⟩
  all_goals decide +kernel

theorem local_unique_iff_enrolled :
    (∀ p ∈ enrolled.1, p.1.Checked p.2) ∧
      ∀ v ∈ states enrolled.1 enrolled.2, v.registry.Unique := by
  have hchecked : ∀ p ∈ enrolled.1, p.1.Checked p.2 := by decide +kernel
  exact ⟨hchecked, (local_unique_iff run_enrolled).mpr hchecked⟩

/-- The remote cluster gets the local ID: its stored type is that of a peer. -/
def intruding : Traffic := .request (.update "y" { clusterID := "home" } ∅) (.refl _)

theorem not_unique_intruding :
    Run admission ((enrolled.2, intruding) :: enrolled.1) (enrolled.2.next intruding) ∧
      ¬(enrolled.2.next intruding).registry.Unique := by
  refine ⟨.step intruding run_enrolled ⟨?_, ?_, ?_⟩, ?_⟩
  · decide +kernel
  · show _ ≠ none
    decide +kernel
  · decide +kernel
  · decide +kernel

end ClusterRegistry.Members
