import ClusterRegistry.Clusters.Active
import ClusterRegistry.Sync.Reconciler

/-!
# The rule registry

`controllers/resource_sync_rule_reconciler.go`: for each `ResourceSyncRule`
every registered cluster gets a controller named after the rule, active or
pending. Operations of the rule reconciler, the manager and the feature
reconciler are atomic steps here; `held c n` is the controller that a cluster
keeps for a name in either map, and feature events only move it.

A changed rule is taken out of the cluster before its new controller is made, and
in between the reconciler waits on the context of the old controller. Whether there
is one depends on starts and clean-ups of the controller (`Rules.Regeneration`), and
comes with the step here; without it the wait panics.

Between them the steps refine the plain registry `lastSeen`, what the last
reconcile of the rule saw, exactly as long as no reconcile runs into such a wait.
-/

namespace ClusterRegistry.Rules

open Lib Lib.Eff Clusters Sync

/-- The reconcilers that controllers of a remote cluster carry. -/
inductive Reconciler where
  | remoteCluster (clusterName : String)
  | remoteClusterFeature (clusterName : String)
  | sync (r : SyncReconciler)

/-- The spec of `GetRule`, for a `SyncReconciler`. -/
def Reconciler.spec : Reconciler → Option ResourceSyncRuleSpec
  | sync r => some r.rule.spec
  | _ => none

/-- The spec of `&ResourceSyncRule{}`. -/
def emptySpec : ResourceSyncRuleSpec := ⟨none, GVK.none, none⟩

/-- How a call fails: with an error that it returns, or with a panic, which ends the
process. -/
inductive Failure where
  | returned (e : Err)
  | panicked

def Failure.isPanic : Failure → Bool
  | .returned _ => false
  | .panicked => true

/-- The call returns, with or without an error. -/
def returns : Except Failure Unit → Bool
  | .ok _ => true
  | .error e => !e.isPanic

section

variable (x : External) (newRateLimiter : Except Err Unit)

def requiredClusterFeatures (spec : ResourceSyncRuleSpec) : List ClusterFeatureRequirement :=
  (elems spec.clusterFeatureMatches).map fun m => ⟨m.featureName, m.matchLabels, m.matchExpressions⟩

/-- The controller that `InitNewResourceSyncController` builds. -/
def newController (rule : ResourceSyncRule) (clusterID : String) : ManagedController Reconciler :=
  ⟨rule.name, .sync (newSyncReconciler rule clusterID true), requiredClusterFeatures rule.spec⟩

def initNewResourceSyncController (rule : ResourceSyncRule) :
    Eff (Cluster Reconciler) Err Unit := do
  (lift newRateLimiter).mapError (·.wrapIf "could not create rate limiter")
  modify fun cluster => cluster.addController x (newController rule cluster.clusterID)

/-- `syncClusterController`; `context` says whether the controller has a context when
`ctrl.Stopped()` is evaluated. -/
def syncClusterController (context : Bool) (sr : ResourceSyncRule) :
    Eff (Cluster Reconciler) Failure Unit := do
  let cluster ← get
  if !cluster.hasController sr.name then
    liftError .returned (initNewResourceSyncController x newRateLimiter sr)
  else
    match cluster.getController sr.name with
    | none => throw .panicked
    | some ctrl =>
      if ctrl.reconciler.spec.getD emptySpec ≠ sr.spec then
        modify (·.removeController ctrl)
        -- `<-ctrl.Stopped()`
        if context then liftError .returned (initNewResourceSyncController x newRateLimiter sr)
        else throw .panicked
      else pure ()

/-- A turn of the loop in `reconcile`: an error is logged, a panic is the end. -/
def syncLogged (context : Bool) (sr : ResourceSyncRule) (cluster : Cluster Reconciler) :
    Cluster Reconciler × Bool :=
  let call := syncClusterController x newRateLimiter context sr cluster
  (call.2, returns call.1)

/-- `reconcile` of the rule `name`; `contexts` says of which clusters the controller of
that name has a context. -/
def reconcile (name : String) (read : Except Err ResourceSyncRule) (order : List String)
    (contexts : String → Bool) : Eff (Manager Reconciler) Failure Unit := fun m =>
  match read with
  | .error e =>
    if e.reason = .notFound then
      (.ok (), Map.rangeUpdate (·.removeControllerByName name) order m)
    else (.error (.returned e), m)
  | .ok sr =>
    let loop :=
      Map.rangeWhile (fun cname => syncLogged x newRateLimiter (contexts cname) sr) order m
    (if loop.2 then .ok () else .error .panicked, loop.1)

/-- The cluster that `getRemoteCluster` hands to `Manager.Add`, before it is started. -/
def newRemoteCluster (name : String) : Cluster Reconciler :=
  let cluster : Cluster Reconciler := { name := name }
  let cluster := cluster.addController x ⟨"remote-cluster", .remoteCluster name, []⟩
  cluster.addController x ⟨"remote-cluster-feature", .remoteClusterFeature name, []⟩

end

/-! ## Runs -/

inductive Act where
  | reconcile (name : String) (read : Except Err ResourceSyncRule) (order : List String)
      (contexts : String → Bool)
  | add (cluster : Cluster Reconciler)
  | remove (name : String)
  | addFeature (cluster : String) (feature : ClusterFeature) (order : List String)
  | removeFeature (cluster : String) (uid : String) (order : List String)

/-- Neither of the controllers every remote cluster has. -/
def IsRuleName (n : String) : Prop := n ≠ "remote-cluster" ∧ n ≠ "remote-cluster-feature"

instance (n : String) : Decidable (IsRuleName n) := inferInstanceAs (Decidable (_ ∧ _))

namespace Act

variable (x : External) (newRateLimiter : Except Err Unit)

def apply (m : Manager Reconciler) : Act → Manager Reconciler
  | reconcile name read order contexts =>
    (Rules.reconcile x newRateLimiter name read order contexts).final m
  | add cluster => m.insert cluster.name cluster
  | remove name => m.erase name
  | addFeature name feature order => m.modify name (·.addFeature x feature order)
  | removeFeature name uid order => m.modify name (·.removeFeature x uid order)

/-- The step ends in a panic. -/
def Panics (m : Manager Reconciler) : Act → Prop
  | reconcile name read order contexts =>
    (Rules.reconcile x newRateLimiter name read order contexts m).1 = .error .panicked
  | _ => False

/-- Reads return the rule of that name; a new cluster has the two built-in
controllers, and whatever features it has announced by then. -/
def Allowed (m : Manager Reconciler) : Act → Prop
  | reconcile name read order _ => IsRuleName name ∧ Map.IsOrder m order ∧
      ∀ sr, read = .ok sr → sr.name = name
  | add cluster => cluster.controllers = (newRemoteCluster x cluster.name).controllers ∧
      cluster.pendingControllers = (newRemoteCluster x cluster.name).pendingControllers
  | remove _ => True
  | addFeature name _ order => ∀ c, m.lookup name = some c → Map.IsOrder c.pendingControllers order
  | removeFeature name _ order => ∀ c, m.lookup name = some c → Map.IsOrder c.controllers order

end Act

/-- A panic ends the run. -/
def registry (x : External) (newRateLimiter : Except Err Unit) :
    System (Manager Reconciler) Act where
  init m := m = ∅
  ok tr m a := (∀ p ∈ tr, ¬p.2.Panics x newRateLimiter p.1) ∧ a.Allowed x m
  step m a := a.apply x newRateLimiter m

/-- The abstract registry: the spec that the last reconcile of the rule saw,
if it saw one, since the cluster was added. A failed read saw nothing. -/
def lastSeen (cluster n : String) : List (Manager Reconciler × Act) → Option ResourceSyncRuleSpec
  | [] => none
  | (_, .reconcile name read _ _) :: tr =>
    if name = n then
      match read with
      | .ok sr => some sr.spec
      | .error e => if e.reason = .notFound then none else lastSeen cluster n tr
    else lastSeen cluster n tr
  | (_, .add c) :: tr => if c.name = cluster then none else lastSeen cluster n tr
  | (_, _) :: tr => lastSeen cluster n tr

/-! ## What a cluster holds under a name -/

section held

variable {x : External} {R : Type}

def held (c : Cluster R) (n : String) : Option (ManagedController R) :=
  (c.slot n).1.or (c.slot n).2

theorem or_retried {features : Map String ClusterFeature}
    {s : Option (ManagedController R) × Option (ManagedController R)}
    (h : s.1 = none ∨ s.2 = none) :
    (Cluster.retried x features s).1.or (Cluster.retried x features s).2 = s.1.or s.2 := by
  obtain ⟨a, p⟩ := s
  cases p with
  | none => rfl
  | some ctrl =>
    obtain rfl : a = none := by simpa using h
    simp only [Cluster.retried]
    split <;> rfl

theorem or_rechecked {features : Map String ClusterFeature}
    {s : Option (ManagedController R) × Option (ManagedController R)} :
    (Cluster.rechecked x features s).1.or (Cluster.rechecked x features s).2 = s.1.or s.2 := by
  obtain ⟨a, p⟩ := s
  cases a with
  | none => rfl
  | some ctrl =>
    simp only [Cluster.rechecked]
    split <;> rfl

/-- **Conservation**: a feature event loses and duplicates no controller. -/
theorem held_addFeature {c : Cluster R} (hw : c.WF) {f : ClusterFeature} {order : List String}
    (ho : Map.IsOrder c.pendingControllers order) (n : String) :
    held (c.addFeature x f order) n = held c n := by
  obtain ⟨-, -, hs⟩ := Cluster.addFeature_spec (x := x) (f := f) hw ho
  unfold held
  rw [hs]
  exact or_retried (hw.disjoint n)

theorem held_removeFeature {c : Cluster R} (hw : c.WF) {uid : String} {order : List String}
    (ho : Map.IsOrder c.controllers order) (n : String) :
    held (c.removeFeature x uid order) n = held c n := by
  obtain ⟨-, -, hs⟩ := Cluster.removeFeature_spec (x := x) hw uid ho
  unfold held
  rw [hs]
  exact or_rechecked

theorem held_addController {c : Cluster R} {ctrl : ManagedController R}
    (h : c.controllers.lookup ctrl.name = none) (n : String) :
    held (c.addController x ctrl) n = if n = ctrl.name then some ctrl else held c n := by
  unfold held
  rw [Cluster.slot_addController h]
  split
  · split <;> rfl
  · rfl

theorem held_removeControllerByName (c : Cluster R) (name n : String) :
    held (c.removeControllerByName name) n = if n = name then none else held c n := by
  unfold held
  rw [Cluster.slot_removeControllerByName]
  split <;> rfl

theorem held_of_active {c : Cluster R} {n : String} {ctrl : ManagedController R}
    (h : c.controllers.lookup n = some ctrl) : held c n = some ctrl := by
  simp [held, Cluster.slot, h]

theorem held_iff {c : Cluster R} (hw : c.WF) {n : String} {ctrl : ManagedController R} :
    held c n = some ctrl ↔
      c.controllers.lookup n = some ctrl ∨ c.pendingControllers.lookup n = some ctrl := by
  unfold held Cluster.slot
  rcases hw.disjoint n with h | h <;> simp [h]

end held

/-! ## One step -/

/-- The spec that the reconciler under a name holds, if it is a sync reconciler. -/
def heldSpec (c : Cluster Reconciler) (n : String) : Option (Option ResourceSyncRuleSpec) :=
  (held c n).map (·.reconciler.spec)

section step

variable {x : External}

theorem init_wf {c : Cluster Reconciler} {newRateLimiter : Except Err Unit} (hw : c.WF)
    {sr : ResourceSyncRule} (h : c.controllers.lookup sr.name = none) :
    ((initNewResourceSyncController x newRateLimiter sr).final c).WF := by
  cases newRateLimiter with
  | error e => exact hw
  | ok u => exact hw.addController h

theorem init_spec {c : Cluster Reconciler} {sr : ResourceSyncRule}
    (h : c.controllers.lookup sr.name = none) (n : String) :
    heldSpec ((initNewResourceSyncController x (.ok ()) sr).final c) n =
      if n = sr.name then some (some sr.spec) else heldSpec c n := by
  have e : (initNewResourceSyncController x (.ok ()) sr).final c =
      c.addController x (newController sr c.clusterID) := rfl
  unfold heldSpec
  rw [e, held_addController (by exact h)]
  show Option.map _ (if n = sr.name then _ else _) = _
  split <;> rfl

/-- The rule has changed, and its active controller, which is to be replaced, has no context. -/
def AwaitsNil (context : Bool) (sr : ResourceSyncRule) (c : Cluster Reconciler) : Prop :=
  context = false ∧ ∃ ctrl, c.controllers.lookup sr.name = some ctrl ∧
    ctrl.reconciler.spec.getD emptySpec ≠ sr.spec

section

variable {c : Cluster Reconciler} {sr : ResourceSyncRule} {newRateLimiter : Except Err Unit}
  {context : Bool}

theorem returns_liftError (m : Eff (Cluster Reconciler) Err Unit) (c : Cluster Reconciler) :
    returns (liftError Failure.returned m c).1 = true := by
  unfold liftError
  cases (m c).1 <;> rfl

theorem sync_absent (h : c.controllers.lookup sr.name = none) :
    syncLogged x newRateLimiter context sr c =
      ((initNewResourceSyncController x newRateLimiter sr).final c, true) := by
  have hsync : syncClusterController x newRateLimiter context sr c =
      liftError .returned (initNewResourceSyncController x newRateLimiter sr) c := by
    show (if !c.hasController sr.name then _ else _ : Eff _ _ _) c = _
    rw [Cluster.hasController, h]
    rfl
  unfold syncLogged
  rw [hsync]
  exact Prod.ext rfl (returns_liftError _ _)

theorem sync_active {ctrl : ManagedController Reconciler}
    (h : c.controllers.lookup sr.name = some ctrl) :
    syncLogged x newRateLimiter context sr c =
      if ctrl.reconciler.spec.getD emptySpec ≠ sr.spec then
        if context then
          ((initNewResourceSyncController x newRateLimiter sr).final (c.removeController ctrl),
            true)
        else (c.removeController ctrl, false)
      else (c, true) := by
  have hsync : syncClusterController x newRateLimiter context sr c =
      (if ctrl.reconciler.spec.getD emptySpec ≠ sr.spec then
        if context then
          liftError .returned (initNewResourceSyncController x newRateLimiter sr)
            (c.removeController ctrl)
        else (.error .panicked, c.removeController ctrl)
      else (.ok (), c)) := by
    show (if !c.hasController sr.name then _ else
      match c.getController sr.name with
      | none => _
      | some ctrl => _ : Eff _ _ _) c = _
    rw [Cluster.hasController, Cluster.getController, h, if_neg (by simp)]
    simp only
    split
    · cases context <;> rfl
    · rfl
  unfold syncLogged
  rw [hsync]
  split
  · cases context with
    | false => rfl
    | true => exact Prod.ext rfl (returns_liftError _ _)
  · rfl

theorem syncLogged_stops_iff :
    (syncLogged x newRateLimiter context sr c).2 = false ↔ AwaitsNil context sr c := by
  unfold AwaitsNil
  cases ha : c.controllers.lookup sr.name with
  | none => rw [sync_absent ha]; simp
  | some ctrl =>
    rw [sync_active ha]
    by_cases hs : ctrl.reconciler.spec.getD emptySpec ≠ sr.spec
    · cases context <;> simp [hs]
    · simp [hs]

theorem removed_lookup (hw : c.WF) {ctrl : ManagedController Reconciler}
    (ha : c.controllers.lookup sr.name = some ctrl) :
    (c.removeController ctrl).controllers.lookup sr.name = none := by
  have hr := Cluster.slot_removeControllerByName c ctrl.name sr.name
  rw [if_pos (hw.active _ _ ha).symm] at hr
  exact congrArg Prod.fst hr

/-- What is left of the rule when its controller is taken out. -/
theorem removed_spec (hw : c.WF) {ctrl : ManagedController Reconciler}
    (ha : c.controllers.lookup sr.name = some ctrl) :
    (c.removeController ctrl).WF ∧ ∀ n, heldSpec (c.removeController ctrl) n =
      if n = sr.name then none else heldSpec c n := by
  refine ⟨hw.removeControllerByName ctrl.name, fun n => ?_⟩
  rw [heldSpec, Cluster.removeController, held_removeControllerByName, hw.active _ _ ha]
  split <;> rfl

/-- The panic leaves the cluster without the rule. -/
theorem panicked_spec (hw : c.WF) (h : AwaitsNil context sr c) :
    heldSpec (syncLogged x newRateLimiter context sr c).1 sr.name = none := by
  obtain ⟨rfl, ctrl, ha, hs⟩ := h
  rw [sync_active ha, if_pos hs]
  exact ((removed_spec hw ha).2 sr.name).trans (if_pos rfl)

theorem sync_wf (hw : c.WF) : (syncLogged x newRateLimiter context sr c).1.WF := by
  cases ha : c.controllers.lookup sr.name with
  | none => rw [sync_absent ha]; exact init_wf hw ha
  | some ctrl =>
    rw [sync_active ha]
    have hleft := (removed_spec hw ha).1
    split
    · cases context with
      | false => exact hleft
      | true => exact init_wf hleft (removed_lookup hw ha)
    · exact hw

/-- Whatever becomes of the call, the other rules stay as they are. -/
theorem sync_frame (hw : c.WF) {n : String} (hn : n ≠ sr.name) :
    heldSpec (syncLogged x (.ok ()) context sr c).1 n = heldSpec c n := by
  cases ha : c.controllers.lookup sr.name with
  | none => rw [sync_absent ha, init_spec ha, if_neg hn]
  | some ctrl =>
    have hleft := ((removed_spec hw ha).2 n).trans (if_neg hn)
    rw [sync_active ha]
    split
    · cases context with
      | false => exact hleft
      | true => exact ((init_spec (removed_lookup hw ha) n).trans (if_neg hn)).trans hleft
    · rfl

/-- After `syncClusterController` the cluster holds the rule, and all else as before. -/
theorem sync_spec (hw : c.WF) (hs : heldSpec c sr.name ≠ some none)
    (hc : ¬AwaitsNil context sr c) (n : String) :
    heldSpec (syncLogged x (.ok ()) context sr c).1 n =
      if n = sr.name then some (some sr.spec) else heldSpec c n := by
  by_cases e : n = sr.name
  · subst e
    rw [if_pos rfl]
    cases ha : c.controllers.lookup sr.name with
    | none => rw [sync_absent ha, init_spec ha, if_pos rfl]
    | some ctrl =>
      rw [sync_active ha]
      split
      · next hne =>
        have hcontext : context = true := by
          by_contra h
          exact hc ⟨by simpa using h, ctrl, ha, hne⟩
        rw [if_pos hcontext]
        exact (init_spec (removed_lookup hw ha) sr.name).trans (if_pos rfl)
      · next heq =>
        have hheld : heldSpec c sr.name = some ctrl.reconciler.spec := by
          rw [heldSpec, held_of_active ha]; rfl
        rw [hheld] at hs ⊢
        cases hc : ctrl.reconciler.spec with
        | none => rw [hc] at hs; exact absurd rfl hs
        | some sp => rw [hc] at heq; simpa using heq
  · rw [if_neg e, sync_frame hw e]

end

section

variable (x) (name : String)

private theorem slot_remoteCluster (n : String) :
    (({ name := name } : Cluster Reconciler).addController x
      ⟨"remote-cluster", .remoteCluster name, []⟩).slot n =
        if n = "remote-cluster" then (some ⟨"remote-cluster", .remoteCluster name, []⟩, none)
        else (none, none) :=
  Cluster.slot_addController rfl n

theorem slot_newRemoteCluster (n : String) :
    (newRemoteCluster x name).slot n =
      if n = "remote-cluster-feature" then
        (some ⟨"remote-cluster-feature", .remoteClusterFeature name, []⟩, none)
      else if n = "remote-cluster" then (some ⟨"remote-cluster", .remoteCluster name, []⟩, none)
      else (none, none) := by
  have h := slot_remoteCluster x name "remote-cluster-feature"
  rw [if_neg (by decide)] at h
  have hfree : (({ name := name } : Cluster Reconciler).addController x
      ⟨"remote-cluster", .remoteCluster name, []⟩).controllers.lookup "remote-cluster-feature" =
        none := congrArg Prod.fst h
  refine (Cluster.slot_addController hfree n).trans ?_
  rw [slot_remoteCluster]
  rfl

theorem newRemoteCluster_wf : (newRemoteCluster x name).WF := by
  refine .of_slot fun n => ?_
  rw [slot_newRemoteCluster]
  split
  · next e => simp [e]
  · split
    · next e => simp [e]
    · simp

theorem heldSpec_newRemoteCluster {n : String} (hn : IsRuleName n) :
    heldSpec (newRemoteCluster x name) n = none := by
  rw [heldSpec, held, slot_newRemoteCluster, if_neg hn.2, if_neg hn.1]
  rfl

end

end step

/-! ## One reconcile call -/

section loop

variable {x : External} {newRateLimiter : Except Err Unit} {m : Manager Reconciler}
  {name : String} {sr : ResourceSyncRule} {order : List String} {contexts : String → Bool}

/-- A reconcile replaces an active controller that has no context. -/
def Act.AwaitsNil (m : Manager Reconciler) : Act → Prop
  | reconcile _ (.ok sr) _ contexts =>
    ∃ cname c, m.lookup cname = some c ∧ Rules.AwaitsNil (contexts cname) sr c
  | _ => False

/-- What the loop makes of a cluster. -/
theorem reconcile_ok_cases (x : External) (newRateLimiter : Except Err Unit) (name : String)
    (sr : ResourceSyncRule) (contexts : String → Bool) (ho : Map.IsOrder m order) :
    ((reconcile x newRateLimiter name (.ok sr) order contexts m).1 = .ok () ∧
      (∀ cname c, m.lookup cname = some c → ¬AwaitsNil (contexts cname) sr c) ∧
      ∀ cname, ((reconcile x newRateLimiter name (.ok sr) order contexts).final m).lookup cname =
        (m.lookup cname).map fun c => (syncLogged x newRateLimiter (contexts cname) sr c).1) ∨
    ((reconcile x newRateLimiter name (.ok sr) order contexts m).1 = .error .panicked ∧
      (∃ cname c, m.lookup cname = some c ∧ AwaitsNil (contexts cname) sr c ∧
        ((reconcile x newRateLimiter name (.ok sr) order contexts).final m).lookup cname =
          some (syncLogged x newRateLimiter (contexts cname) sr c).1) ∧
      ∀ cname,
        ((reconcile x newRateLimiter name (.ok sr) order contexts).final m).lookup cname =
            m.lookup cname ∨
        ((reconcile x newRateLimiter name (.ok sr) order contexts).final m).lookup cname =
          (m.lookup cname).map fun c => (syncLogged x newRateLimiter (contexts cname) sr c).1) := by
  have hmem : ∀ {cname c}, m.lookup cname = some c → cname ∈ order := fun h =>
    (ho.mem_iff _).mpr (Finmap.mem_iff.mpr ⟨_, h⟩)
  unfold final reconcile
  rcases Map.rangeWhile_cases (f := fun cname => syncLogged x newRateLimiter (contexts cname) sr)
    ho.1 m with ⟨hdone, hall, hrep⟩ | ⟨before, a, b, after, rfl, hstop, hb, hf, hrep⟩
  · refine .inl ⟨if_pos hdone, fun cname c hc hnil => ?_, fun cname => ?_⟩
    · have hgoes := hall cname (hmem hc) c hc
      rw [syncLogged_stops_iff.mpr hnil] at hgoes
      cases hgoes
    · refine (hrep cname).trans ?_
      split
      · rfl
      · next hnot =>
        rw [Finmap.lookup_eq_none.mpr (mt (ho.mem_iff cname).mpr hnot)]
        rfl
  · have hend : ¬(Map.rangeWhile (fun cname => syncLogged x newRateLimiter (contexts cname) sr)
        (before ++ a :: after) m).2 = true := by rw [hstop]; exact nofun
    have hmem : a ∈ before ++ [a] := List.mem_append_right _ (List.mem_singleton_self a)
    exact .inr ⟨if_neg hend, ⟨a, b, hb, syncLogged_stops_iff.mp hf, hrep.of_mem hmem hb⟩,
      hrep.cases⟩

theorem Act.panics_iff {a : Act} (ha : a.Allowed x m) :
    a.Panics x newRateLimiter m ↔ a.AwaitsNil m := by
  cases a with
  | reconcile name read order contexts =>
    cases read with
    | error e =>
      simp only [Act.Panics, Act.AwaitsNil, Rules.reconcile, iff_false]
      split <;> exact nofun
    | ok sr =>
      rcases reconcile_ok_cases x newRateLimiter name sr contexts ha.2.1 with
        ⟨hok, hnot, -⟩ | ⟨herr, ⟨cname, c, hc, h, -⟩, -⟩
      · refine iff_of_false (fun hp => ?_) ?_
        · cases hok.symm.trans hp
        · rintro ⟨cname, c, hc, h⟩
          exact hnot cname c hc h
      · exact iff_of_true herr ⟨cname, c, hc, h⟩
  | add | remove | addFeature | removeFeature => exact Iff.rfl

end loop

/-! ## The registry refines the rules seen -/

section refinement

variable {x : External} {tr : List (Manager Reconciler × Act)} {m : Manager Reconciler}

/-- A cluster holds the rules that were last seen, each once. -/
structure Tracks (tr : List (Manager Reconciler × Act)) (cname : String)
    (c : Cluster Reconciler) : Prop where
  wf : c.WF
  held : ∀ n, IsRuleName n → heldSpec c n = (lastSeen cname n tr).map some

/-- A step that moves controllers about and sees no rule. -/
theorem Tracks.unseen {cname : String} {c d : Cluster Reconciler} {a : Act}
    (h : Tracks tr cname c) (hw : d.WF) (hheld : ∀ n, Rules.held d n = Rules.held c n)
    (hl : ∀ n, lastSeen cname n ((m, a) :: tr) = lastSeen cname n tr) :
    Tracks ((m, a) :: tr) cname d := by
  refine ⟨hw, fun n hn => ?_⟩
  rw [heldSpec, hheld, hl]
  exact h.held n hn

/-- The rule is gone: so is its controller. -/
theorem Tracks.removed {cname name : String} {c : Cluster Reconciler} (h : Tracks tr cname c)
    {e : Err} (he : e.reason = .notFound) (order : List String) (contexts : String → Bool) :
    Tracks ((m, .reconcile name (.error e) order contexts) :: tr) cname
      (c.removeControllerByName name) := by
  refine ⟨h.wf.removeControllerByName name, fun n hn => ?_⟩
  rw [heldSpec, held_removeControllerByName, lastSeen, if_pos he]
  by_cases en : n = name
  · rw [if_pos en, if_pos en.symm]; rfl
  · rw [if_neg en, if_neg (Ne.symm en)]; exact h.held n hn

/-- The rule is there: so is its controller, with the spec seen. -/
theorem Tracks.synced {cname : String} {c : Cluster Reconciler} (h : Tracks tr cname c)
    {sr : ResourceSyncRule} (hname : IsRuleName sr.name) (order : List String)
    {contexts : String → Bool} (hc : ¬AwaitsNil (contexts cname) sr c) :
    Tracks ((m, .reconcile sr.name (.ok sr) order contexts) :: tr) cname
      (syncLogged x (.ok ()) (contexts cname) sr c).1 := by
  have hnot : heldSpec c sr.name ≠ some none := by
    rw [h.held sr.name hname]
    cases lastSeen cname sr.name tr <;> simp
  refine ⟨sync_wf h.wf, fun n hn => (sync_spec h.wf hnot hc n).trans ?_⟩
  rw [lastSeen]
  by_cases en : n = sr.name
  · rw [if_pos en, if_pos en.symm]; rfl
  · rw [if_neg en, if_neg (Ne.symm en)]; exact h.held n hn

theorem tracks_added {cluster : Cluster Reconciler} (ha : (Act.add cluster).Allowed x m) :
    Tracks ((m, .add cluster) :: tr) cluster.name cluster := by
  have hslot : ∀ n, cluster.slot n = (newRemoteCluster x cluster.name).slot n := fun n => by
    rw [Cluster.slot, Cluster.slot, ha.1, ha.2]
  refine ⟨(newRemoteCluster_wf x cluster.name).of_slots fun n => .inl (hslot n), fun n hn => ?_⟩
  rw [heldSpec, Rules.held, hslot, lastSeen, if_pos rfl]
  exact heldSpec_newRemoteCluster x cluster.name hn

/-- A step on one cluster that moves its controllers about, and sees no rule. -/
theorem tracks_modify (ih : ∀ cname c, m.lookup cname = some c → Tracks tr cname c) {a : Act}
    {name : String} {f : Cluster Reconciler → Cluster Reconciler}
    (hf : ∀ d, m.lookup name = some d → d.WF → (f d).WF ∧ ∀ n, Rules.held (f d) n = Rules.held d n)
    {cname : String} {c : Cluster Reconciler} (hc : (Map.modify m name f).lookup cname = some c)
    (hl : ∀ n, lastSeen cname n ((m, a) :: tr) = lastSeen cname n tr) :
    Tracks ((m, a) :: tr) cname c := by
  obtain ⟨d, hd, rfl⟩ := Map.lookup_modify_eq_some.mp hc
  have hold := ih cname d hd
  split
  · next e =>
    obtain ⟨hw, hheld⟩ := hf d (e ▸ hd) hold.wf
    exact hold.unseen hw hheld hl
  · exact hold.unseen hold.wf (fun _ => rfl) hl

/-- One step of the manager keeps every cluster on track, unless it waits on a nil
context. -/
theorem tracks_step {a : Act} (ih : ∀ cname c, m.lookup cname = some c → Tracks tr cname c)
    (ha : a.Allowed x m) (hnil : ¬a.AwaitsNil m) (cname : String) (c : Cluster Reconciler)
    (hc : (a.apply x (.ok ()) m).lookup cname = some c) : Tracks ((m, a) :: tr) cname c := by
  have same : (∀ n, lastSeen cname n ((m, a) :: tr) = lastSeen cname n tr) →
      m.lookup cname = some c → Tracks ((m, a) :: tr) cname c := fun hl h =>
    (ih cname c h).unseen (ih cname c h).wf (fun _ => rfl) hl
  cases a with
  | reconcile name read order contexts =>
    obtain ⟨hname, horder, hread⟩ := ha
    cases read with
    | error e =>
      simp only [Act.apply, reconcile, final] at hc
      split at hc
      · next he =>
        simp only at hc
        rw [Map.lookup_rangeUpdate_order _ horder] at hc
        obtain ⟨d, hd, rfl⟩ := Option.map_eq_some_iff.mp hc
        exact (ih cname d hd).removed he order contexts
      · next he => exact same (fun n => by rw [lastSeen, if_neg he, ite_self]) hc
    | ok sr =>
      obtain rfl : sr.name = name := hread sr rfl
      rcases reconcile_ok_cases x (.ok ()) sr.name sr contexts horder with
        ⟨-, -, hlook⟩ | ⟨-, ⟨cname', c', hc', h, -⟩, -⟩
      · simp only [Act.apply, hlook] at hc
        obtain ⟨d, hd, rfl⟩ := Option.map_eq_some_iff.mp hc
        exact (ih cname d hd).synced hname order fun h => hnil ⟨cname, d, hd, h⟩
      · exact absurd ⟨cname', c', hc', h⟩ hnil
  | add cluster =>
    simp only [Act.apply, Map.lookup_insert_if] at hc
    split at hc
    · next e => cases hc; rw [e]; exact tracks_added ha
    · next e => exact same (fun n => by rw [lastSeen, if_neg (Ne.symm e)]) hc
  | remove name =>
    simp only [Act.apply, Map.lookup_erase_if] at hc
    split at hc
    · cases hc
    · exact same (fun _ => rfl) hc
  | addFeature name f order =>
    exact tracks_modify ih (fun d hd hw =>
      ⟨(Cluster.addFeature_spec hw (ha d hd)).1, held_addFeature hw (ha d hd)⟩) hc fun _ => rfl
  | removeFeature name uid order =>
    exact tracks_modify ih (fun d hd hw =>
      ⟨(Cluster.removeFeature_spec hw uid (ha d hd)).1, held_removeFeature hw (ha d hd)⟩) hc
      fun _ => rfl

theorem not_awaitsNil_of_run {newRateLimiter : Except Err Unit}
    (h : Run (registry x newRateLimiter) tr m)
    (hp : ∀ p ∈ tr, ¬p.2.Panics x newRateLimiter p.1) : ∀ p ∈ tr, ¬p.2.AwaitsNil p.1 := by
  rintro ⟨m', b⟩ hb hnil
  obtain ⟨_, -, hok⟩ := h.of_mem hb
  exact hp _ hb ((Act.panics_iff hok.2).mpr hnil)

theorem tracks_of_run (h : Run (registry x (.ok ())) tr m) (hnil : ∀ p ∈ tr, ¬p.2.AwaitsNil p.1) :
    ∀ cname c, m.lookup cname = some c → Tracks tr cname c := by
  refine h.history (P := fun tr m => (∀ p ∈ tr, ¬p.2.AwaitsNil p.1) →
    ∀ cname c, m.lookup cname = some c → Tracks tr cname c) ?_ ?_ hnil
  · rintro m rfl - cname c hc
    simp at hc
  · intro tr m a _ ih ha hnil
    obtain ⟨hlast, hbefore⟩ := List.forall_mem_cons.mp hnil
    exact tracks_step (ih hbefore) ha.2 hlast

/-- Every registered cluster holds a rule's controller in at most one of its maps, in
one of them exactly when the last reconcile of the rule saw it, and with the spec it
saw. -/
def Refines (tr : List (Manager Reconciler × Act)) (m : Manager Reconciler) : Prop :=
  ∀ cname c, m.lookup cname = some c →
    (∀ n, n ∉ c.controllers ∨ n ∉ c.pendingControllers) ∧
    ∀ n, IsRuleName n →
      ((n ∈ c.controllers ∨ n ∈ c.pendingControllers) ↔ (lastSeen cname n tr).isSome) ∧
      ∀ ctrl, c.controllers.lookup n = some ctrl ∨ c.pendingControllers.lookup n = some ctrl →
        ∃ r, ctrl.reconciler = .sync r ∧ lastSeen cname n tr = some r.rule.spec

theorem mem_iff_held {c : Cluster Reconciler} (hw : c.WF) (n : String) :
    (n ∈ c.controllers ∨ n ∈ c.pendingControllers) ↔ (heldSpec c n).isSome := by
  rw [heldSpec, Option.isSome_map, Option.isSome_iff_exists]
  simp only [Finmap.mem_iff, held_iff hw, exists_or]

theorem refines_of_tracks (h : ∀ cname c, m.lookup cname = some c → Tracks tr cname c) :
    Refines tr m := by
  intro cname c hc
  obtain ⟨hw, hheld⟩ := h cname c hc
  refine ⟨fun n => ?_, fun n hn => ⟨?_, fun ctrl hctrl => ?_⟩⟩
  · rw [← Finmap.lookup_eq_none, ← Finmap.lookup_eq_none]
    exact hw.disjoint n
  · rw [mem_iff_held hw, hheld n hn, Option.isSome_map]
  · have hs := hheld n hn
    rw [heldSpec, (held_iff hw).mpr hctrl] at hs
    obtain ⟨spec, hspec, e⟩ := Option.map_eq_some_iff.mp hs.symm
    simp only at e
    cases hr : ctrl.reconciler with
    | sync r => rw [hr] at e; cases e; exact ⟨r, rfl, hspec⟩
    | remoteCluster _ => rw [hr] at e; cases e
    | remoteClusterFeature _ => rw [hr] at e; cases e

/-- The panic comes between the old controller and the new one. -/
theorem not_refines_of_awaitsNil (ih : ∀ cname c, m.lookup cname = some c → Tracks tr cname c)
    {a : Act} (ha : a.Allowed x m) (hnil : a.AwaitsNil m) :
    ¬Refines ((m, a) :: tr) (a.apply x (.ok ()) m) := by
  cases a with
  | reconcile name read order contexts =>
    cases read with
    | error e => exact hnil.elim
    | ok sr =>
      obtain rfl : sr.name = name := ha.2.2 sr rfl
      rcases reconcile_ok_cases x (.ok ()) sr.name sr contexts ha.2.1 with
        ⟨-, hnot, -⟩ | ⟨-, ⟨cname, c, hc, h, hlook⟩, -⟩
      · obtain ⟨cname, c, hc, h⟩ := hnil
        exact absurd h (hnot cname c hc)
      · intro href
        have hseen : lastSeen cname sr.name
            ((m, .reconcile sr.name (.ok sr) order contexts) :: tr) = some sr.spec := if_pos rfl
        have hmem := ((href cname _ hlook).2 sr.name ha.1).1
        rw [mem_iff_held (sync_wf (ih cname c hc).wf), panicked_spec (ih cname c hc).wf h,
          hseen] at hmem
        exact absurd (hmem.mpr rfl) (by simp)
  | add | remove | addFeature | removeFeature => exact hnil.elim

/-- **The registry refines the rules seen** exactly as long as no reconcile replaces an
active controller that has no context. -/
theorem registry_refines_iff (newRateLimiter : Except Err Unit) (hrl : newRateLimiter = .ok ())
    (tr : List (Manager Reconciler × Act)) (m : Manager Reconciler)
    (h : Run (registry x newRateLimiter) tr m) :
    Refines tr m ↔ ∀ p ∈ tr, ¬p.2.AwaitsNil p.1 := by
  subst hrl
  refine ⟨fun href => ?_, fun hnil => refines_of_tracks (tracks_of_run h hnil)⟩
  cases h with
  | init hi => exact nofun
  | @step tr m a hr ha =>
    have hbefore := not_awaitsNil_of_run hr ha.1
    refine List.forall_mem_cons.mpr ⟨fun hnil => ?_, hbefore⟩
    exact not_refines_of_awaitsNil (tracks_of_run hr hbefore) ha.2 hnil href

/-- A cluster joins, a rule is reconciled, and once more after its spec has changed. -/
def ruleChanged (contexts : String → Bool) : List (Manager Reconciler × Act) × Manager Reconciler :=
  played (registry .bare (.ok ())) [] ∅
    [.add (newRemoteCluster .bare "a"),
      .reconcile "rule" (.ok ⟨"rule", "1", emptySpec⟩) ["a"] fun _ => true,
      .reconcile "rule" (.ok ⟨"rule", "1", ⟨none, ⟨"", "v1", "ConfigMap"⟩, none⟩⟩) ["a"] contexts]

theorem run_ruleChanged (contexts : String → Bool) :
    Run (registry .bare (.ok ())) (ruleChanged contexts).1 (ruleChanged contexts).2 := by
  refine .plays (.init rfl) ⟨⟨nofun, rfl, rfl⟩,
    ⟨?_, by decide, by decide, fun sr h => by cases h; rfl⟩,
    ⟨?_, by decide, by decide +kernel, fun sr h => by cases h; rfl⟩, trivial⟩
  · simp [Act.Panics]
  · simp only [List.forall_mem_cons]
    exact ⟨nofun, fun h => h, nofun⟩

theorem registry_refines_iff_ruleChanged :
    Refines (ruleChanged fun _ => true).1 (ruleChanged fun _ => true).2 := by
  refine (registry_refines_iff (.ok ()) rfl _ _ (run_ruleChanged _)).mpr ?_
  simp only [List.forall_mem_cons, ruleChanged, played]
  exact ⟨fun ⟨_, _, _, h, _⟩ => (by cases h), fun ⟨_, _, _, h, _⟩ => (by cases h), fun h => h,
    nofun⟩

/-- The controller of the rule has no context when the rule changes. -/
theorem rule_lost_ruleChanged :
    Run (registry .bare (.ok ())) (ruleChanged fun _ => false).1 (ruleChanged fun _ => false).2 ∧
    ∃ c, (ruleChanged fun _ => false).2.lookup "a" = some c ∧
      "rule" ∉ c.controllers ∧ "rule" ∉ c.pendingControllers ∧
      (lastSeen "a" "rule" (ruleChanged fun _ => false).1).isSome :=
  ⟨run_ruleChanged _, _, rfl, by decide +kernel, by decide +kernel, rfl⟩

end refinement

end ClusterRegistry.Rules
