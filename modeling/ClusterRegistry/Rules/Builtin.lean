import ClusterRegistry.Rules.Registry

/-!
# The built-in controllers of a remote cluster

`getRemoteCluster` gives every remote cluster two controllers of its own,
under fixed names in the map that rule controllers are kept in under the names
of their rules. `Hosted` is a cluster together with the controllers on which
`Stop` was called, which `RemoveControllerByName` alone does; its operations
are those of the cluster with that record.

A rule may have any name. A reconcile of a rule that has the name of a
built-in controller disturbs it exactly when the rule is gone or its spec is
not the empty one, which the reconciler takes for that of a controller that
has no rule.
-/

namespace ClusterRegistry.Rules

open Lib Lib.Eff Clusters Sync

/-- A cluster and the controllers stopped on it, the latest first. -/
structure Hosted where
  cluster : Cluster Reconciler
  stopped : List (ManagedController Reconciler) := []

namespace Hosted

/-- An operation that stops no controller. -/
def onCluster (f : Cluster Reconciler → Cluster Reconciler) (h : Hosted) : Hosted :=
  { h with cluster := f h.cluster }

def removeControllerByName (h : Hosted) (name : String) : Hosted where
  cluster := h.cluster.removeControllerByName name
  stopped := (h.cluster.getController name).toList ++ h.stopped

section

variable (x : External) (newRateLimiter : Except Err Unit)

/-- One turn of the loop in `RemoveFeature`. -/
def recheckActive (h : Hosted) (name : String) : Hosted :=
  match h.cluster.controllers.lookup name with
  | none => h
  | some controller =>
    if h.cluster.checkRequiredClusterFeatures x controller then h
    else (h.removeControllerByName controller.name).onCluster (·.addPendingController controller)

def removeFeature (h : Hosted) (uid : String) (order : List String) : Hosted :=
  order.foldl (recheckActive x)
    (h.onCluster fun c => { c with features := c.features.erase uid })

def initNewResourceSyncController (rule : ResourceSyncRule) (h : Hosted) : Hosted :=
  h.onCluster (Rules.initNewResourceSyncController x newRateLimiter rule).final

/-- `syncClusterController`, and whether it returns. -/
def syncClusterController (context : Bool) (sr : ResourceSyncRule) (h : Hosted) : Hosted × Bool :=
  if !h.cluster.hasController sr.name then
    (h.initNewResourceSyncController x newRateLimiter sr, true)
  else
    match h.cluster.getController sr.name with
    | none => (h, false)
    | some ctrl =>
      if ctrl.reconciler.spec.getD emptySpec ≠ sr.spec then
        if context then
          ((h.removeControllerByName ctrl.name).initNewResourceSyncController x newRateLimiter sr,
            true)
        else (h.removeControllerByName ctrl.name, false)
      else (h, true)

end

/-! ## The record changes nothing -/

section

variable {x : External} {newRateLimiter : Except Err Unit}

theorem cluster_syncClusterController (context : Bool) (h : Hosted) (sr : ResourceSyncRule) :
    (h.syncClusterController x newRateLimiter context sr).map cluster id =
      syncLogged x newRateLimiter context sr h.cluster := by
  unfold syncClusterController Cluster.hasController Cluster.getController
  cases ha : h.cluster.controllers.lookup sr.name with
  | none => rw [sync_absent ha]; rfl
  | some ctrl =>
    rw [sync_active ha, if_neg (by simp)]
    simp only
    split
    · cases context <;> rfl
    · rfl

theorem cluster_recheckActive (h : Hosted) (name : String) :
    (h.recheckActive x name).cluster = h.cluster.recheckActive x name := by
  unfold recheckActive Cluster.recheckActive
  cases h.cluster.controllers.lookup name with
  | none => rfl
  | some controller => simp only; split <;> rfl

theorem cluster_removeFeature (h : Hosted) (uid : String) (order : List String) :
    (h.removeFeature x uid order).cluster = h.cluster.removeFeature x uid order := by
  have loop : ∀ (l : List String) (h : Hosted),
      (l.foldl (recheckActive x) h).cluster = l.foldl (Cluster.recheckActive x) h.cluster := by
    intro l
    induction l with
    | nil => exact fun _ => rfl
    | cons n l ih =>
      intro h
      rw [List.foldl_cons, List.foldl_cons, ih, cluster_recheckActive]
  exact loop order _

end

/-! ## Kept controllers -/

/-- The controller is registered under its name and was not stopped. -/
def Kept (h : Hosted) (ctrl : ManagedController Reconciler) : Prop :=
  h.cluster.controllers.lookup ctrl.name = some ctrl ∧ ctrl ∉ h.stopped

section kept

variable {x : External} {newRateLimiter : Except Err Unit} {h : Hosted}
  {ctrl : ManagedController Reconciler}

theorem Kept.onCluster {f : Cluster Reconciler → Cluster Reconciler} (hk : h.Kept ctrl)
    (hf : (f h.cluster).controllers.lookup ctrl.name = h.cluster.controllers.lookup ctrl.name) :
    (h.onCluster f).Kept ctrl :=
  ⟨hf.trans hk.1, hk.2⟩

/-- Removing another name stops a controller of that name. -/
theorem Kept.removeControllerByName (hw : h.cluster.WF) (hk : h.Kept ctrl) {name : String}
    (hn : name ≠ ctrl.name) : (h.removeControllerByName name).Kept ctrl := by
  have hslot := Cluster.slot_removeControllerByName h.cluster name ctrl.name
  rw [if_neg hn.symm] at hslot
  refine ⟨(congrArg Prod.fst hslot).trans hk.1, fun hm => ?_⟩
  rcases List.mem_append.mp hm with hm | hm
  · have hd : h.cluster.controllers.lookup name = some ctrl := Option.mem_toList.mp hm
    exact hn (hw.active name ctrl hd).symm
  · exact hk.2 hm

theorem not_kept_removeControllerByName : ¬(h.removeControllerByName ctrl.name).Kept ctrl := by
  intro hk
  have hslot := Cluster.slot_removeControllerByName h.cluster ctrl.name ctrl.name
  rw [if_pos rfl] at hslot
  exact Option.some_ne_none ctrl (hk.1.symm.trans (congrArg Prod.fst hslot))

/-- `AddController` leaves the controllers that are active. -/
theorem lookup_addController {c : Cluster Reconciler} {n : String}
    (ha : c.controllers.lookup n = some ctrl) (d : ManagedController Reconciler) :
    (c.addController x d).controllers.lookup n = some ctrl := by
  unfold Cluster.addController Cluster.addReadyController Cluster.getController
  split
  · split
    · exact ha
    · next hd =>
      have hne : n ≠ d.name := fun e => by rw [e, hd] at ha; cases ha
      simp only [Cluster.removePendingControllerByName, Map.lookup_insert_if]
      rw [if_neg hne]
      exact ha
  · exact ha

theorem lookup_initNew {c : Cluster Reconciler} {n : String}
    (ha : c.controllers.lookup n = some ctrl) (sr : ResourceSyncRule) :
    ((Rules.initNewResourceSyncController x newRateLimiter sr).final c).controllers.lookup n =
      some ctrl := by
  cases newRateLimiter with
  | error e => exact ha
  | ok u => exact lookup_addController ha _

theorem Kept.initNew (hk : h.Kept ctrl) (sr : ResourceSyncRule) :
    (h.initNewResourceSyncController x newRateLimiter sr).Kept ctrl :=
  hk.onCluster ((lookup_initNew hk.1 sr).trans hk.1.symm)

/-- What is registered after `InitNewResourceSyncController` under a name that
was free carries a sync reconciler. -/
theorem initNew_sync {c : Cluster Reconciler} {sr : ResourceSyncRule}
    (hfree : c.controllers.lookup sr.name = none)
    (ha : ((Rules.initNewResourceSyncController x newRateLimiter sr).final c).controllers.lookup
      sr.name = some ctrl) : ∃ r, ctrl.reconciler = .sync r := by
  cases newRateLimiter with
  | error e =>
    have : c.controllers.lookup sr.name = some ctrl := ha
    rw [hfree] at this; cases this
  | ok u =>
    have ha' : ((c.addController x (newController sr c.clusterID)).slot sr.name).1 = some ctrl := ha
    rw [Cluster.slot_addController (by exact hfree), if_pos (by rfl)] at ha'
    split at ha'
    · cases ha'; exact ⟨_, rfl⟩
    · cases ha'

/-- **One rule on one cluster**: the controller is kept exactly when the rule
has another name, or the spec that the reconciler reads off the controller. -/
theorem kept_syncClusterController_iff (hw : h.cluster.WF) (hk : h.Kept ctrl)
    (hr : ∀ r, ctrl.reconciler ≠ .sync r) (context : Bool) (sr : ResourceSyncRule) :
    (h.syncClusterController x newRateLimiter context sr).1.Kept ctrl ↔
      sr.name ≠ ctrl.name ∨ sr.spec = emptySpec := by
  unfold Hosted.syncClusterController Cluster.hasController Cluster.getController
  by_cases hn : sr.name = ctrl.name
  · have hspec : ctrl.reconciler.spec.getD emptySpec = emptySpec := by
      cases hc : ctrl.reconciler with
      | sync r => exact absurd hc (hr r)
      | remoteCluster _ => rfl
      | remoteClusterFeature _ => rfl
    rw [hn, hk.1, if_neg (by simp)]
    simp only [hspec]
    by_cases he : emptySpec = sr.spec
    · rw [if_neg (not_not.mpr he)]
      exact ⟨fun _ => .inr he.symm, fun _ => hk⟩
    · rw [if_pos he]
      refine ⟨fun hkept => ?_, fun ho => ?_⟩
      · cases context with
        | false => exact absurd hkept not_kept_removeControllerByName
        | true =>
          have hgone := congrArg Prod.fst (Cluster.slot_removeControllerByName h.cluster ctrl.name
            sr.name)
          rw [if_pos hn] at hgone
          obtain ⟨r, e⟩ := initNew_sync hgone (by rw [hn]; exact hkept.1)
          exact absurd e (hr r)
      · rcases ho with ho | ho
        · exact absurd rfl ho
        · exact absurd ho.symm he
  · refine ⟨fun _ => .inl hn, fun _ => ?_⟩
    cases ha : h.cluster.controllers.lookup sr.name with
    | none =>
      rw [if_pos (by simp)]
      exact hk.initNew sr
    | some d =>
      rw [if_neg (by simp)]
      simp only
      split
      · rw [hw.active sr.name d ha]
        have hleft := hk.removeControllerByName hw hn
        cases context with
        | false => exact hleft
        | true => exact hleft.initNew sr
      · exact hk

theorem Kept.recheckActive (hw : h.cluster.WF) (hk : h.Kept ctrl)
    (hreq : ctrl.requiredClusterFeatures = []) (name : String) :
    (h.recheckActive x name).Kept ctrl := by
  unfold Hosted.recheckActive
  split
  · exact hk
  · next d hd =>
    split
    · exact hk
    · next hm =>
      have hne : d.name ≠ ctrl.name := by
        intro e
        rw [hw.active name d hd] at e
        rw [e, hk.1] at hd
        cases hd
        exact hm (by simp [Cluster.checkRequiredClusterFeatures, meets, hreq])
      exact (hk.removeControllerByName hw hne).onCluster rfl

theorem Kept.removeFeature (hw : h.cluster.WF) (hk : h.Kept ctrl)
    (hreq : ctrl.requiredClusterFeatures = []) (uid : String) (order : List String) :
    (h.removeFeature x uid order).Kept ctrl := by
  have loop : ∀ (l : List String) (h : Hosted), h.cluster.WF → h.Kept ctrl →
      (l.foldl (Hosted.recheckActive x) h).Kept ctrl := by
    intro l
    induction l with
    | nil => exact fun _ _ hk => hk
    | cons n l ih =>
      intro h hw hk
      refine ih _ ?_ (hk.recheckActive hw hreq n)
      rw [cluster_recheckActive]
      exact hw.recheckActive n
  exact loop order _ ⟨hw.active, hw.pending, hw.disjoint⟩ (hk.onCluster rfl)

theorem Kept.addFeature (hw : h.cluster.WF) (hk : h.Kept ctrl) (f : ClusterFeature)
    {order : List String} (ho : Map.IsOrder h.cluster.pendingControllers order) :
    (h.onCluster (·.addFeature x f order)).Kept ctrl := by
  refine hk.onCluster ?_
  have hslot := (Cluster.addFeature_spec (x := x) (f := f) hw ho).2.2 ctrl.name
  have hp : h.cluster.pendingControllers.lookup ctrl.name = none := by
    rcases hw.disjoint ctrl.name with e | e
    · rw [hk.1] at e; cases e
    · exact e
  refine (congrArg Prod.fst hslot).trans ?_
  rw [Cluster.slot, hp]
  rfl

end kept

end Hosted

/-! ## Runs -/

section runs

variable (x : External) (newRateLimiter : Except Err Unit)

/-- The controllers that `getRemoteCluster` adds to the cluster. -/
def builtins (cname : String) : List (ManagedController Reconciler) :=
  [⟨"remote-cluster", .remoteCluster cname, []⟩,
    ⟨"remote-cluster-feature", .remoteClusterFeature cname, []⟩]

/-- The built-in controllers of every registered cluster are kept. -/
def BuiltinsKept (m : Map String Hosted) : Prop :=
  ∀ cname h, m.lookup cname = some h → ∀ ctrl ∈ builtins cname, h.Kept ctrl

namespace Act

def applyHosted (m : Map String Hosted) : Act → Map String Hosted
  | reconcile name read order contexts =>
    match read with
    | .error e =>
      if e.reason = .notFound then Map.rangeUpdate (·.removeControllerByName name) order m else m
    | .ok sr =>
      (Map.rangeWhile
        (fun cname => Hosted.syncClusterController x newRateLimiter (contexts cname) sr) order m).1
  | add cluster => m.insert cluster.name { cluster := cluster }
  | remove name => m.erase name
  | addFeature name feature order => m.modify name (·.onCluster (·.addFeature x feature order))
  | removeFeature name uid order => m.modify name (·.removeFeature x uid order)

/-- As for the registry, but a rule may have any name; what a panic would prevent is
allowed, too. -/
def AllowedHosted (m : Map String Hosted) : Act → Prop
  | reconcile name read order _ => Map.IsOrder m order ∧ ∀ sr, read = .ok sr → sr.name = name
  | add cluster => cluster.controllers = (newRemoteCluster x cluster.name).controllers ∧
      cluster.pendingControllers = (newRemoteCluster x cluster.name).pendingControllers
  | remove _ => True
  | addFeature name _ order =>
    ∀ h, m.lookup name = some h → Map.IsOrder h.cluster.pendingControllers order
  | removeFeature name _ order =>
    ∀ h, m.lookup name = some h → Map.IsOrder h.cluster.controllers order

/-- No cluster is registered, or the rule does not have the name of a built-in
controller, or it could not be read, or its spec is the empty one. -/
def Spares (m : Map String Hosted) : Act → Prop
  | reconcile name read _ _ => m = ∅ ∨ IsRuleName name ∨
      match read with
      | .error e => e.reason ≠ .notFound
      | .ok sr => sr.spec = emptySpec
  | _ => True

end Act

def hosting : System (Map String Hosted) Act where
  init m := m = ∅
  ok _ m a := a.AllowedHosted x m
  step m a := a.applyHosted x newRateLimiter m

end runs

section

variable {x : External} {newRateLimiter : Except Err Unit} {m : Map String Hosted}

theorem wf_newlyAdded {cluster : Cluster Reconciler} (ha : (Act.add cluster).AllowedHosted x m) :
    cluster.WF ∧
      ∀ ctrl ∈ builtins cluster.name, cluster.controllers.lookup ctrl.name = some ctrl := by
  have hslot : ∀ n, cluster.slot n = (newRemoteCluster x cluster.name).slot n := fun n => by
    rw [Cluster.slot, Cluster.slot, ha.1, ha.2]
  refine ⟨(newRemoteCluster_wf x cluster.name).of_slots fun n => .inl (hslot n), ?_⟩
  intro ctrl hctrl
  refine (congrArg Prod.fst ((hslot ctrl.name).trans (slot_newRemoteCluster x _ _))).trans ?_
  simp only [builtins, List.mem_cons, List.not_mem_nil, or_false] at hctrl
  rcases hctrl with rfl | rfl <;> rfl

/-- What a step makes of a cluster that it gets to. -/
def Act.onHosted (x : External) (newRateLimiter : Except Err Unit) (cname : String) (h : Hosted) :
    Act → Hosted
  | reconcile name (.error e) _ _ =>
    if e.reason = .notFound then h.removeControllerByName name else h
  | reconcile _ (.ok sr) _ contexts =>
    (h.syncClusterController x newRateLimiter (contexts cname) sr).1
  | addFeature name f order => if cname = name then h.onCluster (·.addFeature x f order) else h
  | removeFeature name uid order => if cname = name then h.removeFeature x uid order else h
  | _ => h

section

variable {name : String} {read : Except Err ResourceSyncRule} {order : List String}
  {contexts : String → Bool}

theorem lookup_reconcile_error {e : Err} (ho : Map.IsOrder m order) (cname : String) :
    ((Act.reconcile name (.error e) order contexts).applyHosted x newRateLimiter m).lookup cname =
      (m.lookup cname).map
        ((Act.reconcile name (.error e) order contexts).onHosted x newRateLimiter cname) := by
  simp only [Act.applyHosted, Act.onHosted]
  split
  · exact Map.lookup_rangeUpdate_order _ ho cname
  · exact (congrFun Option.map_id _).symm

/-- The loop has got to the cluster, or it has not. -/
theorem lookup_reconcile (x : External) (newRateLimiter : Except Err Unit) (name : String)
    (read : Except Err ResourceSyncRule) (contexts : String → Bool) (ho : Map.IsOrder m order)
    (cname : String) :
    ((Act.reconcile name read order contexts).applyHosted x newRateLimiter m).lookup cname =
        m.lookup cname ∨
      ((Act.reconcile name read order contexts).applyHosted x newRateLimiter m).lookup cname =
        (m.lookup cname).map
          ((Act.reconcile name read order contexts).onHosted x newRateLimiter cname) := by
  cases read with
  | error e => exact .inr (lookup_reconcile_error ho cname)
  | ok sr => exact Map.lookup_rangeWhile ho.1 m cname

/-- The loop gets to a cluster if there is one. -/
theorem exists_reconciled (x : External) (newRateLimiter : Except Err Unit) (name : String)
    (read : Except Err ResourceSyncRule) (contexts : String → Bool) (ho : Map.IsOrder m order)
    (hne : m ≠ ∅) : ∃ cname h, m.lookup cname = some h ∧
      ((Act.reconcile name read order contexts).applyHosted x newRateLimiter m).lookup cname =
        some ((Act.reconcile name read order contexts).onHosted x newRateLimiter cname h) := by
  obtain ⟨cname, h, hm⟩ : ∃ cname h, m.lookup cname = some h := by
    by_contra hnone
    refine hne (Finmap.ext_lookup fun n => ?_)
    rw [Finmap.lookup_empty]
    exact Option.eq_none_iff_forall_ne_some.mpr fun h hm => hnone ⟨n, h, hm⟩
  cases read with
  | error e => exact ⟨cname, h, hm, by rw [lookup_reconcile_error ho cname, hm]; rfl⟩
  | ok sr =>
    rcases Map.rangeWhile_cases (f := fun cname =>
      Hosted.syncClusterController x newRateLimiter (contexts cname) sr) ho.1 m with
      ⟨-, -, hrep⟩ | ⟨before, a, b, after, -, -, hb, -, hrep⟩
    · have hmem : cname ∈ order := (ho.mem_iff cname).mpr (Finmap.mem_iff.mpr ⟨h, hm⟩)
      exact ⟨cname, h, hm, hrep.of_mem hmem hm⟩
    · have hmem : a ∈ before ++ [a] := List.mem_append_right _ (List.mem_singleton_self a)
      exact ⟨a, b, hb, hrep.of_mem hmem hb⟩

end

theorem lookup_applyHosted {a : Act} (ha : a.AllowedHosted x m) {cname : String} {h : Hosted}
    (hh : (a.applyHosted x newRateLimiter m).lookup cname = some h) :
    (∃ c, a = .add c ∧ cname = c.name ∧ h = { cluster := c }) ∨
      ∃ g, m.lookup cname = some g ∧ (h = g ∨ h = a.onHosted x newRateLimiter cname g) := by
  have moved : ∀ {f : Hosted → Hosted} {name : String},
      (Map.modify m name f).lookup cname = some h →
      ∃ g, m.lookup cname = some g ∧ (h = g ∨ h = if cname = name then f g else g) := by
    intro f name hh
    obtain ⟨g, hg, e⟩ := Map.lookup_modify_eq_some.mp hh
    exact ⟨g, hg, .inr e⟩
  cases a with
  | reconcile name read order contexts =>
    rcases lookup_reconcile x newRateLimiter name read contexts ha.1 cname with e | e <;>
      rw [e] at hh
    · exact .inr ⟨h, hh, .inl rfl⟩
    · obtain ⟨g, hg, rfl⟩ := Option.map_eq_some_iff.mp hh
      exact .inr ⟨g, hg, .inr rfl⟩
  | add c =>
    simp only [Act.applyHosted, Map.lookup_insert_if] at hh
    split at hh
    · next e => cases hh; exact .inl ⟨c, rfl, e, rfl⟩
    · exact .inr ⟨h, hh, .inl rfl⟩
  | remove name =>
    simp only [Act.applyHosted, Map.lookup_erase_if] at hh
    split at hh
    · cases hh
    · exact .inr ⟨h, hh, .inl rfl⟩
  | addFeature name f order => exact .inr (moved hh)
  | removeFeature name uid order => exact .inr (moved hh)

variable {cname : String} {h : Hosted}

theorem wf_onHosted {a : Act} (ha : a.AllowedHosted x m) (hm : m.lookup cname = some h)
    (hw : h.cluster.WF) : (a.onHosted x newRateLimiter cname h).cluster.WF := by
  cases a with
  | reconcile name read order contexts =>
    cases read with
    | error e =>
      simp only [Act.onHosted]
      split
      · exact hw.removeControllerByName name
      · exact hw
    | ok sr =>
      simp only [Act.onHosted]
      have hcluster : (h.syncClusterController x newRateLimiter (contexts cname) sr).1.cluster =
          (syncLogged x newRateLimiter (contexts cname) sr h.cluster).1 :=
        congrArg Prod.fst (Hosted.cluster_syncClusterController (contexts cname) h sr)
      rw [hcluster]
      exact sync_wf hw
  | add c => exact hw
  | remove name => exact hw
  | addFeature name f order =>
    simp only [Act.onHosted]
    split
    · next e => exact (Cluster.addFeature_spec hw (ha h (e ▸ hm))).1
    · exact hw
  | removeFeature name uid order =>
    simp only [Act.onHosted]
    split
    · next e =>
      rw [Hosted.cluster_removeFeature]
      exact (Cluster.removeFeature_spec hw uid (ha h (e ▸ hm))).1
    · exact hw

theorem wf_of_hosting {tr : List (Map String Hosted × Act)}
    (hrun : Run (hosting x newRateLimiter) tr m) :
    ∀ cname h, m.lookup cname = some h → h.cluster.WF := by
  refine hrun.invariant (P := fun m => ∀ cname h, m.lookup cname = some h → h.cluster.WF) ?_ ?_
  · rintro m rfl cname h hh
    simp at hh
  · intro tr m a _ ih ha cname h hh
    rcases lookup_applyHosted ha hh with ⟨c, rfl, -, rfl⟩ | ⟨g, hg, rfl | rfl⟩
    · exact (wf_newlyAdded (m := m) ha).1
    · exact ih cname h hg
    · exact wf_onHosted ha hg (ih cname g hg)

theorem builtin_cases {ctrl : ManagedController Reconciler} (hc : ctrl ∈ builtins cname) :
    ¬IsRuleName ctrl.name ∧ ctrl.requiredClusterFeatures = [] ∧
      ∀ r, ctrl.reconciler ≠ .sync r := by
  simp only [builtins, List.mem_cons, List.not_mem_nil, or_false] at hc
  rcases hc with rfl | rfl
  · exact ⟨fun hr => hr.1 rfl, rfl, nofun⟩
  · exact ⟨fun hr => hr.2 rfl, rfl, nofun⟩

theorem exists_builtin {name : String} (hn : ¬IsRuleName name) (cname : String) :
    ∃ ctrl ∈ builtins cname, ctrl.name = name := by
  unfold IsRuleName at hn
  by_cases h : name = "remote-cluster"
  · exact ⟨_, List.mem_cons_self, h.symm⟩
  · have h' : name = "remote-cluster-feature" := by simpa [h] using hn
    exact ⟨_, List.mem_cons_of_mem _ List.mem_cons_self, h'.symm⟩

/-- A step that spares the built-in controllers keeps those of a cluster. -/
theorem kept_onHosted {a : Act} (ha : a.AllowedHosted x m) (hm : m.lookup cname = some h)
    (hw : h.cluster.WF) (hs : a.Spares m) {ctrl : ManagedController Reconciler}
    (hc : ctrl ∈ builtins cname) (hk : h.Kept ctrl) :
    (a.onHosted x newRateLimiter cname h).Kept ctrl := by
  obtain ⟨hname, hreq, hsync⟩ := builtin_cases hc
  have hne : m ≠ ∅ := fun e => by rw [e] at hm; simp at hm
  cases a with
  | reconcile name read order contexts =>
    have hs' := hs.resolve_left hne
    cases read with
    | error e =>
      simp only [Act.onHosted]
      split
      · next he =>
        refine hk.removeControllerByName hw fun en => ?_
        exact hs'.elim (en ▸ hname) (absurd he)
      · exact hk
    | ok sr =>
      refine (Hosted.kept_syncClusterController_iff hw hk hsync _ sr).mpr ?_
      exact hs'.imp (fun hr en => hname (en ▸ (ha.2 sr rfl) ▸ hr)) id
  | add c => exact hk
  | remove name => exact hk
  | addFeature name f order =>
    simp only [Act.onHosted]
    split
    · next e => exact hk.addFeature hw f (ha h (e ▸ hm))
    · exact hk
  | removeFeature name uid order =>
    simp only [Act.onHosted]
    split
    · exact hk.removeFeature hw hreq uid order
    · exact hk

/-- A step that does not spare them takes one from every cluster that it gets to. -/
theorem not_kept_onHosted {a : Act} (ha : a.AllowedHosted x m) (hw : h.cluster.WF)
    (hk : ∀ ctrl ∈ builtins cname, h.Kept ctrl) (hs : ¬a.Spares m) :
    ∃ ctrl ∈ builtins cname, ¬(a.onHosted x newRateLimiter cname h).Kept ctrl := by
  cases a with
  | reconcile name read order contexts =>
    simp only [Act.Spares, not_or] at hs
    obtain ⟨-, hn, hread⟩ := hs
    obtain ⟨ctrl, hc, rfl⟩ := exists_builtin hn cname
    refine ⟨ctrl, hc, ?_⟩
    cases read with
    | error e =>
      have he : e.reason = .notFound := not_not.mp hread
      simp only [Act.onHosted, if_pos he]
      exact Hosted.not_kept_removeControllerByName
    | ok sr =>
      simp only [Act.onHosted]
      rw [Hosted.kept_syncClusterController_iff hw (hk ctrl hc) (builtin_cases hc).2.2 _ sr]
      exact fun ho => ho.elim (fun hne => hne (ha.2 sr rfl)) hread
  | add c => exact absurd trivial hs
  | remove name => exact absurd trivial hs
  | addFeature name f order => exact absurd trivial hs
  | removeFeature name uid order => exact absurd trivial hs

theorem builtinsKept_step_iff {a : Act} (ha : a.AllowedHosted x m)
    (hw : ∀ cname h, m.lookup cname = some h → h.cluster.WF) (hk : BuiltinsKept m) :
    BuiltinsKept (a.applyHosted x newRateLimiter m) ↔ a.Spares m := by
  constructor
  · intro hk'
    by_contra hs
    cases a with
    | reconcile name read order contexts =>
      obtain ⟨cname, h, hm, hstep⟩ := exists_reconciled x newRateLimiter name read contexts ha.1
        fun e => hs (.inl e)
      obtain ⟨ctrl, hc, hnot⟩ := not_kept_onHosted ha (hw cname h hm) (hk cname h hm) hs
      exact hnot (hk' cname _ hstep ctrl hc)
    | add c => exact hs trivial
    | remove name => exact hs trivial
    | addFeature name f order => exact hs trivial
    | removeFeature name uid order => exact hs trivial
  · intro hs cname h hh ctrl hc
    rcases lookup_applyHosted ha hh with ⟨c, rfl, rfl, rfl⟩ | ⟨g, hg, rfl | rfl⟩
    · exact ⟨(wf_newlyAdded (m := m) ha).2 ctrl hc, List.not_mem_nil⟩
    · exact hk cname h hg ctrl hc
    · exact kept_onHosted ha hg (hw cname g hg) hs hc (hk cname g hg ctrl hc)

/-- **Rules and the built-in controllers**: in every run, the built-in
controllers of every registered cluster stay registered and are not stopped
exactly when every reconcile of a rule spares them. -/
theorem builtins_kept_iff_spared (x : External) (newRateLimiter : Except Err Unit)
    (tr : List (Map String Hosted × Act)) (m : Map String Hosted)
    (hrun : Run (hosting x newRateLimiter) tr m) :
    (∀ s ∈ states tr m, BuiltinsKept s) ↔ ∀ p ∈ tr, p.2.Spares p.1 := by
  refine hrun.good_iff (G := BuiltinsKept) (C := fun m a => a.Spares m) ?_ ?_
  · rintro m rfl cname h hh
    simp at hh
  · intro tr m a hr hk ha
    exact builtinsKept_step_iff ha (wf_of_hosting hr) hk

def configMapRule (name : String) : ResourceSyncRule :=
  ⟨name, "1", ⟨none, ⟨"", "v1", "ConfigMap"⟩, none⟩⟩

/-- A cluster joins and a rule that copies ConfigMaps is reconciled. -/
def ruleNamed (name : String) : List (Map String Hosted × Act) × Map String Hosted :=
  played (hosting .bare (.ok ())) [] ∅
    [.add (newRemoteCluster .bare "a"),
      .reconcile name (.ok (configMapRule name)) ["a"] fun _ => true]

theorem run_ruleNamed (name : String) :
    Run (hosting .bare (.ok ())) (ruleNamed name).1 (ruleNamed name).2 :=
  .plays (.init rfl) ⟨⟨rfl, rfl⟩, ⟨by decide +kernel, fun sr h => by cases h; rfl⟩, trivial⟩

theorem builtins_kept_iff_spared_ruleNamed : IsRuleName "rule" ∧
    ∀ s ∈ states (ruleNamed "rule").1 (ruleNamed "rule").2, BuiltinsKept s := by
  have hname : IsRuleName "rule" := by decide
  refine ⟨hname, (builtins_kept_iff_spared .bare (.ok ()) _ _ (run_ruleNamed "rule")).mpr ?_⟩
  simp only [List.forall_mem_cons, ruleNamed, played]
  exact ⟨.inr (.inl hname), trivial, by simp⟩

theorem builtin_stopped_ruleNamed :
    Run (hosting .bare (.ok ())) (ruleNamed "remote-cluster").1 (ruleNamed "remote-cluster").2 ∧
    ¬BuiltinsKept (ruleNamed "remote-cluster").2 := by
  refine ⟨run_ruleNamed _, fun hk => ?_⟩
  have hstopped := (hk "a" _ rfl _ List.mem_cons_self).2
  exact hstopped List.mem_cons_self

end

end ClusterRegistry.Rules
