import ClusterRegistry.Members.Listing
import ClusterRegistry.Members.Written

/-!
# What a call in the remote cluster stores

`ClustersSynced` of a peer is to say whether every local resource has one on the
other side, with its ID and its name and ready (`Tells`). A call of
`RemoteClusterReconciler` that ends without an error stores what it has found. It
finds what there is unless it is misled, and an error of one of its lists is none
of the call.
-/

namespace ClusterRegistry.Members

open Lib Lib.Code

def statusOf (b : Bool) : ConditionStatus := if b then .conditionTrue else .conditionFalse

theorem statusOf_inj {b b' : Bool} : statusOf b = statusOf b' ↔ b = b' := by
  cases b <;> cases b' <;> decide

/-- Every local resource has one on the other side that it fits with. -/
def AllInSync (locals remotes : Table ClusterObject.name) : Prop :=
  ∀ c ∈ locals.toList, InSync remotes.toList c

instance (locals remotes : Table ClusterObject.name) : Decidable (AllInSync locals remotes) :=
  inferInstanceAs (Decidable (∀ c ∈ locals.toList, _))

/-- What `ClustersSynced` of the resource should say. -/
def inSyncStatus (id : String) (locals remotes : Table ClusterObject.name) (c : ClusterObject) :
    ConditionStatus :=
  statusOf (decide (c.spec.clusterID = id ∧ AllInSync locals remotes))

/-- The condition of the resource `n` says what there is. -/
def Tells (id n : String) (locals remotes : Table ClusterObject.name) : Prop :=
  ∀ c, locals.get n = some c →
    held c.status.conditions .clustersSynced = some (inSyncStatus id locals remotes c)

/-- What the server keeps of a resource apart from the status. -/
def ident (c : ClusterObject) : Nat × ClusterSpec := (c.uid, c.spec)

/-- What `syncClusters` looks at in a remote resource. -/
def facts (c : ClusterObject) : String × ClusterState := (c.spec.clusterID, c.status.state)

section

variable {id n : String} {locals locals' remotes remotes' : Table ClusterObject.name}

theorem get_of_map_eq {α : Type} {f : ClusterObject → α} {m : String}
    (h : (locals.get m).map f = (locals'.get m).map f) {c : ClusterObject}
    (hc : locals.get m = some c) :
    ∃ c', locals'.get m = some c' ∧ f c' = f c ∧ c'.name = c.name := by
  rw [hc] at h
  obtain ⟨c', hc', heq⟩ := Option.map_eq_some_iff.mp h.symm
  exact ⟨c', hc', heq, (Table.key_of_get hc').trans (Table.key_of_get hc).symm⟩

theorem inSync_of_facts (h : ∀ m, (remotes.get m).map facts = (remotes'.get m).map facts)
    {c : ClusterObject} (hc : InSync remotes.toList c) : InSync remotes'.toList c := by
  obtain ⟨rc, hmem, hid, hname, hready⟩ := hc
  obtain ⟨rc', hget, hfacts, hname'⟩ := get_of_map_eq (h rc.name) (Table.mem_toList.mp hmem)
  obtain ⟨hid', hstate⟩ : rc'.spec.clusterID = rc.spec.clusterID ∧
      rc'.status.state = rc.status.state := Prod.mk.injEq .. ▸ hfacts
  exact ⟨rc', Table.mem_toList.mpr (hname' ▸ hget), hid'.trans hid, hname'.trans hname,
    hstate.trans hready⟩

theorem AllInSync.of_facts (h : ∀ m, (remotes.get m).map facts = (remotes'.get m).map facts)
    (hall : AllInSync locals remotes) : AllInSync locals remotes' :=
  fun c hc => inSync_of_facts h (hall c hc)

theorem AllInSync.of_ident (h : ∀ m, (locals.get m).map ident = (locals'.get m).map ident)
    (hall : AllInSync locals remotes) : AllInSync locals' remotes := by
  intro c hc
  obtain ⟨c', hget, hident, hname⟩ := get_of_map_eq (h c.name).symm (Table.mem_toList.mp hc)
  obtain ⟨rc, hmem, hid, hrc, hready⟩ := hall c' (Table.mem_toList.mpr (hname ▸ hget))
  have hspec : c'.spec = c.spec := congrArg Prod.snd hident
  exact ⟨rc, hmem, hid.trans (congrArg ClusterSpec.clusterID hspec), hrc.trans hname, hready⟩

/-- The two tables have the same resources, and the same condition of `n`. -/
def SameView (n : String) (locals locals' : Table ClusterObject.name) : Prop :=
  (∀ m, (locals.get m).map ident = (locals'.get m).map ident) ∧
    (locals.get n).map (fun c => held c.status.conditions .clustersSynced) =
      (locals'.get n).map fun c => held c.status.conditions .clustersSynced

theorem SameView.symm (h : SameView n locals locals') : SameView n locals' locals :=
  ⟨fun m => (h.1 m).symm, h.2.symm⟩

theorem inSyncStatus_congr {c c' : ClusterObject} (hspec : c'.spec = c.spec)
    (hall : AllInSync locals' remotes' ↔ AllInSync locals remotes) :
    inSyncStatus id locals' remotes' c' = inSyncStatus id locals remotes c := by
  unfold inSyncStatus
  rw [hspec]
  simp only [hall]

theorem Tells.of_view (h : SameView n locals locals') (ht : Tells id n locals remotes) :
    Tells id n locals' remotes := by
  intro c hc
  obtain ⟨c', hget, hident, -⟩ := get_of_map_eq (h.1 n).symm hc
  obtain ⟨c'', hget', hheld, -⟩ := get_of_map_eq h.2.symm hc
  cases hget.symm.trans hget'
  rw [← hheld, ht c' hget]
  exact congrArg some (inSyncStatus_congr (congrArg Prod.snd hident)
    ⟨.of_ident h.1, .of_ident h.symm.1⟩)

theorem tells_of_view (h : SameView n locals locals') :
    Tells id n locals' remotes ↔ Tells id n locals remotes := ⟨.of_view h.symm, .of_view h⟩

theorem tells_of_facts (h : ∀ m, (remotes.get m).map facts = (remotes'.get m).map facts) :
    Tells id n locals remotes' ↔ Tells id n locals remotes := by
  have hall : AllInSync locals remotes' ↔ AllInSync locals remotes :=
    ⟨.of_facts fun m => (h m).symm, .of_facts h⟩
  unfold Tells
  simp only [inSyncStatus_congr rfl hall]

end

/-! ## One call -/

namespace RemoteClusterReconciler

/-- `syncClusters` finds nothing wrong. -/
def FindsInSync (env : RemoteEnv) (locals : Table ClusterObject.name) : Prop :=
  env.localList = none ∧ ∃ remoteItems, env.remoteClusters = .ok remoteItems ∧
    ∀ c ∈ env.listOrder.arrange locals.toList,
      Represents (env.listOrder.arrange locals.toList) c → SeenInSync remoteItems c

/-- `syncClusters` reads, and returns what it finds. -/
theorem run_syncClusters (env : RemoteEnv) (w : World) :
    ∃ err, (syncClusters env).run w = (.ok err, w) := by
  have hlist := run_answer env.localList
    (fun w => .ok (env.listOrder.arrange w.clusters.toList)) w
  unfold syncClusters
  cases hl : env.localList with
  | some e => exact ⟨_, run_attempt_bind (hl ▸ hlist) _⟩
  | none =>
    refine Exists.imp (fun err herr => (run_attempt_bind (hl ▸ hlist) _).trans herr) ?_
    dsimp only
    cases env.remoteClusters with
    | error e => exact ⟨_, rfl⟩
    | ok items =>
      dsimp only
      split
      · exact ⟨_, rfl⟩
      · exact ⟨_, rfl⟩

theorem syncClusters_none_iff (env : RemoteEnv) (w : World) :
    ((syncClusters env).run w).1 = .ok none ↔ FindsInSync env w.clusters := by
  have hlist := run_answer env.localList
    (fun w => .ok (env.listOrder.arrange w.clusters.toList)) w
  cases hl : env.localList with
  | some e =>
    refine iff_of_false ?_ fun h => nomatch hl.symm.trans h.1
    unfold syncClusters
    rw [hl, run_attempt_bind (hl ▸ hlist)]
    exact nofun
  | none =>
    cases hr : env.remoteClusters with
    | error e =>
      refine iff_of_false ?_ fun ⟨_, _, h, _⟩ => nomatch hr.symm.trans h
      unfold syncClusters
      rw [hl, run_attempt_bind (hl ▸ hlist), hr]
      exact nofun
    | ok items =>
      rw [syncClusters_nil_iff hl hr]
      exact ⟨fun h => ⟨hl, items, hr, h⟩, fun ⟨_, _, h, h'⟩ => by cases hr.symm.trans h; exact h'⟩

section

variable {env : RemoteEnv} {id n : String} {w : World} {c : ClusterObject}

/-- The call ends without an update although nothing is reported: the resource is not
found, or the error is permanent and that of the update is only logged. -/
def Unwritten (env : RemoteEnv) (id n : String) (w : World) : Prop :=
  (∃ e, env.get = some e ∧ e.reason = .notFound) ∨ w.clusters.get n = none ∨
    ∃ c, w.clusters.get n = some c ∧ c.spec.clusterID ≠ id ∧ env.update.passes true = false

/-- The draft is over the resource, and of a peer. -/
structure Peers (c : ClusterObject) (d : Draft) : Prop extends d.Over c where
  uid : d.cluster.uid = c.uid
  type : d.cluster.status.type = .peer

theorem peers_startDraft (c : ClusterObject) : Peers c (startDraft c c.status.reset) :=
  ⟨⟨rfl, rfl, keyed_getCurrentConditions _⟩, rfl, rfl⟩

theorem Peers.setCondition {d : Draft} (h : Peers c d) (now : Nat) (cond : ClusterCondition) :
    Peers c (d.setCondition now cond) :=
  ⟨⟨h.name, h.version, keyed_setCondition h.keyed now cond⟩, h.uid, h.type⟩

/-- What is stored when `ClustersSynced` was set last. -/
theorem held_synced {d : Draft} (h : Peers c d) (now : Nat) (order : Shuffle ClusterCondition)
    (err reconcileError : Option Failure) :
    held (statusToStore order reconcileError
      (d.setCondition now (clustersSyncedCondition err))).conditions .clustersSynced =
        some (statusOf err.isNone) := by
  have hd := h.setCondition now (clustersSyncedCondition err)
  rw [conditions_statusToStore, held_storedConditions order hd.keyed (by rw [hd.type]; exact nofun)]
  refine (status_setCondition now d.conditions _ _).trans ?_
  cases err <;> rfl

theorem Peers.noteError {d : Draft} (h : Peers c d) (e : Failure) :
    Peers c (noteError env (some e) d) := h.setCondition _ _

theorem held_noteError {d : Draft} (h : Peers c d) (e : Failure) :
    held (statusToStore env.conditionOrder (some e) (noteError env (some e) d)).conditions
      .clustersSynced = some (statusOf false) :=
  held_synced h env.now env.conditionOrder (some e) (some e)

/-- An update of the draft. -/
theorem run_update (env : RemoteEnv) (hc : w.clusters.get n = some c) {d : Draft}
    (hd : Peers c d) (err : Option Failure) :
    (env.update.passes true = false ∧
      ∃ r, (updateCluster env.update env.conditionOrder .remoteClusterReconciler err d).run w =
        (r, w) ∧ (err = none → ∃ e, r = .error e)) ∨
    (env.update.passes true = true ∧
      ∃ r entry,
        (updateCluster env.update env.conditionOrder .remoteClusterReconciler err d).run w =
          (r, w.recorded entry c) ∧ entry.status = statusToStore env.conditionOrder err d) := by
  have hname : d.cluster.name = n := hd.name.trans (Table.key_of_get hc)
  have hrun := run_updateCluster (hname ▸ hc) hd.uid env.update env.conditionOrder
    .remoteClusterReconciler err
  rw [decide_eq_true hd.version] at hrun
  rcases hrun with h | ⟨hp, r, retried, hrun, -⟩
  · exact .inl h
  · exact .inr ⟨hp, r, _, hrun, rfl⟩

/-- What a call for a resource that is there comes to before the update. -/
structure Judged (env : RemoteEnv) (id : String) (w : World) (c : ClusterObject)
    (err : Option Failure) (d : Draft) (synced : Bool) : Prop where
  peers : Peers c d
  held : held (statusToStore env.conditionOrder err d).conditions .clustersSynced =
    some (statusOf synced)
  invalid : c.spec.clusterID ≠ id → synced = false
  valid : c.spec.clusterID = id →
    (∃ e, err = some ⟨e, false⟩) ∨ err = none ∧ (synced = true ↔ FindsInSync env w.clusters)

theorem run_reconcileCluster (env : RemoteEnv) (id : String) (w : World) (c : ClusterObject) :
    ∃ err d synced, Judged env id w c err d synced ∧ (reconcileCluster env id c).run w =
      (updateCluster env.update env.conditionOrder .remoteClusterReconciler err d >>=
        fun _ => pure ()).run w := by
  have hstart := peers_startDraft c
  have hrun : ∀ {err d}, (reconcileDraft env id (startDraft c c.status.reset)).run w =
      (.ok (err, d), w) → (reconcileCluster env id c).run w =
        (updateCluster env.update env.conditionOrder .remoteClusterReconciler err
          (noteError env err d) >>= fun _ => pure ()).run w :=
    fun h => run_bind_ok h _
  by_cases hid : id = (startDraft c c.status.reset).cluster.spec.clusterID
  · cases hm : env.clusterMetadata with
    | error e =>
      have hd := (hstart.setCondition env.now (clusterMetadataCondition (some ⟨e, false⟩))
        ).setCondition env.now (clustersSyncedCondition (some ⟨e, false⟩))
      have hdraft : (reconcileDraft env id (startDraft c c.status.reset)).run w =
          (.ok (some ⟨e, false⟩, ((startDraft c c.status.reset).setCondition env.now
            (clusterMetadataCondition (some ⟨e, false⟩))).setCondition env.now
              (clustersSyncedCondition (some ⟨e, false⟩))), w) := by
        unfold reconcileDraft
        rw [if_neg (not_not.mpr hid), hm]
        rfl
      exact ⟨_, _, false, ⟨hd.noteError _, held_noteError hd _, fun h => absurd hid.symm h,
        fun _ => .inl ⟨e, rfl⟩⟩, hrun hdraft⟩
    | ok clusterMetadata =>
      obtain ⟨err, hsync⟩ := run_syncClusters env w
      have hfinds := syncClusters_none_iff env w
      rw [hsync, Except.ok.injEq] at hfinds
      have hd : Peers c (((startDraft c c.status.reset).setCondition env.now
          (clusterMetadataCondition none)).setStatus { c.status.reset with
            clusterMetadata := clusterMetadata }) :=
        ⟨⟨rfl, rfl, (hstart.setCondition _ _).keyed⟩, rfl, rfl⟩
      have hdraft : (reconcileDraft env id (startDraft c c.status.reset)).run w =
          (.ok (none, (((startDraft c c.status.reset).setCondition env.now
            (clusterMetadataCondition none)).setStatus { c.status.reset with
              clusterMetadata := clusterMetadata }).setCondition env.now
                (clustersSyncedCondition err)), w) := by
        unfold reconcileDraft
        rw [if_neg (not_not.mpr hid), hm]
        exact run_bind_ok hsync _
      exact ⟨_, _, err.isNone, ⟨hd.setCondition _ _, held_synced hd _ _ _ _,
        fun h => absurd hid.symm h,
        fun _ => .inr ⟨rfl, Option.isNone_iff_eq_none.trans hfinds⟩⟩, hrun hdraft⟩
  · have hdraft : (reconcileDraft env id (startDraft c c.status.reset)).run w =
        (.ok (some errInvalidClusterID.wrapAsPermanentError, startDraft c c.status.reset), w) := by
      unfold reconcileDraft
      rw [if_pos hid]
      rfl
    exact ⟨_, _, false, ⟨hstart.noteError _, held_noteError hstart _, fun _ => rfl,
      fun h => absurd h.symm hid⟩, hrun hdraft⟩

/-- Only the answer of the update is left out. -/
theorem run_discard {m : Proc Draft} {r : Except Failure Draft} {w' : World}
    (h : m.run w = (r, w')) : (m >>= fun _ => pure () : Proc Unit).run w =
      (r.map fun _ => (), w') := by
  cases r with
  | error e => exact run_bind_error h _
  | ok d => exact run_bind_ok h _

section

variable (hid : ∀ i, env.clusterID = .ok i → i = id)
  (hdone : ((reconcile env n).run w).1 = .ok ())

include hid hdone

/-- A call that ends without an error gets to know the cluster ID, and finds the
resource or does not. -/
theorem run_of_done :
    (((∃ e, env.get = some e ∧ e.reason = .notFound) ∨ w.clusters.get n = none) ∧
      ((reconcile env n).run w).2 = w) ∨
    (env.get = none ∧ ∃ c, w.clusters.get n = some c ∧
      (reconcile env n).run w = (reconcileCluster env id c).run w) := by
  cases hi : env.clusterID with
  | error e =>
    have hrun : (reconcile env n).run w =
        (.error ⟨e.wrapIf "could not get cluster id", false⟩, w) := by
      refine run_bind_error ?_ _
      rw [hi, run_mapError, run_ofExcept]
      rfl
    rw [hrun] at hdone
    cases hdone
  | ok i =>
    cases hid i hi
    have hfirst : ((ofExcept env.clusterID).mapError
        fun e => (⟨e.wrapIf "could not get cluster id", false⟩ : Failure) : Proc String).run w =
          (.ok id, w) := by
      rw [hi, run_mapError, run_ofExcept]
      rfl
    have hread : ∀ r, (getCluster env.get n).run w = (r, w) → (reconcile env n).run w = _ :=
      fun r hr => (run_bind_ok hfirst _).trans (run_attempt_bind hr _)
    cases hg : env.get with
    | some e =>
      have hrun := hread (.error ⟨e, false⟩) (by rw [hg]; exact run_answer (some e) _ w)
      by_cases hr : e.reason = .notFound
      · refine .inl ⟨.inl ⟨e, rfl, hr⟩, ?_⟩
        rw [hrun]
        dsimp only
        rw [if_pos hr]
        rfl
      · rw [hrun] at hdone
        dsimp only at hdone
        rw [if_neg hr] at hdone
        cases hdone
    | none =>
      cases hc : w.clusters.get n with
      | none =>
        have hrun := hread (.error notFound) (by
          rw [hg]
          refine (run_answer none _ w).trans ?_
          simp only [hc])
        exact .inl ⟨.inr rfl, by rw [hrun]; rfl⟩
      | some c =>
        have hrun := hread (.ok c) (by rw [hg]; exact run_getCluster hc none)
        exact .inr ⟨rfl, c, rfl, hrun⟩

/-- A call that writes nothing. -/
theorem unwritten_of_done (h : Unwritten env id n w) : ((reconcile env n).run w).2 = w := by
  rcases run_of_done hid hdone with ⟨-, hsame⟩ | ⟨hget, c, hc, hrun⟩
  · exact hsame
  · rcases h with ⟨e, he, -⟩ | hnone | ⟨c', hc', hne, hfails⟩
    · cases hget.symm.trans he
    · cases hc.symm.trans hnone
    · cases hc.symm.trans hc'
      obtain ⟨err, d, synced, hjudged, hcluster⟩ := run_reconcileCluster env id w c
      rcases run_update env hc hjudged.peers err with ⟨-, r, hupdate, -⟩ | ⟨hp, -⟩
      · rw [hrun, hcluster, run_discard hupdate]
      · cases hfails.symm.trans hp

/-- **What a call stores** that ends without an error: whether it found all in sync. -/
theorem written_of_done (h : ¬Unwritten env id n w) :
    ∃ c entry synced, w.clusters.get n = some c ∧
      ((reconcile env n).run w).2 = w.recorded entry c ∧
      held entry.status.conditions .clustersSynced = some (statusOf synced) ∧
      (synced = true ↔ c.spec.clusterID = id ∧ FindsInSync env w.clusters) := by
  rcases run_of_done hid hdone with ⟨hnone, -⟩ | ⟨hget, c, hc, hrun⟩
  · exact absurd (hnone.imp_right .inl) h
  · obtain ⟨err, d, synced, hjudged, hcluster⟩ := run_reconcileCluster env id w c
    rw [hrun, hcluster] at hdone ⊢
    have hupdate := run_update env hc hjudged.peers err
    by_cases hv : c.spec.clusterID = id
    · rcases hjudged.valid hv with ⟨e, rfl⟩ | ⟨rfl, hfinds⟩
      · obtain ⟨w', htransient⟩ := run_updateCluster_transient env.update env.conditionOrder
          .remoteClusterReconciler e d w
        rw [run_discard htransient] at hdone
        cases hdone
      · rcases hupdate with ⟨-, r, hupdate, herr⟩ | ⟨-, r, entry, hupdate, hentry⟩
        · obtain ⟨e, rfl⟩ := herr rfl
          rw [run_discard hupdate] at hdone
          cases hdone
        · refine ⟨c, entry, synced, hc, by rw [run_discard hupdate], ?_, ?_⟩
          · rw [hentry]
            exact hjudged.held
          · rw [hfinds, and_iff_right hv]
    · rcases hupdate with ⟨hp, -⟩ | ⟨-, r, entry, hupdate, hentry⟩
      · exact absurd (.inr (.inr ⟨c, hc, hv, hp⟩)) h
      · refine ⟨c, entry, synced, hc, by rw [run_discard hupdate], ?_, ?_⟩
        · rw [hentry]
          exact hjudged.held
        · rw [hjudged.invalid hv]
          exact iff_of_false Bool.false_ne_true fun hfinds => hv hfinds.1

end

end

end RemoteClusterReconciler

/-! ## What misleads a call -/

/-- All resources that are looked at are in sync, and one that is not looked at
is not. -/
def Overlooked (items remoteItems : List ClusterObject) : Prop :=
  (∀ c ∈ items, Represents items c → SeenInSync remoteItems c) ∧
    ∃ c ∈ items, ¬Represents items c ∧ ¬InSync remoteItems c

/-- All resources are in sync, but one of them is compared with another resource
on the other side, which has its ID and is listed later. -/
def Misjudged (items remoteItems : List ClusterObject) : Prop :=
  (∀ c ∈ items, InSync remoteItems c) ∧
    ∃ c ∈ items, Represents items c ∧ ¬SeenInSync remoteItems c

namespace RemoteClusterReconciler

/-- A list could not be read although all is in sync, or one of the two lists has an ID
twice and the resource that was kept for it gives the wrong answer. -/
def Misled (env : RemoteEnv) (locals remotes : Table ClusterObject.name) : Prop :=
  (env.localList ≠ none ∨ ∃ e, env.remoteClusters = .error e) ∧ AllInSync locals remotes ∨
  env.localList = none ∧ ∃ items, env.remoteClusters = .ok items ∧
    (Overlooked (env.listOrder.arrange locals.toList) items ∨
      Misjudged (env.listOrder.arrange locals.toList) items)

/-- The remote resources are read from the cache, in some order. -/
def ReadsFrom (env : RemoteEnv) (remotes : Table ClusterObject.name) : Prop :=
  ∀ items, env.remoteClusters = .ok items → ∃ order : Shuffle ClusterObject,
    items = order.arrange remotes.toList

theorem overlooked_iff {items remoteItems : List ClusterObject} :
    Overlooked items remoteItems ↔ (∀ c ∈ items, Represents items c → SeenInSync remoteItems c) ∧
      ¬∀ c ∈ items, InSync remoteItems c := by
  refine and_congr_right fun hseen => ⟨?_, fun hnot => ?_⟩
  · rintro ⟨c, hc, -, hsync⟩ hall
    exact hsync (hall c hc)
  · push Not at hnot
    obtain ⟨c, hc, hsync⟩ := hnot
    exact ⟨c, hc, fun hrep => hsync (hseen c hc hrep).inSync, hsync⟩

theorem misjudged_iff {items remoteItems : List ClusterObject} :
    Misjudged items remoteItems ↔ (∀ c ∈ items, InSync remoteItems c) ∧
      ¬∀ c ∈ items, Represents items c → SeenInSync remoteItems c := by
  unfold Misjudged
  push Not
  exact Iff.rfl

/-- A call finds what there is, unless it is misled. -/
theorem misled_iff {env : RemoteEnv} {locals remotes : Table ClusterObject.name}
    (hreads : ReadsFrom env remotes) :
    Misled env locals remotes ↔ ¬(FindsInSync env locals ↔ AllInSync locals remotes) := by
  by_cases hlists : env.localList ≠ none ∨ ∃ e, env.remoteClusters = .error e
  · have hnone : ¬∃ items, env.localList = none ∧ env.remoteClusters = .ok items := by
      rintro ⟨items, hl, hr⟩
      rcases hlists with h | ⟨e, he⟩
      · exact h hl
      · cases he.symm.trans hr
    have hfinds : ¬FindsInSync env locals := fun ⟨hl, items, hr, _⟩ => hnone ⟨items, hl, hr⟩
    have hright : ¬(env.localList = none ∧ ∃ items, env.remoteClusters = .ok items ∧
        (Overlooked (env.listOrder.arrange locals.toList) items ∨
          Misjudged (env.listOrder.arrange locals.toList) items)) :=
      fun ⟨hl, items, hr, _⟩ => hnone ⟨items, hl, hr⟩
    unfold Misled
    rw [and_iff_right hlists, or_iff_left hright, iff_false_left hfinds, not_not]
  · obtain ⟨hl, hr⟩ := not_or.mp hlists
    have hl : env.localList = none := not_not.mp hl
    cases hitems : env.remoteClusters with
    | error e => exact absurd ⟨e, hitems⟩ hr
    | ok items =>
      obtain ⟨order, rfl⟩ := hreads items hitems
      have hall : AllInSync locals remotes ↔ ∀ c ∈ env.listOrder.arrange locals.toList,
          InSync (order.arrange remotes.toList) c := by
        unfold AllInSync InSync
        simp only [Shuffle.mem]
      have hfinds : FindsInSync env locals ↔ ∀ c ∈ env.listOrder.arrange locals.toList,
          Represents (env.listOrder.arrange locals.toList) c →
            SeenInSync (order.arrange remotes.toList) c := by
        unfold FindsInSync
        rw [and_iff_right hl, hitems]
        simp only [Except.ok.injEq, exists_eq_left']
      unfold Misled
      rw [or_iff_right fun h => hlists h.1, and_iff_right hl, hitems, hall, hfinds]
      simp only [Except.ok.injEq, exists_eq_left', overlooked_iff, misjudged_iff]
      tauto

end RemoteClusterReconciler

end ClusterRegistry.Members
