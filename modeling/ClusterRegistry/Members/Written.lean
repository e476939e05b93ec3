import ClusterRegistry.Members.Connection
import ClusterRegistry.Members.Writers

/-!
# What a call writes into the status

A call of `ClusterReconciler` run alone, with the status updates it makes. The
status is reset when a call starts and again for a disabled cluster, and the
second reset forgets that the cluster is local. A remote cluster is written
only if there was an error, so that a state set without one is lost. The
condition `Ready` is set from the error of reading the resource, which is none
by then.
-/

namespace ClusterRegistry.Members

open Lib Lib.Code

/-! ## Status updates -/

/-- An update goes through, if need be at the second attempt; `current` says
whether the object has the version that is stored. -/
def UpdateFaults.passes (f : UpdateFaults) (current : Bool) : Bool :=
  match f.update with
  | none => current || f.get.isNone && f.retry.isNone
  | some e => e.reason = .conflict && (f.get.isNone && f.retry.isNone)

/-- The stored resource gets the status of the update. -/
def World.recorded (w : World) (entry : StatusWrite) (cur : ClusterObject) : World :=
  { w with
    clusters := w.clusters.put { cur with status := entry.status, resourceVersion := w.rev + 1 }
    rev := w.rev + 1
    writes := entry :: w.writes }

theorem get_recorded (w : World) (entry : StatusWrite) (cur : ClusterObject) :
    (w.recorded entry cur).clusters.get cur.name =
      some { cur with status := entry.status, resourceVersion := w.rev + 1 } :=
  (Table.get_put _ _ _).trans (if_pos rfl)

section

variable {w : World} {cur : ClusterObject}

theorem run_updateStatus {entry : StatusWrite} {obj : ClusterObject}
    (hcur : w.clusters.get obj.name = some cur) (huid : obj.uid = cur.uid)
    (hs : obj.status = entry.status) (fault : Option Err) :
    (updateStatus fault entry obj).run w =
      match fault with
      | some e => (.error ⟨e, false⟩, w)
      | none =>
        if obj.resourceVersion = cur.resourceVersion then
          (.ok { cur with status := entry.status, resourceVersion := w.rev + 1 },
            w.recorded entry cur)
        else (.error conflict, w) := by
  refine (run_atomic _ w).trans ?_
  cases fault with
  | some e => rfl
  | none =>
    by_cases hv : obj.resourceVersion = cur.resourceVersion
    · simp only [hcur, hs, ne_eq, huid, hv, not_true, or_self, if_false, if_true]
      rfl
    · simp only [hcur, ne_eq, huid, hv, not_true, not_false_eq_true, or_true, if_false, if_true]

theorem run_getCluster {name : String} (hcur : w.clusters.get name = some cur)
    (fault : Option Err) : (getCluster fault name).run w =
      match fault with
      | some e => (.error ⟨e, false⟩, w)
      | none => (.ok cur, w) := by
  unfold getCluster
  rw [run_answer]
  cases fault with
  | some e => rfl
  | none => simp only [hcur]

/-- The second attempt, once the first one has met a conflict. -/
theorem run_updateClusterStatus_conflict {d : Draft} {faults : UpdateFaults} {writer : Writer}
    (hcur : w.clusters.get d.cluster.name = some cur) (huid : d.cluster.uid = cur.uid)
    {e : Failure} (he : e.err.reason = .conflict)
    (hrun : (updateStatus faults.update ⟨writer, d.set, d.cluster.status, false⟩ d.cluster).run w =
      (.error e, w)) :
    ((faults.get.isNone && faults.retry.isNone) = false ∧
      ∃ e, (updateClusterStatus faults writer d).run w = (.error e, w)) ∨
    ((faults.get.isNone && faults.retry.isNone) = true ∧
      (updateClusterStatus faults writer d).run w =
        (.ok d.cluster, w.recorded ⟨writer, d.set, d.cluster.status, true⟩ cur)) := by
  have hget := run_getCluster hcur faults.get
  have hsecond := @run_updateStatus w cur ⟨writer, d.set, d.cluster.status, true⟩
    { d.cluster with resourceVersion := cur.resourceVersion } hcur huid rfl faults.retry
  unfold updateClusterStatus
  rw [run_attempt_bind hrun]
  dsimp only
  rw [if_pos he]
  cases hg : faults.get with
  | some e' =>
    rw [hg] at hget
    refine .inl ⟨rfl, _, run_bind_error (e := (⟨e', false⟩ : Failure).wrapIf
      "could not get cluster") (t := w) ?_ _⟩
    rw [run_mapError, hget]
    rfl
  | none =>
    rw [hg] at hget
    rw [run_bind_ok (a := cur) (t := w) (by
      rw [run_mapError, hget]
      rfl)]
    cases hr : faults.retry with
    | some e' =>
      rw [hr] at hsecond
      refine .inl ⟨rfl, _, run_bind_error (e := (⟨e', false⟩ : Failure).wrapIf
        "could not update cluster status") (t := w) ?_ _⟩
      rw [run_mapError, hsecond]
      rfl
    | none =>
      rw [hr, if_pos rfl] at hsecond
      refine .inr ⟨rfl, run_bind_ok (t := w.recorded _ cur)
        (a := { cur with status := d.cluster.status, resourceVersion := w.rev + 1 }) ?_ _⟩
      rw [run_mapError, hsecond]
      rfl

/-- **An update of the status** leaves all as it was, or goes through. -/
theorem run_updateClusterStatus {d : Draft} (hcur : w.clusters.get d.cluster.name = some cur)
    (huid : d.cluster.uid = cur.uid) (faults : UpdateFaults) (writer : Writer) :
    (faults.passes (d.cluster.resourceVersion = cur.resourceVersion) = false ∧
      ∃ e, (updateClusterStatus faults writer d).run w = (.error e, w)) ∨
    (faults.passes (d.cluster.resourceVersion = cur.resourceVersion) = true ∧
      ∃ retried cluster, (updateClusterStatus faults writer d).run w =
        (.ok cluster, w.recorded ⟨writer, d.set, d.cluster.status, retried⟩ cur) ∧
        cluster.name = cur.name ∧ cluster.uid = cur.uid ∧
        cluster.status = d.cluster.status) := by
  have hname : cur.name = d.cluster.name := Table.key_of_get hcur
  have hfirst := @run_updateStatus w cur ⟨writer, d.set, d.cluster.status, false⟩ d.cluster hcur
    huid rfl faults.update
  have hagain := fun e => @run_updateClusterStatus_conflict w cur d faults writer hcur huid e
  unfold UpdateFaults.passes
  cases hu : faults.update with
  | some e =>
    rw [hu] at hfirst hagain
    by_cases he : e.reason = .conflict
    · rcases hagain ⟨e, false⟩ he hfirst with ⟨hf, hrun⟩ | ⟨hf, hrun⟩
      · exact .inl ⟨by simp [hf], hrun⟩
      · exact .inr ⟨by simp [hf, he], true, _, hrun, hname.symm, huid, rfl⟩
    · refine .inl ⟨by simp [he], (⟨e, false⟩ : Failure).wrapIf "could not update status", ?_⟩
      unfold updateClusterStatus
      rw [hu, run_attempt_bind hfirst]
      dsimp only
      rw [if_neg he]
      rfl
  | none =>
    rw [hu] at hfirst hagain
    by_cases hv : d.cluster.resourceVersion = cur.resourceVersion
    · rw [if_pos hv] at hfirst
      refine .inr ⟨by simp [hv], false, { cur with
        status := d.cluster.status, resourceVersion := w.rev + 1 }, ?_, rfl, rfl, rfl⟩
      unfold updateClusterStatus
      rw [hu, run_attempt_bind hfirst]
      rfl
    · rw [if_neg hv] at hfirst
      rcases hagain conflict rfl hfirst with ⟨hf, hrun⟩ | ⟨hf, hrun⟩
      · exact .inl ⟨by simp [hf, hv], hrun⟩
      · exact .inr ⟨by simp [hf], true, _, hrun, hname.symm, huid, rfl⟩

theorem run_updateCluster {d : Draft} (hcur : w.clusters.get d.cluster.name = some cur)
    (huid : d.cluster.uid = cur.uid) (faults : UpdateFaults) (order : Shuffle ClusterCondition)
    (writer : Writer) (err : Option Failure) :
    (faults.passes (d.cluster.resourceVersion = cur.resourceVersion) = false ∧
      ∃ r, (updateCluster faults order writer err d).run w = (r, w) ∧
        (err = none → ∃ e, r = .error e)) ∨
    (faults.passes (d.cluster.resourceVersion = cur.resourceVersion) = true ∧
      ∃ r retried, (updateCluster faults order writer err d).run w =
        (r, w.recorded ⟨writer, d.set, statusToStore order err d, retried⟩ cur) ∧
        (err = none → ∃ cluster, r = .ok { d with cluster := cluster } ∧
          cluster.name = cur.name ∧ cluster.uid = cur.uid ∧
          cluster.status = statusToStore order err d)) := by
  have hupd := run_updateClusterStatus (d := d.setStatus (statusToStore order err d)) hcur huid
    faults writer
  unfold updateCluster
  cases err with
  | some e =>
    have hlogged : ∀ t, (if e.permanent then pure (d.setStatus (statusToStore order (some e) d))
        else fail e : Proc Draft).run t = (if e.permanent then
          .ok (d.setStatus (statusToStore order (some e) d)) else .error e, t) := by
      intro t
      cases e.permanent <;> rfl
    rcases hupd with ⟨hp, e', hrun⟩ | ⟨hp, retried, cluster, hrun, -⟩
    · exact .inl ⟨hp, _, (run_attempt_bind hrun _).trans (hlogged w), nofun⟩
    · exact .inr ⟨hp, _, retried, (run_attempt_bind hrun _).trans (hlogged _), nofun⟩
  | none =>
    rcases hupd with ⟨hp, e', hrun⟩ | ⟨hp, retried, cluster, hrun, hname, hu, hstatus⟩
    · exact .inl ⟨hp, _, run_bind_error hrun _, fun _ => ⟨e', rfl⟩⟩
    · exact .inr ⟨hp, _, retried, run_bind_ok hrun _, fun _ => ⟨cluster, rfl, hname, hu, hstatus⟩⟩

/-- Whatever comes of the status update, an error that is not permanent is returned. -/
theorem run_updateCluster_transient (faults : UpdateFaults) (order : Shuffle ClusterCondition)
    (writer : Writer) (e : Err) (d : Draft) (w : World) :
    ∃ w', (updateCluster faults order writer (some ⟨e, false⟩) d).run w =
      (.error ⟨e, false⟩, w') :=
  ⟨_, run_bind_ok (run_attempt _ w) _⟩

end

/-! ## Updates made -/

/-- Every update that was made between the two states is in `P`. -/
def World.Made (w w' : World) (P : StatusWrite → Prop) : Prop :=
  ∃ l, w'.writes = l ++ w.writes ∧ ∀ e ∈ l, P e

theorem made_iff {w w' : World} {l : List StatusWrite} (h : w'.writes = l ++ w.writes)
    {P : StatusWrite → Prop} : w.Made w' P ↔ ∀ e ∈ l, P e := by
  constructor
  · rintro ⟨l', hl', hP⟩
    rwa [List.append_cancel_right (h.symm.trans hl')]
  · exact fun hP => ⟨l, h, hP⟩

/-- The call gets to the resource. -/
structure Reads (env : Env) (w : World) (n : String) (c : ClusterObject) : Prop where
  identified : w.clusterID = "" → env.getClusterID = none
  get : env.get = none
  stored : w.clusters.get n = some c

section

variable {env : Env} {w : World} {n : String} {c : ClusterObject}

theorem Reads.name (h : Reads env w n c) : c.name = n := Table.key_of_get h.stored

theorem run_reconcile_of_reads (h : Reads env w n c) : (reconcile env n).run w =
    (reconcileAs env (c.spec.clusterID = w.localID) c).run w.identified := by
  rw [← run_reconcileRead env ((readCluster_eq_ok env).mpr ⟨h.get, h.stored⟩)]
  refine (run_bind_ok (run_setClusterID_ok env h.identified) _).trans (run_attempt_bind ?_ _)
  exact run_answer env.get _ w.identified

/-- A call that does not get to a resource writes nothing. -/
theorem journal_of_not_reads (h : ∀ c, ¬Reads env w n c) :
    ((reconcile env n).run w).2.journal () = w.journal () := by
  by_cases hid : w.clusterID = "" → env.getClusterID = none
  · have hrun : (reconcile env n).run w =
        (reconcileRead env n (w.readCluster env n)).run w.identified :=
      (run_bind_ok (run_setClusterID_ok env hid) _).trans
        (run_attempt_bind (run_answer env.get _ w.identified) _)
    cases hread : w.readCluster env n with
    | ok c =>
      obtain ⟨hget, hc⟩ := (readCluster_eq_ok env).mp hread
      exact absurd ⟨hid, hget, hc⟩ (h c)
    | error e =>
      have hquiet : Quiet World.journal (reconcileRead env n (.error e)) :=
        Quiet.ite (Quiet.bind (journal_removeIfFound n)
          fun _ => journal_triggerLocalClusterReconciles env) trivial
      rw [hrun, hread]
      exact hquiet.ends (k := ()) w.identified
  · obtain ⟨hempty, hf⟩ := Classical.not_imp.mp hid
    obtain ⟨e, he⟩ := Option.ne_none_iff_exists'.mp hf
    have hrun : (reconcile env n).run w = (_, w) :=
      run_bind_error (run_setClusterID_error env hempty he) _
    rw [hrun]

theorem journal_eq_iff {w' : World} : w'.journal () = w.journal () ↔
    w'.clusters = w.clusters ∧ w'.rev = w.rev ∧ w'.writes = w.writes := by
  simp [World.journal]

theorem run_removeIfFound (name : String) (w : World) : ∃ w',
    (removeIfFound name).run w = (.ok (), w') ∧ w'.journal () = w.journal () := by
  rcases hrun : (removeIfFound name).run w with ⟨r, w'⟩
  obtain ⟨rfl, -⟩ := (registry_removeIfFound (w.registry ()) name).final rfl hrun
  have hjournal := (journal_removeIfFound name).ends (k := ()) w
  unfold Eff.Ends at hjournal
  rw [hrun] at hjournal
  exact ⟨w', rfl, hjournal⟩

theorem run_resetStatus (env : Env) (isClusterLocal : Bool) (c : ClusterObject) (w : World) : ∃ w',
    (resetStatus env isClusterLocal c).run w = (.ok (startStatus isClusterLocal c), w') ∧
      w'.journal () = w.journal () := by
  cases isClusterLocal with
  | true =>
    obtain ⟨w', hrun, hjournal⟩ := run_removeIfFound c.name w
    exact ⟨w', run_bind_ok hrun _, hjournal⟩
  | false => exact ⟨w, rfl, rfl⟩

/-- The end of a call: nothing to write, a failed update, or one that went through. -/
theorem run_finishReconcile (env : Env) {cur : ClusterObject} {d : Draft}
    (hcur : w.clusters.get d.cluster.name = some cur) (huid : d.cluster.uid = cur.uid)
    (isClusterLocal : Bool) (err : Option Failure) :
    ((isClusterLocal || err.isSome) = false ∧
      (finishReconcile env isClusterLocal err d).run w = (.ok (), w)) ∨
    ((isClusterLocal || err.isSome) = true ∧
      env.finalUpdate.passes (d.cluster.resourceVersion = cur.resourceVersion) = false ∧
      ∃ r, (finishReconcile env isClusterLocal err d).run w = (r, w) ∧
        (err = none → r ≠ .ok ())) ∨
    ((isClusterLocal || err.isSome) = true ∧
      env.finalUpdate.passes (d.cluster.resourceVersion = cur.resourceVersion) = true ∧
      ∃ r retried, (finishReconcile env isClusterLocal err d).run w = (r, w.recorded
        ⟨.clusterReconciler, d.set, statusToStore env.conditionOrder err d, retried⟩ cur)) := by
  unfold finishReconcile
  cases hwrite : isClusterLocal || err.isSome with
  | false => exact .inl ⟨rfl, rfl⟩
  | true =>
    refine .inr ?_
    rw [if_pos rfl]
    rcases run_updateCluster hcur huid env.finalUpdate env.conditionOrder .clusterReconciler err
      with ⟨hp, r, hrun, hr⟩ | ⟨hp, r, retried, hrun, -⟩
    · refine .inl ⟨rfl, hp, ?_⟩
      rcases r with e | d'
      · exact ⟨_, run_bind_error hrun _, fun _ => nofun⟩
      · refine ⟨_, run_bind_ok hrun _, fun he => ?_⟩
        obtain ⟨e, he'⟩ := hr he
        cases he'
    · refine .inr ⟨rfl, hp, ?_⟩
      rcases r with e | d'
      · exact ⟨_, retried, run_bind_error hrun _⟩
      · exact ⟨_, retried, run_bind_ok hrun _⟩

/-! ## Disabled clusters -/

/-- The update says that the cluster is a peer that is disabled. -/
def StatusWrite.OfDisabled (e : StatusWrite) : Prop :=
  e.status.type = .peer ∧ e.status.state = .disabled

theorem ofDisabled_statusToStore {order : Shuffle ClusterCondition} {d : Draft} {writer : Writer}
    {set : List ClusterCondition} {retried : Bool} (htype : d.cluster.status.type = .peer)
    (hstate : d.cluster.status.state = .disabled) :
    StatusWrite.OfDisabled ⟨writer, set, statusToStore order none d, retried⟩ := ⟨htype, hstate⟩

/-- **A disabled cluster** is written as a disabled peer, local or not. -/
theorem run_reconcileDisabled (hc : w.clusters.get c.name = some c) (isClusterLocal : Bool)
    (status : ClusterStatus) :
    (env.disabledUpdate.passes true = false ∧ ∃ e w', w'.journal () = w.journal () ∧
      (reconcileDisabled env isClusterLocal (startDraft c status)).run w = (.error e, w')) ∨
    (env.disabledUpdate.passes true = true ∧ ∃ r w' l c',
      (reconcileDisabled env isClusterLocal (startDraft c status)).run w = (r, w') ∧
      w'.writes = l ++ w.writes ∧ l ≠ [] ∧ (∀ e ∈ l, e.OfDisabled) ∧
      w'.clusters.get c.name = some c' ∧ c'.status.state = .disabled) := by
  obtain ⟨w₁, hrun₁, hjournal⟩ := run_removeIfFound c.name w
  obtain ⟨hclusters, -, hwrites⟩ := journal_eq_iff.mp hjournal
  have hc₁ : w₁.clusters.get (startDraft c status).disable.cluster.name = some c := by
    rw [hclusters]
    exact hc
  have hrun : ∀ m, (removeIfFound c.name >>= fun _ => m : Proc Unit).run w = m.run w₁ :=
    fun m => run_bind_ok hrun₁ fun _ => m
  unfold reconcileDisabled
  rw [show (startDraft c status).cluster.name = c.name from rfl, hrun]
  rcases run_updateCluster (d := (startDraft c status).disable) hc₁ rfl env.disabledUpdate
    env.conditionOrder .clusterReconciler none with ⟨hp, r, hupd, hr⟩ | ⟨hp, r, retried, hupd, hr⟩
  · obtain ⟨e, rfl⟩ := hr rfl
    exact .inl ⟨by simpa [startDraft, Draft.disable, Draft.setStatus, ClusterObject.withStatus]
      using hp, e, w₁, hjournal, run_bind_error hupd _⟩
  · obtain ⟨cluster, rfl, hname, huid, hstatus⟩ := hr rfl
    refine .inr ⟨by simpa [startDraft, Draft.disable, Draft.setStatus, ClusterObject.withStatus]
      using hp, ?_⟩
    rw [run_bind_ok hupd]
    have hstored := get_recorded w₁ ⟨.clusterReconciler, (startDraft c status).disable.set,
      statusToStore env.conditionOrder none (startDraft c status).disable, retried⟩ c
    have hcur := (congrArg (Table.get _) hname).trans hstored
    have hfirst : StatusWrite.OfDisabled ⟨.clusterReconciler, (startDraft c status).disable.set,
        statusToStore env.conditionOrder none (startDraft c status).disable, retried⟩ :=
      ofDisabled_statusToStore rfl rfl
    rcases run_finishReconcile env (d := { (startDraft c status).disable with
        cluster := cluster }) hcur huid isClusterLocal none with
      ⟨-, hfin⟩ | ⟨-, -, r, hfin, -⟩ | ⟨-, -, r, again, hfin⟩
    · exact ⟨_, _, [_], _, hfin, by rw [← hwrites]; rfl, by simp, by simpa using hfirst, hstored,
        rfl⟩
    · exact ⟨_, _, [_], _, hfin, by rw [← hwrites]; rfl, by simp, by simpa using hfirst, hstored,
        rfl⟩
    · have hsecond : StatusWrite.OfDisabled ⟨.clusterReconciler, (startDraft c status).disable.set,
          statusToStore env.conditionOrder none { (startDraft c status).disable with
            cluster := cluster }, again⟩ :=
        ofDisabled_statusToStore (congrArg ClusterStatus.type hstatus)
          (congrArg ClusterStatus.state hstatus)
      refine ⟨_, _, [_, _], _, hfin, by rw [← hwrites]; rfl, by simp, ?_, get_recorded _ _ _, ?_⟩
      · simpa using ⟨hsecond, hfirst⟩
      · exact hsecond.2

end

/-! ## Enabled clusters -/

/-- The type that belongs to the cluster ID. -/
def clusterType (isClusterLocal : Bool) : ClusterType := if isClusterLocal then .local else .peer

/-- The draft is the resource with a status of the type. -/
structure Draft.At (c : ClusterObject) (type : ClusterType) (d : Draft) : Prop where
  same : d.cluster = c.withStatus d.cluster.status
  type : d.cluster.status.type = type
  keyed : d.conditions.Keyed

namespace Draft.At

variable {c : ClusterObject} {type : ClusterType} {d : Draft}

theorem setCondition (h : d.At c type) (now : Nat) (cond : ClusterCondition) :
    (d.setCondition now cond).At c type :=
  ⟨h.same, h.type, keyed_setCondition h.keyed now cond⟩

theorem setStatus (h : d.At c type) {status : ClusterStatus} (ht : status.type = type) :
    (d.setStatus status).At c type := by
  refine ⟨?_, ht, h.keyed⟩
  rw [Draft.setStatus, h.same]
  rfl

theorem setState (h : d.At c type) (state : ClusterState) : (d.setState state).At c type :=
  h.setStatus (show ({ d.cluster.status with state := state } : ClusterStatus).type = type
    from h.type)

theorem identity (h : d.At c type) : d.cluster.name = c.name ∧ d.cluster.uid = c.uid ∧
    d.cluster.resourceVersion = c.resourceVersion := by
  rw [h.same]
  exact ⟨rfl, rfl, rfl⟩

theorem start (c : ClusterObject) (isClusterLocal : Bool) :
    (startDraft c (startStatus isClusterLocal c)).At c (clusterType isClusterLocal) := by
  refine ⟨rfl, ?_, keyed_getCurrentConditions _⟩
  cases isClusterLocal <;> rfl

end Draft.At

/-- The result comes with a draft in the state. -/
def Leaves (c : ClusterObject) (type : ClusterType) (state : ClusterState)
    (r : Except Failure (Option Failure × Draft)) : Prop :=
  ∃ err d, r = .ok (err, d) ∧ d.At c type ∧ d.cluster.status.state = state

section

variable (env : Env) {c : ClusterObject} {type : ClusterType} {state : ClusterState} {d : Draft}

theorem leaves_checkLocalClusterConflict (hd : d.At c type) (hs : d.cluster.status.state = state) :
    (checkLocalClusterConflict env d).Yields World.journal (Leaves c type state) := by
  refine Yields.bind (Q := fun r => ∃ answer, r = .ok answer) ?_ ?_ ?_
  · exact Yields.attempt (journal_answer _ _)
  · rintro e ⟨answer, h⟩
    cases h
  rintro (e | items) -
  · exact ⟨_, _, rfl, hd, hs⟩
  · dsimp only
    split
    · have hset := hd.setCondition env.now (localClusterConflictCondition true)
      split
      · exact ⟨fun _ _ => rfl, fun _ => ⟨_, _, rfl, hset, hs⟩⟩
      · exact ⟨_, _, rfl, hset, hs⟩
    · exact ⟨_, _, rfl, hd.setCondition _ _, hs⟩

theorem leaves_reconcileLocalCluster (hd : d.At c type) (hs : d.cluster.status.state = state) :
    (reconcileLocalCluster env d).Yields World.journal (Leaves c type state) := by
  refine Yields.bind (leaves_checkLocalClusterConflict env (hd.setCondition env.now _) hs) ?_ ?_
  · rintro e ⟨err, d', h, -⟩
    cases h
  rintro ⟨err, d'⟩ ⟨_, _, h, hd', hs'⟩
  cases h
  dsimp only
  split
  · exact ⟨_, _, rfl, hd', hs'⟩
  · split
    · exact ⟨_, _, rfl, hd'.setCondition _ _, hs'⟩
    · have hset := hd'.setCondition env.now (clusterMetadataCondition none)
      split
      · exact ⟨_, _, rfl, hset.setStatus hset.type, hs'⟩
      · exact ⟨_, _, rfl, hset.setStatus hset.type, hs'⟩

/-- A view that shows nothing, for what is said of the result alone. -/
def blank (_ : Unit) (_ : World) : Unit := ()

theorem blank_quiet {α ε : Type} (m : Code World ε α) : Quiet blank m := by
  induction m with
  | ret a => exact trivial
  | fail e => exact trivial
  | sect upd next ih => exact ⟨fun _ _ => rfl, ih⟩

/-- An error that comes with the state. -/
def ComesWith {α : Type} (state : ClusterState) (r : Except (Failure × ClusterState) α) : Prop :=
  ∀ e, r = .error e → e.2 = state

theorem comesWith_mapError {α : Type} (m : Proc α) :
    (m.mapError (·, state)).Yields blank (ComesWith state) := by
  refine Yields.mapError (blank_quiet m) (fun _ => nofun) fun e p hp => ?_
  cases hp
  rfl

/-- Once the secret has been read, an error leaves the state as it is. -/
theorem comesWith_getRemoteCluster {kubeconfig : String} {w : World}
    (h : Readable env w c.spec.secretRef kubeconfig) :
    ComesWith c.status.state ((getRemoteCluster env c).run w).1 := by
  have hbuild : ((buildInstance env c kubeconfig).mapError (·, c.status.state)).Yields blank
      (ComesWith c.status.state) := comesWith_mapError (buildInstance env c kubeconfig)
  have hends : ∀ m : Code World (Failure × ClusterState) Nat,
      m.Yields blank (ComesWith c.status.state) → ComesWith c.status.state (m.run w).1 :=
    fun m hm => (hm.ends w).1
  unfold getRemoteCluster
  rw [run_bind_ok (a := w.manager.lookup c.name) (t := w) rfl,
    run_attempt_bind (Readable.run env h)]
  refine hends _ ?_
  cases w.manager.lookup c.name with
  | none => exact hbuild
  | some id =>
    refine Yields.bindRead fun found => ?_
    cases found with
    | none => exact hbuild
    | some i =>
      dsimp only
      split
      · rintro e he
        cases he
        rfl
      split
      · exact fun e he => nomatch he
      · exact Yields.bind (comesWith_mapError (managerRemove id))
          (fun e he p hp => he p (by cases hp; rfl)) fun _ _ => hbuild

/-- An unreadable secret is an error that comes with a state of its own. -/
theorem getRemoteCluster_of_unreadable {w : World}
    (h : ∀ kubeconfig, ¬Readable env w c.spec.secretRef kubeconfig) :
    ∃ e, ((getRemoteCluster env c).run w).1 = .error (e, .invalidAuthInfo) := by
  obtain ⟨kubeconfig, hr, -⟩ | ⟨e, he⟩ := run_getK8SConfigForCluster env c.spec.secretRef w
  · exact absurd hr (h kubeconfig)
  rw [run_getRemoteCluster_unreadable env he]
  have hfail : ((removeExisting (w.manager.lookup c.name)).mapError (·, .invalidAuthInfo) >>=
      fun _ => fail (e.wrapAsPermanentError, .invalidAuthInfo) :
        Code World (Failure × ClusterState) Nat).Yields blank
      fun r => ∃ e, r = .error (e, .invalidAuthInfo) := by
    refine Yields.bind (comesWith_mapError _) ?_ fun _ _ => ⟨_, rfl⟩
    rintro ⟨e, state⟩ hstate
    cases hstate _ rfl
    exact ⟨e, rfl⟩
  exact (hfail.ends w).1

theorem run_reconcileRemoteCluster_lacksSecret (hs : d.cluster.spec.lacksSecret = true)
    (w : World) : (reconcileRemoteCluster env d).run w =
      (.ok (none, (d.setCondition env.now (localClusterCondition false)).setState .missingAuthInfo),
        w) :=
  congrArg (fun m : Proc _ => m.run w) (if_pos hs)

/-- What `reconcileRemoteCluster` makes of the answer of `getRemoteCluster`. -/
def remoteResult (d : Draft) :
    Except (Failure × ClusterState) Nat → Option Failure × Draft
  | .ok _ => (none, d)
  | .error (e, state) =>
    (some e, (d.setState state).setCondition env.now (clustersSyncedCondition (some e)))

theorem run_reconcileRemoteCluster_eq (hs : d.cluster.spec.lacksSecret = false) (w : World) :
    (reconcileRemoteCluster env d).run w =
      (.ok (remoteResult env (d.setCondition env.now (localClusterCondition false))
        ((getRemoteCluster env d.cluster).run w).1),
        ((getRemoteCluster env d.cluster).run w).2) := by
  have hs' : ¬d.cluster.spec.lacksSecret = true := by simp [hs]
  refine (congrArg (fun m : Proc _ => m.run w) (if_neg hs')).trans ?_
  rcases hrun : (getRemoteCluster env d.cluster).run w with ⟨⟨e, state⟩ | id, w'⟩
  · exact run_attempt_bind hrun _
  · exact run_attempt_bind hrun _

end

/-- The secret of the resource can be read. -/
def HasSecret (env : Env) (w : World) (c : ClusterObject) : Prop :=
  ∃ kubeconfig, Readable env w c.spec.secretRef kubeconfig

/-- The state in which an enabled cluster leaves its reconciliation. -/
structure Reached (env : Env) (w : World) (isClusterLocal : Bool) (c : ClusterObject)
    (err : Option Failure) (state : ClusterState) : Prop where
  missing : isClusterLocal = false → c.spec.lacksSecret = true → err = none
  invalid : isClusterLocal = false → c.spec.lacksSecret = false → ¬HasSecret env w c →
    err ≠ none ∧ state = .invalidAuthInfo
  other : (isClusterLocal = false → c.spec.lacksSecret = false ∧ HasSecret env w c) →
    state = .ready

/-- `reconcileLocalCluster` or `reconcileRemoteCluster`, as the call starts it. -/
def reconciliation (env : Env) (isClusterLocal : Bool) (c : ClusterObject) :
    Proc (Option Failure × Draft) :=
  (if isClusterLocal then reconcileLocalCluster else reconcileRemoteCluster) env
    (startDraft c (startStatus isClusterLocal c))

section

variable (env : Env) (c : ClusterObject) (w : World)

/-- The outcome of reconciling an enabled cluster. -/
def Concludes (isClusterLocal : Bool) : Prop :=
  ∃ err d w', (reconciliation env isClusterLocal c).run w = (.ok (err, d), w') ∧
    w'.journal () = w.journal () ∧ d.At c (clusterType isClusterLocal) ∧
    Reached env w isClusterLocal c err d.cluster.status.state

theorem concludes_local : Concludes env c w true := by
  obtain ⟨⟨err, d, hr, hd, hs⟩, hjournal⟩ :=
    (leaves_reconcileLocalCluster env (Draft.At.start c true)
      (show _ = ClusterState.ready from rfl)).ends w
  exact ⟨err, d, _, Prod.ext hr rfl, hjournal (), hd, nofun, nofun, fun _ => hs⟩

theorem concludes_lacksSecret (hs : c.spec.lacksSecret = true) : Concludes env c w false := by
  have hd := (Draft.At.start c false).setCondition env.now (localClusterCondition false)
  refine ⟨none, _, w, run_reconcileRemoteCluster_lacksSecret env hs w, rfl,
    hd.setState .missingAuthInfo, fun _ _ => rfl, ?_, ?_⟩
  · rw [hs]
    exact fun _ => nofun
  · rw [hs]
    exact fun h => nomatch (h rfl).1

theorem concludes_remote (hs : c.spec.lacksSecret = false) : Concludes env c w false := by
  have hd := (Draft.At.start c false).setCondition env.now (localClusterCondition false)
  have hend : ∀ r, ((getRemoteCluster env c.restarted).run w).1 = r → ∃ w',
      (reconciliation env false c).run w = (.ok (remoteResult env
        ((startDraft c (startStatus false c)).setCondition env.now (localClusterCondition false))
        r), w') ∧ w'.journal () = w.journal () := by
    rintro r rfl
    exact ⟨_, run_reconcileRemoteCluster_eq env (d := startDraft c (startStatus false c)) hs w,
      (journal_of_apart (still_getRemoteCluster env c.restarted)).ends (k := ()) w⟩
  have hmissing : ∀ err : Option Failure, false = false → c.spec.lacksSecret = true → err = none :=
    fun _ _ h => nomatch hs.symm.trans h
  by_cases hsecret : HasSecret env w c
  · obtain ⟨kubeconfig, hr⟩ := hsecret
    have hinvalid : ∀ {p : Prop}, false = false → c.spec.lacksSecret = false →
        ¬HasSecret env w c → p := fun _ _ h => absurd ⟨kubeconfig, hr⟩ h
    have hstate := comesWith_getRemoteCluster env (c := c.restarted) hr
    rcases hgot : ((getRemoteCluster env c.restarted).run w).1 with ⟨e, state⟩ | id
    · cases hstate _ hgot
      obtain ⟨w', hrun, hjournal⟩ := hend _ hgot
      exact ⟨_, _, w', hrun, hjournal, (hd.setState _).setCondition _ _, hmissing _, hinvalid,
        fun _ => rfl⟩
    · obtain ⟨w', hrun, hjournal⟩ := hend _ hgot
      exact ⟨_, _, w', hrun, hjournal, hd, hmissing _, hinvalid, fun _ => rfl⟩
  · obtain ⟨e, he⟩ := getRemoteCluster_of_unreadable env (c := c.restarted)
      fun kubeconfig hr => hsecret ⟨kubeconfig, hr⟩
    obtain ⟨w', hrun, hjournal⟩ := hend _ he
    exact ⟨_, _, w', hrun, hjournal, (hd.setState _).setCondition _ _, hmissing _,
      fun _ _ _ => ⟨nofun, rfl⟩, fun h => absurd (h rfl).2 hsecret⟩

theorem concludes (isClusterLocal : Bool) : Concludes env c w isClusterLocal := by
  cases isClusterLocal with
  | true => exact concludes_local env c w
  | false =>
    cases hs : c.spec.lacksSecret with
    | true => exact concludes_lacksSecret env c w hs
    | false => exact concludes_remote env c w hs

end

/-! ## The whole call -/

section

variable (env : Env) (w : World) (c : ClusterObject)

/-- The state in which the reconciliation of the resource starts. -/
def atReconciliation : World :=
  ((resetStatus env (c.spec.clusterID = w.localID) c).run w.identified).2

/-- The error of `reconcileLocalCluster` or `reconcileRemoteCluster`. -/
def reconcileError : Option Failure :=
  match ((reconciliation env (c.spec.clusterID = w.localID) c).run
    (atReconciliation env w c)).1 with
  | .ok (err, _) => err
  | .error e => some e

end

section

variable {env : Env} {w : World} {n : String} {c : ClusterObject}

/-- **An enabled cluster**: what is left to do once it has been reconciled. -/
theorem run_reconcile_enabled (h : Reads env w n c) (hen : c.disabled = false) :
    ∃ (d : Draft) (w' : World), w'.journal () = w.journal () ∧
      d.At c (clusterType (c.spec.clusterID = w.localID)) ∧
      Reached env w (c.spec.clusterID = w.localID) c (reconcileError env w c)
        d.cluster.status.state ∧
      (reconcile env n).run w = (finishReconcile env (c.spec.clusterID = w.localID)
        (reconcileError env w c) (d.setCondition env.now (clusterReadyCondition none))).run w' := by
  obtain ⟨w₁, hreset, hjournal₁⟩ :=
    run_resetStatus env (c.spec.clusterID = w.localID) c w.identified
  have hstart : atReconciliation env w c = w₁ := congrArg Prod.snd hreset
  obtain ⟨err, d, w', hrun, hjournal, hd, hreached⟩ :=
    concludes env c w₁ (c.spec.clusterID = w.localID)
  have herr : reconcileError env w c = err := by
    unfold reconcileError
    rw [hstart, hrun]
  have hreached' : Reached env w (c.spec.clusterID = w.localID) c err d.cluster.status.state := by
    by_cases hl : c.spec.clusterID = w.localID
    · rw [decide_eq_true hl] at hreached ⊢
      exact ⟨nofun, nofun, fun _ => hreached.other nofun⟩
    · rw [decide_eq_false hl] at hreached hreset ⊢
      cases hreset
      exact ⟨hreached.missing, hreached.invalid, hreached.other⟩
  refine ⟨d, w', hjournal.trans hjournal₁, hd, herr ▸ hreached', ?_⟩
  rw [run_reconcile_of_reads h, herr]
  refine (run_bind_ok hreset _).trans ?_
  dsimp only
  rw [hen, if_neg (by simp)]
  exact run_bind_ok hrun _

/-- How the call for an enabled cluster ends. -/
inductive Ended (env : Env) (w : World) (n : String) (c : ClusterObject) : Prop where
  /-- A remote cluster without an error is not written. -/
  | unwritten {w' : World} (hremote : c.spec.clusterID ≠ w.localID)
      (herr : reconcileError env w c = none) (hrun : (reconcile env n).run w = (.ok (), w'))
      (hjournal : w'.journal () = w.journal ())
      (hreached : ∃ state, Reached env w (c.spec.clusterID = w.localID) c none state)
  | rejected {r : Except Failure Unit} {w' : World} (hp : env.finalUpdate.passes true = false)
      (hrun : (reconcile env n).run w = (r, w')) (hjournal : w'.journal () = w.journal ())
      (hr : reconcileError env w c = none → r ≠ .ok ())
  | written {d : Draft} {r : Except Failure Unit} {w' : World} {retried : Bool} {version : Nat}
      (hwrite : c.spec.clusterID = w.localID ∨ reconcileError env w c ≠ none)
      (hp : env.finalUpdate.passes true = true)
      (hd : d.At c (clusterType (c.spec.clusterID = w.localID)))
      (hready : (d.conditions.lookup .ready).map (·.status) = some .conditionTrue)
      (hreached : Reached env w (c.spec.clusterID = w.localID) c (reconcileError env w c)
        d.cluster.status.state)
      (hrun : (reconcile env n).run w = (r, w'))
      (hwrites : w'.writes = [⟨.clusterReconciler, d.set,
        statusToStore env.conditionOrder (reconcileError env w c) d, retried⟩] ++ w.writes)
      (hget : w'.clusters.get n = some { c with
        status := statusToStore env.conditionOrder (reconcileError env w c) d
        resourceVersion := version })

theorem ended (h : Reads env w n c) (hen : c.disabled = false) : Ended env w n c := by
  obtain ⟨d, w₁, hjournal, hd, hreached, hrun⟩ := run_reconcile_enabled h hen
  obtain ⟨hclusters, -, hwrites⟩ := journal_eq_iff.mp hjournal
  have hset := hd.setCondition env.now (clusterReadyCondition none)
  have hready := status_setCondition env.now d.conditions (clusterReadyCondition none) .ready
  obtain ⟨hname, huid, hversion⟩ := hset.identity
  have hcur : w₁.clusters.get (d.setCondition env.now (clusterReadyCondition none)).cluster.name =
      some c := by
    rw [hname, hclusters, h.name]
    exact h.stored
  rcases run_finishReconcile env hcur huid (c.spec.clusterID = w.localID)
    (reconcileError env w c) with ⟨hno, hfin⟩ | ⟨-, hp, r, hfin, hr⟩ |
      ⟨hyes, hp, r, retried, hfin⟩
  · obtain ⟨hremote, herr⟩ : c.spec.clusterID ≠ w.localID ∧ reconcileError env w c = none := by
      simpa using hno
    exact .unwritten hremote herr (hrun.trans hfin) hjournal ⟨_, herr ▸ hreached⟩
  · rw [decide_eq_true hversion] at hp
    exact .rejected hp (hrun.trans hfin) hjournal hr
  · rw [decide_eq_true hversion] at hp
    refine .written (d := d.setCondition env.now (clusterReadyCondition none)) ?_ hp hset
      (hready.trans (if_pos rfl)) hreached (hrun.trans hfin) (by rw [← hwrites]; rfl)
      ((congrArg (Table.get _) h.name.symm).trans (get_recorded _ _ _))
    simpa [Option.ne_none_iff_isSome] using hyes

/-! ### The type -/

/-- A disabled local cluster, and its first update goes through. -/
def Misfiled (env : Env) (w : World) (n : String) : Prop :=
  ∃ c, Reads env w n c ∧ c.disabled = true ∧ c.spec.clusterID = w.localID ∧
    env.disabledUpdate.passes true = true

/-- The update has the type that belongs to the cluster ID. -/
def StatusWrite.Typed (w : World) (c : ClusterObject) (e : StatusWrite) : Prop :=
  e.status.type = if c.spec.clusterID = w.localID then .local else .peer

theorem made_of_journal {w' : World} (h : w'.journal () = w.journal ()) (P : StatusWrite → Prop) :
    w.Made w' P := ⟨[], (journal_eq_iff.mp h).2.2, by simp⟩

/-- What holds of the update for an enabled cluster holds of all that the call makes. -/
theorem Ended.made {P : StatusWrite → Prop} (h : Ended env w n c)
    (hP : ∀ (d : Draft) (retried : Bool),
      (c.spec.clusterID = w.localID ∨ reconcileError env w c ≠ none) →
      env.finalUpdate.passes true = true →
      d.At c (clusterType (c.spec.clusterID = w.localID)) →
      (d.conditions.lookup .ready).map (·.status) = some .conditionTrue →
      Reached env w (c.spec.clusterID = w.localID) c (reconcileError env w c)
        d.cluster.status.state →
      P ⟨.clusterReconciler, d.set,
        statusToStore env.conditionOrder (reconcileError env w c) d, retried⟩) :
    w.Made ((reconcile env n).run w).2 P := by
  cases h with
  | unwritten _ _ hrun hjournal =>
    rw [hrun]
    exact made_of_journal hjournal P
  | rejected _ hrun hjournal =>
    rw [hrun]
    exact made_of_journal hjournal P
  | written hwrite hp hd hready hreached hrun hwrites =>
    rw [hrun, made_iff hwrites]
    exact List.forall_mem_singleton.mpr (hP _ _ hwrite hp hd hready hreached)

theorem run_reconcile_disabled (h : Reads env w n c) (hdis : c.disabled = true) :
    (env.disabledUpdate.passes true = false ∧ ∃ e w', w'.journal () = w.journal () ∧
      (reconcile env n).run w = (.error e, w')) ∨
    (env.disabledUpdate.passes true = true ∧ ∃ r w' l c', (reconcile env n).run w = (r, w') ∧
      w'.writes = l ++ w.writes ∧ l ≠ [] ∧ (∀ e ∈ l, e.OfDisabled) ∧
      w'.clusters.get n = some c' ∧ c'.status.state = .disabled) := by
  obtain ⟨w₁, hreset, hjournal₁⟩ :=
    run_resetStatus env (c.spec.clusterID = w.localID) c w.identified
  obtain ⟨hclusters, -, hwrites⟩ := journal_eq_iff.mp hjournal₁
  have hc : w₁.clusters.get c.name = some c := by
    rw [hclusters, h.name]
    exact h.stored
  have hrun : (reconcile env n).run w = (reconcileDisabled env (c.spec.clusterID = w.localID)
      (startDraft c (startStatus (c.spec.clusterID = w.localID) c))).run w₁ := by
    rw [run_reconcile_of_reads h]
    refine (run_bind_ok hreset _).trans ?_
    dsimp only
    rw [hdis, if_pos rfl]
    rfl
  rw [hrun]
  rcases run_reconcileDisabled hc (c.spec.clusterID = w.localID)
    (startStatus (c.spec.clusterID = w.localID) c) with
    ⟨hp, e, w', hjournal, hdone⟩ | ⟨hp, r, w', l, c', hdone, hl, hne, hall, hget, hstate⟩
  · exact .inl ⟨hp, e, w', hjournal.trans hjournal₁, hdone⟩
  · exact .inr ⟨hp, r, w', l, c', hdone, hl.trans (by rw [hwrites]; rfl), hne, hall,
      h.name ▸ hget, hstate⟩

theorem made_of_not_reads (hc : w.clusters.get n = some c) (h : ¬Reads env w n c)
    (P : StatusWrite → Prop) : w.Made ((reconcile env n).run w).2 P := by
  have hnone : ∀ c', ¬Reads env w n c' := fun c' h' =>
    h (Option.some.inj (hc.symm.trans h'.stored) ▸ h')
  exact made_of_journal (journal_of_not_reads hnone) P

/-- **The type goes by the cluster ID**: every status that a call writes has the
type that belongs to the cluster ID, unless the cluster is local and disabled. -/
theorem written_type_iff (env : Env) (w : World) (n : String) :
    (∀ c, w.clusters.get n = some c → w.Made ((reconcile env n).run w).2 (·.Typed w c)) ↔
      ¬Misfiled env w n := by
  constructor
  · rintro hall ⟨c, hreads, hdis, hlocal, hpasses⟩
    rcases run_reconcile_disabled hreads hdis with ⟨hp, -⟩ |
      ⟨-, r, w', l, c', hrun, hl, hne, hof, -⟩
    · exact nomatch hp.symm.trans hpasses
    · have htyped := hall c hreads.stored
      rw [hrun, made_iff hl] at htyped
      obtain ⟨e, he⟩ := List.exists_mem_of_ne_nil l hne
      have := (hof e he).1.symm.trans ((htyped e he).trans (if_pos hlocal))
      cases this
  · intro hnot c hc
    by_cases hreads : Reads env w n c
    · cases hdis : c.disabled with
      | true =>
        rcases run_reconcile_disabled hreads hdis with ⟨-, e, w', hjournal, hrun⟩ |
          ⟨hp, r, w', l, c', hrun, hl, -, hof, -⟩
        · rw [hrun]
          exact made_of_journal hjournal _
        · have hremote : ¬c.spec.clusterID = w.localID :=
            fun hlocal => hnot ⟨c, hreads, hdis, hlocal, hp⟩
          rw [hrun, made_iff hl]
          exact fun e he => (hof e he).1.trans (if_neg hremote).symm
      | false =>
        refine (ended hreads hdis).made fun d _ _ _ hd _ _ => ?_
        exact (type_statusToStore _ _ _).trans (hd.type.trans (by simp [clusterType]))
    · exact made_of_not_reads hc hreads _

end

/-- The local cluster, disabled. -/
def shelved : ClusterObject :=
  { localCluster "a" with annotations := (∅ : StringMap).insert clusterDisabledAnnotation "" }

theorem reads_holding {c : ClusterObject} : Reads .smooth (.holding c) c.name c :=
  ⟨fun _ => rfl, rfl, (Table.get_put _ _ _).trans (if_pos rfl)⟩

theorem shelved_written_as_peer :
    Reads .smooth (.holding shelved) "a" shelved ∧
      shelved.spec.clusterID = (World.holding shelved).localID ∧
      ((reconcile .smooth "a").run (.holding shelved)).2.writes.map (·.status.type) =
        [.peer, .peer] :=
  ⟨reads_holding, rfl, by decide +kernel⟩

/-! ### The state -/

/-- The stored state names the problem that the call has found. -/
structure NamesProblem (env : Env) (w : World) (c : ClusterObject) (state : ClusterState) :
    Prop where
  disabled : c.disabled = true → state = .disabled
  missing : c.disabled = false → c.spec.clusterID ≠ w.localID → c.spec.lacksSecret = true →
    state = .missingAuthInfo
  invalid : c.disabled = false → c.spec.clusterID ≠ w.localID → c.spec.lacksSecret = false →
    ¬HasSecret env w c → state = .invalidAuthInfo
  failed : c.disabled = false →
    (c.spec.clusterID ≠ w.localID → c.spec.lacksSecret = false ∧ HasSecret env w c) →
    reconcileError env w c ≠ none → state = .failed

/-- The updates that a call has tried went through. A call fails with its update,
except that the update made for an error is not looked at. -/
def UpdatesPass (env : Env) (w : World) (c : ClusterObject) : Prop :=
  c.disabled = false → reconcileError env w c ≠ none → env.finalUpdate.passes true = true

/-- An enabled remote cluster without a secret reference, and the state stored
before says something else. -/
def Unsaid (env : Env) (w : World) (n : String) : Prop :=
  ∃ c, Reads env w n c ∧ c.disabled = false ∧ c.spec.clusterID ≠ w.localID ∧
    c.spec.lacksSecret = true ∧ c.status.state ≠ .missingAuthInfo

section

variable {env : Env} {w : World} {n : String} {c : ClusterObject}

theorem state_statusToStore (order : Shuffle ClusterCondition) (e : Failure) (d : Draft) :
    (statusToStore order (some e) d).state =
      if d.cluster.status.state = .ready then .failed else d.cluster.status.state := rfl

theorem namesProblem_disabled (hdis : c.disabled = true) : NamesProblem env w c .disabled :=
  ⟨fun _ => rfl, (fun h => nomatch hdis.symm.trans h), (fun h => nomatch hdis.symm.trans h),
    (fun h => nomatch hdis.symm.trans h)⟩

/-- What is written for an enabled cluster names its problem. -/
theorem namesProblem_written {d : Draft} (hen : c.disabled = false)
    (hwrite : c.spec.clusterID = w.localID ∨ reconcileError env w c ≠ none)
    (hreached : Reached env w (c.spec.clusterID = w.localID) c (reconcileError env w c)
      d.cluster.status.state) (order : Shuffle ClusterCondition) :
    NamesProblem env w c (statusToStore order (reconcileError env w c) d).state := by
  refine ⟨(fun h => nomatch hen.symm.trans h), fun _ hremote hs => ?_,
    fun _ hremote hs hunread => ?_, fun _ hfine herr => ?_⟩
  · exact absurd (hreached.missing (decide_eq_false hremote) hs) (hwrite.resolve_left hremote)
  · obtain ⟨herr, hstate⟩ := hreached.invalid (decide_eq_false hremote) hs hunread
    obtain ⟨e, he⟩ := Option.ne_none_iff_exists'.mp herr
    rw [he, state_statusToStore, hstate]
    rfl
  · obtain ⟨e, he⟩ := Option.ne_none_iff_exists'.mp herr
    rw [he, state_statusToStore, hreached.other fun h => hfine (of_decide_eq_false h)]
    rfl

/-- **The problem is stored**: a call that returns without error, and whose
updates went through, leaves the state that names the problem it found, unless
the problem is that a secret reference is missing. -/
theorem stored_state_iff (env : Env) (w : World) (n : String) :
    (∀ c, Reads env w n c → ((reconcile env n).run w).1 = .ok () → UpdatesPass env w c →
      ∃ c', ((reconcile env n).run w).2.clusters.get n = some c' ∧
        NamesProblem env w c c'.status.state) ↔ ¬Unsaid env w n := by
  constructor
  · rintro hall ⟨c, hreads, hen, hremote, hs, hstate⟩
    have hrun : (reconcile env n).run w = (.ok (), w.identified) := by
      rw [run_reconcile_of_reads hreads, decide_eq_false hremote]
      exact run_reconcileAs_lacksSecret env hen hs _
    obtain ⟨_, _, -, -, hreached, -⟩ := run_reconcile_enabled hreads hen
    have hnone := hreached.missing (decide_eq_false hremote) hs
    obtain ⟨c', hc', hnames⟩ := hall c hreads (congrArg Prod.fst hrun) fun _ h => absurd hnone h
    rw [hrun] at hc'
    cases hreads.stored.symm.trans hc'
    exact hstate (hnames.missing hen hremote hs)
  · intro hnot c hreads hok hpass
    cases hdis : c.disabled with
    | true =>
      rcases run_reconcile_disabled hreads hdis with ⟨-, e, w', -, hrun⟩ |
        ⟨-, r, w', l, c', hrun, -, -, -, hget, hstate⟩
      · rw [hrun] at hok
        cases hok
      · rw [hrun]
        exact ⟨c', hget, hstate ▸ namesProblem_disabled hdis⟩
    | false =>
      cases ended hreads hdis with
      | unwritten hremote herr hrun hjournal hreached =>
        obtain ⟨state, hreached⟩ := hreached
        rw [hrun]
        refine ⟨c, by rw [(journal_eq_iff.mp hjournal).1]; exact hreads.stored,
          (fun h => nomatch hdis.symm.trans h), fun _ _ hs => ?_,
          fun _ _ hs hunread => ?_, fun _ _ h => absurd herr h⟩
        · by_contra hstate
          exact hnot ⟨c, hreads, hdis, hremote, hs, hstate⟩
        · exact absurd rfl (hreached.invalid (decide_eq_false hremote) hs hunread).1
      | rejected hp hrun _ hr =>
        rw [hrun] at hok
        have herr : reconcileError env w c ≠ none := fun h => hr h hok
        exact nomatch hp.symm.trans (hpass hdis herr)
      | written hwrite _ _ _ hreached hrun _ hget =>
        rw [hrun]
        exact ⟨_, hget, namesProblem_written hdis hwrite hreached _⟩

end

/-- A remote cluster without a secret reference. -/
def bare : ClusterObject := { name := "a", spec := { clusterID := "remote" } }

theorem bare_state_lost :
    Reads .smooth (.holding bare) "a" bare ∧ UpdatesPass .smooth (.holding bare) bare ∧
      bare.disabled = false ∧ bare.spec.clusterID ≠ (World.holding bare).localID ∧
      bare.spec.lacksSecret = true ∧
      ((reconcile .smooth "a").run (.holding bare)).1 = .ok () ∧
      (((reconcile .smooth "a").run (.holding bare)).2.clusters.get "a").map (·.status.state) =
        some .unset :=
  ⟨reads_holding, fun _ _ => rfl, by decide +kernel, by decide +kernel, by decide +kernel, rfl,
    by decide +kernel⟩

/-! ### The condition `Ready` -/

/-- The status of the condition `Ready`. -/
def ClusterStatus.readiness (s : ClusterStatus) : Option ConditionStatus :=
  (s.conditions.find? (·.type = .ready)).map (·.status)

/-- The condition `Ready` says whether there was an error. -/
structure ClusterStatus.Agrees (s : ClusterStatus) (err : Option Failure) : Prop where
  ready_iff : s.readiness = some .conditionTrue ↔ err = none
  apart : ¬(s.readiness = some .conditionTrue ∧ (s.state = .failed ∨ s.state = .invalidAuthInfo))

/-- The reconciliation of an enabled cluster returns an error, and the update
goes through. -/
def Overstated (env : Env) (w : World) (n : String) : Prop :=
  ∃ c, Reads env w n c ∧ c.disabled = false ∧ reconcileError env w c ≠ none ∧
    env.finalUpdate.passes true = true

section

variable {env : Env} {w : World} {n : String} {c : ClusterObject}

theorem readiness_statusToStore (order : Shuffle ClusterCondition) (err : Option Failure)
    {type : ClusterType} {d : Draft} (hd : d.At c type)
    (hready : (d.conditions.lookup .ready).map (·.status) = some .conditionTrue) :
    (statusToStore order err d).readiness = some .conditionTrue := by
  unfold ClusterStatus.readiness
  rw [conditions_statusToStore, find_storedConditions order hd.keyed (t := .ready) nofun]
  exact hready

/-- **`Ready` agrees with the outcome**: whenever a call writes the status of an
enabled cluster, the condition is true exactly if the reconciliation returned no
error, unless it returned one. -/
theorem written_ready_iff (env : Env) (w : World) (n : String) :
    (∀ c, w.clusters.get n = some c → c.disabled = false →
      w.Made ((reconcile env n).run w).2 fun e => e.status.Agrees (reconcileError env w c)) ↔
        ¬Overstated env w n := by
  constructor
  · rintro hall ⟨c, hreads, hen, herr, hpasses⟩
    have hmade := hall c hreads.stored hen
    cases ended hreads hen with
    | unwritten _ h => exact herr h
    | rejected hp => exact nomatch hp.symm.trans hpasses
    | written _ _ hd hready _ hrun hwrites =>
      rw [hrun, made_iff hwrites] at hmade
      have hagrees := List.forall_mem_singleton.mp hmade
      exact herr (hagrees.ready_iff.mp (readiness_statusToStore _ _ hd hready))
  · intro hnot c hc hen
    by_cases hreads : Reads env w n c
    · refine (ended hreads hen).made fun d _ hwrite hp hd hready hreached => ?_
      have herr : reconcileError env w c = none :=
        by_contra fun h => hnot ⟨c, hreads, hen, h, hp⟩
      have hlocal : c.spec.clusterID = w.localID := hwrite.resolve_right (not_not.mpr herr)
      have hstate := hreached.other fun h => absurd hlocal (of_decide_eq_false h)
      refine ⟨iff_of_true (readiness_statusToStore _ _ hd hready) herr, ?_⟩
      rw [herr]
      rintro ⟨-, h⟩
      have hready' : (statusToStore env.conditionOrder none d).state = .ready := hstate
      rw [hready'] at h
      exact h.elim nofun nofun
    · exact made_of_not_reads hc hreads _

end

theorem unreadable_written_ready :
    Reads .smooth (.holding (peer "a" "s")) "a" (peer "a" "s") ∧
      (peer "a" "s").disabled = false ∧
      (reconcileError .smooth (.holding (peer "a" "s")) (peer "a" "s")).isSome = true ∧
      ((reconcile .smooth "a").run (.holding (peer "a" "s"))).2.writes.map
        (fun e => (e.status.readiness, e.status.state)) =
          [(some .conditionTrue, .invalidAuthInfo)] :=
  ⟨reads_holding, by decide +kernel, by decide +kernel, by decide +kernel⟩

end ClusterRegistry.Members
