import ClusterRegistry.Members.Writers

/-!
# How conditions are dated

`SetCondition` dates a condition: the time of its last transition is kept as long
as its status is the same. Here this is followed through the calls of the two
reconcilers for one resource, section by section, while others change, delete and
create the resource. No call sets a condition to one status and then to another,
and an update under the version that was read starts from the conditions that are
stored (`Stamping`). A retry under a newer version may take an old time back.
-/

namespace ClusterRegistry.Members

open Lib Lib.Code

/-! ## Dates -/

/-- The condition is the old one, with its time if it has one, or has another status and the
time of the call. -/
def Stamped (now : Nat) (old : Option ClusterCondition) (new : ClusterCondition) : Prop :=
  (∃ c, old = some c ∧ c.status = new.status ∧
    ∀ time, c.lastTransitionTime = some time → new.lastTransitionTime = some time) ∨
  old.map (·.status) ≠ some new.status ∧ new.lastTransitionTime = some now

theorem stamped_self (now : Nat) (c : ClusterCondition) : Stamped now (some c) c :=
  .inl ⟨c, rfl, rfl, fun _ h => h⟩

/-- All conditions of the status are dated from those of the other one. -/
def StampedOver (now : Nat) (old new : ClusterStatus) : Prop :=
  ∀ t c, (getCurrentConditions new.conditions).lookup t = some c →
    Stamped now ((getCurrentConditions old.conditions).lookup t) c

theorem stampedOver_nil (now : Nat) (old : ClusterStatus) {new : ClusterStatus}
    (h : new.conditions = []) : StampedOver now old new := by
  intro t c hc
  rw [h] at hc
  simp [getCurrentConditions] at hc

/-- `SetCondition` dates the condition from the current one. -/
theorem stamped_setCondition {now : Nat} {m : ClusterConditionsMap} {cond c : ClusterCondition}
    (hcond : cond.lastTransitionTime = none)
    (h : (setCondition now m cond).lookup cond.type = some c) :
    Stamped now (m.lookup cond.type) c ∧ c.status = cond.status := by
  unfold setCondition at h
  rw [Map.lookup_insert_if, if_pos rfl] at h
  cases hcur : m.lookup cond.type with
  | none =>
    rw [hcur] at h
    cases h
    refine ⟨.inr ⟨nofun, ?_⟩, rfl⟩
    show some (cond.lastTransitionTime.getD now) = some now
    rw [hcond]
    rfl
  | some current =>
    rw [hcur] at h
    cases h
    by_cases hs : current.status = cond.status
    · refine ⟨.inl ⟨current, rfl, hs, fun time htime => ?_⟩, rfl⟩
      show some ((if current.status ≠ cond.status then some now
        else current.lastTransitionTime).getD now) = some time
      rw [if_neg (not_not.mpr hs), htime]
      rfl
    · refine ⟨.inr ⟨fun h => hs (Option.some.inj h), ?_⟩, rfl⟩
      show some ((if current.status ≠ cond.status then some now
        else current.lastTransitionTime).getD now) = some now
      rw [if_pos hs]
      rfl

/-- Dated twice with the same status. -/
theorem Stamped.trans {now : Nat} {old : Option ClusterCondition} {c c' : ClusterCondition}
    (h : Stamped now old c) (h' : Stamped now (some c) c') (hs : c.status = c'.status) :
    Stamped now old c' := by
  have htime : ∀ time, c.lastTransitionTime = some time → c'.lastTransitionTime = some time := by
    rcases h' with ⟨_, hc, -, htime⟩ | ⟨hne, -⟩
    · cases hc
      exact htime
    · exact absurd (congrArg some hs) hne
  rcases h with ⟨b, hb, hbs, hbt⟩ | ⟨hne, hnow⟩
  · exact .inl ⟨b, hb, hbs.trans hs, fun time h => htime time (hbt time h)⟩
  · exact .inr ⟨hs ▸ hne, htime now hnow⟩

/-! ## Drafts -/

/-- The draft is over the resource; its conditions are dated from those of the resource, and
those in `fresh` have not been set yet. -/
structure Draft.Dates (now : Nat) (c : ClusterObject) (fresh : List ClusterConditionType)
    (d : Draft) : Prop extends d.Over c where
  unset : ∀ t ∈ fresh, d.conditions.lookup t = (getCurrentConditions c.status.conditions).lookup t
  stamped : ∀ t cond, d.conditions.lookup t = some cond →
    Stamped now ((getCurrentConditions c.status.conditions).lookup t) cond

namespace Draft.Dates

variable {now : Nat} {c : ClusterObject} {fresh : List ClusterConditionType} {d : Draft}

theorem start (now : Nat) (c : ClusterObject) (status : ClusterStatus)
    (h : status.conditions = c.status.conditions) (fresh : List ClusterConditionType) :
    Dates now c fresh
      ⟨{ c with status := status }, getCurrentConditions status.conditions, []⟩ := by
  refine ⟨⟨rfl, rfl, keyed_getCurrentConditions _⟩, fun t _ => by rw [h], fun t cond hcond => ?_⟩
  rw [h] at hcond
  rw [hcond]
  exact stamped_self now cond

theorem setState (h : d.Dates now c fresh) (state : ClusterState) :
    (d.setState state).Dates now c fresh := ⟨⟨h.name, h.version, h.keyed⟩, h.unset, h.stamped⟩

theorem setStatus (h : d.Dates now c fresh) (status : ClusterStatus) :
    (d.setStatus status).Dates now c fresh := ⟨⟨h.name, h.version, h.keyed⟩, h.unset, h.stamped⟩

theorem mono (h : d.Dates now c fresh) {fresh' : List ClusterConditionType}
    (hsub : ∀ t ∈ fresh', t ∈ fresh) : d.Dates now c fresh' :=
  ⟨h.toOver, fun t ht => h.unset t (hsub t ht), h.stamped⟩

/-- A condition is set for the first time in the call, or to the status that it has. -/
theorem setCondition (h : d.Dates now c fresh) (cond : ClusterCondition)
    (hcond : cond.lastTransitionTime = none)
    (hset : cond.type ∈ fresh ∨ (d.conditions.lookup cond.type).map (·.status) = some cond.status) :
    (d.setCondition now cond).Dates now c (fresh.filter (· ≠ cond.type)) := by
  have hother : ∀ t, t ≠ cond.type →
      (d.setCondition now cond).conditions.lookup t = d.conditions.lookup t := by
    intro t ht
    show (Members.setCondition now d.conditions cond).lookup t = _
    unfold Members.setCondition
    rw [Map.lookup_insert_if, if_neg ht]
  refine ⟨⟨h.name, h.version, keyed_setCondition h.keyed now cond⟩, fun t ht => ?_,
    fun t new hnew => ?_⟩
  · obtain ⟨hmem, hne⟩ := List.mem_filter.mp ht
    rw [hother t (of_decide_eq_true hne)]
    exact h.unset t hmem
  · by_cases ht : t = cond.type
    · subst ht
      obtain ⟨hstamped, hs⟩ := stamped_setCondition hcond hnew
      rcases hset with hfresh | hsame
      · rw [← h.unset _ hfresh]
        exact hstamped
      · obtain ⟨old, hold, holds⟩ := Option.map_eq_some_iff.mp hsame
        rw [hold] at hstamped
        exact (h.stamped _ old hold).trans hstamped (holds.trans hs.symm)
    · rw [hother t ht] at hnew
      exact h.stamped t new hnew

/-- A condition is set for the first time in the call. -/
theorem first (h : d.Dates now c fresh) {t : ClusterConditionType} (hmem : t ∈ fresh)
    {fresh' : List ClusterConditionType} (hsub : ∀ t' ∈ fresh', t' ∈ fresh ∧ t' ≠ t)
    (cond : ClusterCondition) (htype : cond.type = t) (hcond : cond.lastTransitionTime = none) :
    (d.setCondition now cond).Dates now c fresh' := by
  subst htype
  refine (h.setCondition cond hcond (.inl hmem)).mono fun t' ht' => ?_
  exact List.mem_filter.mpr ⟨(hsub t' ht').1, decide_eq_true (hsub t' ht').2⟩

/-- The conditions that are stored. -/
theorem stampedOver (h : d.Dates now c fresh) (order : Shuffle ClusterCondition)
    (err : Option Failure) : StampedOver now c.status (statusToStore order err d) := by
  intro t cond hcond
  rw [conditions_statusToStore, lookup_getCurrentConditions] at hcond
  obtain ⟨hmem, ht⟩ := List.mem_filter.mp (List.mem_of_getLast? hcond)
  cases of_decide_eq_true ht
  exact h.stamped _ cond ((mem_storedConditions h.keyed).mp hmem).1

end Draft.Dates

/-- A draft comes with the result. -/
def DatedDraft (now : Nat) (c : ClusterObject) (fresh : List ClusterConditionType)
    (r : Except Failure (Option Failure × Draft)) : Prop :=
  ∀ err d, r = .ok (err, d) → d.Dates now c fresh

section

variable {now : Nat} {c : ClusterObject} {fresh : List ClusterConditionType} {d : Draft}

theorem datedDraft_ok (h : d.Dates now c fresh) (err : Option Failure) :
    DatedDraft now c fresh (.ok (err, d)) := by
  intro err' d' he
  cases he
  exact h

theorem datedDraft_error (e : Failure) : DatedDraft now c fresh (.error e) := by
  intro err d he
  cases he

theorem undated_localCluster (b : Bool) : (localClusterCondition b).type = .localCluster ∧
    (localClusterCondition b).lastTransitionTime = none := by
  cases b <;> exact ⟨rfl, rfl⟩

theorem undated_localConflict (b : Bool) :
    (localClusterConflictCondition b).type = .localConflict ∧
      (localClusterConflictCondition b).lastTransitionTime = none := by
  cases b <;> exact ⟨rfl, rfl⟩

theorem undated_clusterMetadata (err : Option Failure) :
    (clusterMetadataCondition err).type = .clusterMetadata ∧
      (clusterMetadataCondition err).lastTransitionTime = none := by
  cases err <;> exact ⟨rfl, rfl⟩

theorem undated_clustersSynced (err : Option Failure) :
    (clustersSyncedCondition err).type = .clustersSynced ∧
      (clustersSyncedCondition err).lastTransitionTime = none := by
  cases err <;> exact ⟨rfl, rfl⟩

variable (env : Env)

theorem dated_reconcileRemoteCluster (h : d.Dates env.now c conditionTypes) :
    (reconcileRemoteCluster env d).Yields World.journal (DatedDraft env.now c [.ready]) := by
  obtain ⟨htype, hnone⟩ := undated_localCluster false
  have hlocal : (d.setCondition env.now (localClusterCondition false)).Dates env.now c
      [.ready, .clustersSynced] := h.first (mem_conditionTypes _) (by decide) _ htype hnone
  unfold reconcileRemoteCluster
  dsimp only
  split
  · exact datedDraft_ok ((hlocal.setState _).mono (by decide)) none
  · refine Yields.after (journal_of_apart (still_getRemoteCluster env _)).attempt
      datedDraft_error ?_
    rintro (⟨e, state⟩ | id)
    · obtain ⟨htype, hnone⟩ := undated_clustersSynced (some e)
      exact datedDraft_ok ((hlocal.setState state).first (by decide) (by decide) _ htype hnone) _
    · exact datedDraft_ok (hlocal.mono (by decide)) none

theorem dated_checkLocalClusterConflict
    (h : d.Dates env.now c [.localConflict, .clusterMetadata, .ready]) :
    (checkLocalClusterConflict env d).Yields World.journal
      (DatedDraft env.now c [.clusterMetadata, .ready]) := by
  have hset : ∀ b, (d.setCondition env.now (localClusterConflictCondition b)).Dates env.now c
      [.clusterMetadata, .ready] := fun b =>
    h.first (by decide) (by decide) _ (undated_localConflict b).1 (undated_localConflict b).2
  refine Yields.after (journal_answer _ _).attempt datedDraft_error ?_
  rintro (e | items)
  · exact datedDraft_ok (h.mono (by decide)) _
  · dsimp only
    split
    · split
      · exact Yields.after (Quiet.write fun _ _ => rfl) datedDraft_error
          fun _ => datedDraft_ok (hset true) _
      · exact datedDraft_ok (hset true) _
    · exact datedDraft_ok (hset false) none

theorem dated_reconcileLocalCluster (h : d.Dates env.now c conditionTypes) :
    (reconcileLocalCluster env d).Yields World.journal (DatedDraft env.now c [.ready]) := by
  obtain ⟨htype, hnone⟩ := undated_localCluster true
  refine Yields.bind (dated_checkLocalClusterConflict env
    (h.first (mem_conditionTypes _) (by decide) _ htype hnone)) (fun e _ => datedDraft_error e) ?_
  rintro ⟨err, d'⟩ hd'
  have hd' := hd' err d' rfl
  have hmeta : ∀ err, (d'.setCondition env.now (clusterMetadataCondition err)).Dates env.now c
      [.ready] := fun err =>
    hd'.first (by decide) (by decide) _ (undated_clusterMetadata err).1
      (undated_clusterMetadata err).2
  dsimp only
  split
  · exact datedDraft_ok (hd'.mono (by decide)) err
  · split
    · exact datedDraft_ok (hmeta _) _
    · split
      · exact datedDraft_ok ((hmeta none).setStatus _) _
      · exact datedDraft_ok ((hmeta none).setStatus _) none

end

section

open RemoteClusterReconciler

variable {c : ClusterObject} {d : Draft} (env : RemoteEnv)

/-- The condition that is set once more keeps its status. -/
theorem dated_noteError {err : Option Failure} {fresh : List ClusterConditionType}
    (h : d.Dates env.now c fresh) (hset : ∀ e, err = some e → .clustersSynced ∈ fresh ∨
      (d.conditions.lookup .clustersSynced).map (·.status) = some .conditionFalse) :
    (noteError env err d).Dates env.now c [] := by
  cases err with
  | none => exact h.mono nofun
  | some e => exact (h.setCondition (clustersSyncedCondition (some e)) rfl (hset e rfl)).mono nofun

theorem dated_reconcileDraft (clusterID : String) (h : d.Dates env.now c conditionTypes) :
    (reconcileDraft env clusterID d).Yields World.journal
      fun r => ∀ err d', r = .ok (err, d') → (noteError env err d').Dates env.now c [] := by
  have hmeta : ∀ err, (d.setCondition env.now (clusterMetadataCondition err)).Dates env.now c
      [.clustersSynced] := fun err =>
    h.first (mem_conditionTypes _) (by decide) _ (undated_clusterMetadata err).1
      (undated_clusterMetadata err).2
  unfold reconcileDraft
  split
  · intro err d' he
    cases he
    exact dated_noteError env h fun _ _ => .inl (mem_conditionTypes _)
  · split
    · next e _ =>
      intro err d' he
      cases he
      have hsynced := (hmeta (some ⟨e, false⟩)).setCondition
        (clustersSyncedCondition (some ⟨e, false⟩)) rfl (.inl (List.mem_singleton_self _))
      exact dated_noteError env hsynced fun _ _ => .inr (status_setCondition _ _ _ _)
    · refine Yields.bind (yields_syncClusters env) (fun e _ err d' he => nomatch he) ?_
      intro err _ err' d' he
      cases he
      obtain ⟨htype, hnone⟩ := undated_clustersSynced err
      have hsub : ∀ t ∈ ([] : List ClusterConditionType),
          t ∈ [ClusterConditionType.clustersSynced] ∧ t ≠ .clustersSynced := by decide
      exact dated_noteError env (((hmeta none).setStatus _).first (List.mem_singleton_self _) hsub
        _ htype hnone) nofun

end

/-! ## Sections -/

section

variable (n : String)

/-- The resource stays as it is, goes, or gets a version that was not handed out before. -/
structure Moves (w w' : World) : Prop where
  rev : w.rev ≤ w'.rev
  get : ∀ c, w'.clusters.get n = some c → w.clusters.get n = some c ∨
    w.rev < c.resourceVersion ∧ c.resourceVersion ≤ w'.rev

/-- What one section of a call at the time `now` does to the resource. -/
inductive Stamping (now : Nat) (w w' : World) : Prop where
  | still (h : w'.journal () = w.journal ())
  | update (e : StatusWrite) (cur : ClusterObject) (hcur : w.clusters.get n = some cur)
      (hget : w'.clusters.get n =
        some { cur with status := e.status, resourceVersion := w.rev + 1 })
      (hrev : w'.rev = w.rev + 1) (hwrites : w'.writes = e :: w.writes)
      (hstamped : e.retried = false → StampedOver now cur.status e.status)

/-- The resource was read, and is still there as it was or has a newer version. -/
structure World.Knows (w : World) (c : ClusterObject) : Prop where
  name : c.name = n
  versioned : w.Versioned n
  rev : c.resourceVersion ≤ w.rev
  get : ∀ c', w.clusters.get n = some c' → c' = c ∨ c.resourceVersion < c'.resourceVersion

variable {n} {w w' w'' : World} {c : ClusterObject} {now : Nat}

theorem moves_refl (n : String) (w : World) : Moves n w w := ⟨le_refl _, fun _ h => .inl h⟩

theorem Moves.trans (h : Moves n w w') (h' : Moves n w' w'') : Moves n w w'' := by
  refine ⟨h.rev.trans h'.rev, fun c hc => ?_⟩
  rcases h'.get c hc with hold | ⟨hlt, hle⟩
  · exact (h.get c hold).imp id fun ⟨hlt, hle⟩ => ⟨hlt, hle.trans h'.rev⟩
  · exact .inr ⟨h.rev.trans_lt hlt, hle⟩

theorem moves_of_journal (h : w'.journal () = w.journal ()) : Moves n w w' := by
  obtain ⟨hclusters, hrev, -⟩ : w'.clusters = w.clusters ∧ w'.rev = w.rev ∧
      w'.writes = w.writes := by
    simpa [World.journal] using h
  exact ⟨hrev.ge, fun c hc => .inl (hclusters ▸ hc)⟩

theorem Stamping.moves (h : Stamping n now w w') : Moves n w w' := by
  cases h with
  | still h => exact moves_of_journal h
  | update e cur hcur hget hrev =>
    refine ⟨hrev ▸ Nat.le_succ _, fun c hc => .inr ?_⟩
    cases hget.symm.trans hc
    exact ⟨Nat.lt_succ_self _, hrev.ge⟩

theorem Moves.versioned (h : Moves n w w') (hw : w.Versioned n) : w'.Versioned n := by
  intro c hc
  rcases h.get c hc with hold | ⟨-, hle⟩
  · exact (hw c hold).trans h.rev
  · exact hle

theorem Moves.knows (h : Moves n w w') (hk : w.Knows n c) : w'.Knows n c := by
  refine ⟨hk.name, h.versioned hk.versioned, hk.rev.trans h.rev, fun c' hc' => ?_⟩
  rcases h.get c' hc' with hold | ⟨hlt, -⟩
  · exact hk.get c' hold
  · exact .inr (hk.rev.trans_lt hlt)

/-- The rest of a call that began at the time `now`. -/
abbrev Dating {α : Type} (n : String) (now : Nat) (m : Proc α)
    (P : Except Failure α → World → Prop) (w : World) : Prop :=
  m.Ensures (Moves n) (Stamping n now) P w

/-- A call that makes no update. -/
theorem dating_of_yields {α : Type} {m : Proc α} {Q : Except Failure α → Prop}
    (h : m.Yields World.journal Q) {I : World → Prop} (hI : ∀ s t, Moves n s t → I s → I t)
    (hw : I w) : Dating n now m (fun r t => Q r ∧ I t) w :=
  h.ensures (fun _ _ hv => .still (hv ())) hI (fun _ _ hv => hI _ _ (moves_of_journal (hv ()))) hw

/-- What may be written: conditions that are dated from those that were read, under the
version that was read, or none at all. -/
def World.Writable (w : World) (n : String) (now : Nat) (obj : ClusterObject) : Prop :=
  obj.status.conditions = [] ∨ ∃ c, w.Knows n c ∧ obj.resourceVersion = c.resourceVersion ∧
    StampedOver now c.status obj.status

theorem Moves.writable (h : Moves n w w') {obj : ClusterObject} (hw : w.Writable n now obj) :
    w'.Writable n now obj :=
  hw.imp id fun ⟨c, hk, hv⟩ => ⟨c, h.knows hk, hv⟩

theorem dating_updateStatus (fault : Option Err) {e : StatusWrite} (obj : ClusterObject)
    (hn : obj.name = n) (hs : e.status = obj.status)
    (hw : e.retried = false → w.Writable n now obj) :
    Dating n now (updateStatus fault e obj)
      (fun r _ => ∀ new, r = .ok new → new.name = n) w := by
  refine ensures_atomic fun t ht => ?_
  have hrejected : ∀ err : Failure, Stamping n now t t ∧
      ∀ new, (.error err : Except Failure ClusterObject) = .ok new → new.name = n :=
    fun err => ⟨.still rfl, no_value⟩
  cases fault with
  | some err => exact hrejected _
  | none =>
    cases hcur : t.clusters.get obj.name with
    | none => simpa only [hcur] using hrejected _
    | some cur =>
      by_cases hv : obj.uid ≠ cur.uid ∨ obj.resourceVersion ≠ cur.resourceVersion
      · simpa only [hcur, if_pos hv] using hrejected _
      · simp only [if_neg hv]
        have hname : cur.name = obj.name := Table.key_of_get hcur
        have hget : (t.clusters.put { cur with
            status := obj.status, resourceVersion := t.rev + 1 }).get n =
              some { cur with status := obj.status, resourceVersion := t.rev + 1 } :=
          (Table.get_put _ _ _).trans (if_pos (hn ▸ hname.symm))
        refine ⟨.update e cur (hn ▸ hcur) (hs ▸ hget) rfl rfl fun hr => ?_, ?_⟩
        · rw [hs]
          rcases ht.writable (hw hr) with hnil | ⟨c, hk, hversion, hstamped⟩
          · exact stampedOver_nil _ _ hnil
          · rcases hk.get cur (hn ▸ hcur) with rfl | hlt
            · exact hstamped
            · have hsame := not_not.mp (not_or.mp hv).2
              omega
        · rintro new hnew
          cases hnew
          exact hname.trans hn

theorem dating_updateClusterStatus {faults : UpdateFaults} {writer : Writer} {d : Draft}
    (hn : d.cluster.name = n) (hw : w.Writable n now d.cluster) :
    Dating n now (updateClusterStatus faults writer d)
      (fun r _ => ∀ cluster, r = .ok cluster → cluster.name = n) w := by
  refine Ensures.bindAttempt (dating_updateStatus _ _ hn rfl fun _ => hw) ?_
  rintro (e | cluster) t hok
  · dsimp only
    split
    · refine Ensures.bind (Q := fun _ _ => True) (Ensures.mapError ?_) (fun _ _ _ => no_value) ?_
      · refine (dating_of_yields (journal_answer _ _).yields (I := fun _ => True)
          (fun _ _ _ h => h) trivial).mono ?_
        rintro (e | current) _ - <;> exact trivial
      · intro current t _
        refine Ensures.bind (Q := fun _ _ => True) (Ensures.mapError ?_) (fun _ _ _ => no_value) ?_
        · refine (dating_updateStatus faults.retry (e := ⟨writer, d.set, d.cluster.status, true⟩)
            { d.cluster with resourceVersion := current.resourceVersion } hn rfl nofun).mono ?_
          rintro (e | new) _ - <;> exact trivial
        · intro _ t _ cluster hc
          cases hc
          exact hn
    · exact no_value
  · intro cluster' hc
    cases hc
    exact hok cluster rfl

theorem writable_of_dates {fresh : List ClusterConditionType} {d : Draft} (hk : w.Knows n c)
    (hd : d.Dates now c fresh) (order : Shuffle ClusterCondition) (err : Option Failure) :
    w.Writable n now (d.setStatus (statusToStore order err d)).cluster :=
  .inr ⟨c, hk, hd.version, hd.stampedOver order err⟩

/-- Of no conditions, none are stored. -/
theorem writable_of_empty {d : Draft} (hd : d.conditions = ∅) (order : Shuffle ClusterCondition)
    (err : Option Failure) :
    w.Writable n now (d.setStatus (statusToStore order err d)).cluster := by
  refine .inl ?_
  show (statusToStore order err d).conditions = []
  rw [conditions_statusToStore]
  refine List.eq_nil_iff_forall_not_mem.mpr fun cond hcond => ?_
  have hlookup := ((mem_storedConditions (hd ▸ keyed_empty)).mp hcond).1
  rw [hd, Finmap.lookup_empty] at hlookup
  cases hlookup

theorem dating_updateCluster {faults : UpdateFaults} {order : Shuffle ClusterCondition}
    {writer : Writer} {err : Option Failure} {d : Draft} (hn : d.cluster.name = n)
    (hw : w.Writable n now (d.setStatus (statusToStore order err d)).cluster) :
    Dating n now (updateCluster faults order writer err d)
      (fun r _ => ∀ d', r = .ok d' → d'.conditions = d.conditions ∧ d'.cluster.name = n) w := by
  have hstore : Dating n now (updateClusterStatus faults writer
      (d.setStatus (statusToStore order err d)))
      (fun r _ => ∀ cluster, r = .ok cluster → cluster.name = n) w :=
    dating_updateClusterStatus hn hw
  unfold updateCluster
  cases err with
  | some e =>
    refine Ensures.bindAttempt hstore fun _ t _ => ?_
    split
    · intro d' hd'
      cases hd'
      exact ⟨rfl, hn⟩
    · exact no_value
  | none =>
    refine Ensures.bind hstore (fun _ _ _ => no_value) fun cluster t ht d' hd' => ?_
    cases hd'
    exact ⟨rfl, ht cluster rfl⟩

/-! ## Calls -/

/-- A call that began at the time `now`, whatever it returns. -/
abbrev DatingCall (n : String) (now : Nat) (m : Proc Unit) (w : World) : Prop :=
  Dating n now m (fun _ _ => True) w

theorem dating_getCluster (fault : Option Err) (hv : w.Versioned n) :
    Dating n now (getCluster fault n) (fun r t => ∀ c, r = .ok c → t.Knows n c) w := by
  refine ensures_atomic fun t ht => ?_
  have hvt := ht.versioned hv
  cases fault with
  | some e => exact ⟨.still rfl, no_value⟩
  | none =>
    refine ⟨.still rfl, fun c hc => ?_⟩
    cases hget : t.clusters.get n with
    | none =>
      simp only [hget] at hc
      cases hc
    | some c' =>
      simp only [hget] at hc
      cases hc
      exact ⟨Table.key_of_get hget, hvt, hvt _ hget,
        fun c'' hc'' => .inl (Option.some.inj (hc''.symm.trans hget))⟩

section

variable (env : Env)

theorem dating_finishReconcile (isClusterLocal : Bool) (err : Option Failure) {d : Draft}
    (hn : d.cluster.name = n) (hw : w.Writable n now
      (d.setStatus (statusToStore env.conditionOrder err d)).cluster) :
    DatingCall n now (finishReconcile env isClusterLocal err d) w := by
  unfold finishReconcile
  split
  · exact Ensures.bind (dating_updateCluster hn hw) (fun _ _ _ => trivial) fun _ _ _ => trivial
  · exact trivial

theorem dating_reconcileEnabled (isClusterLocal : Bool) {d : Draft} (hk : w.Knows n c)
    (hd : d.Dates env.now c conditionTypes) :
    DatingCall n env.now (reconcileEnabled env isClusterLocal d) w := by
  have hdraft : ((if isClusterLocal then reconcileLocalCluster else reconcileRemoteCluster)
      env d).Yields World.journal (DatedDraft env.now c [.ready]) := by
    cases isClusterLocal with
    | true => exact dated_reconcileLocalCluster env hd
    | false => exact dated_reconcileRemoteCluster env hd
  refine Ensures.bind (dating_of_yields hdraft (fun _ _ h => h.knows) hk) (fun _ _ _ => trivial) ?_
  rintro ⟨err, d'⟩ t ⟨hd', hkt⟩
  have hset := (hd' err d' rfl).setCondition (clusterReadyCondition none) rfl
    (.inl (List.mem_singleton_self _))
  exact dating_finishReconcile env isClusterLocal err (hset.name.trans hkt.name)
    (writable_of_dates hkt hset _ err)

theorem dating_reconcileDisabled (isClusterLocal : Bool) {d : Draft} (hn : d.cluster.name = n) :
    DatingCall n now (reconcileDisabled env isClusterLocal d) w := by
  refine Ensures.bind (dating_of_yields (journal_removeIfFound _).yields (I := fun _ => True)
    (fun _ _ _ h => h) trivial) (fun _ _ _ => trivial) fun _ t _ => ?_
  have hempty : d.disable.conditions = ∅ := rfl
  refine Ensures.bind (dating_updateCluster hn (writable_of_empty hempty _ none))
    (fun _ _ _ => trivial) fun d' t hd' => ?_
  obtain ⟨hconditions, hname⟩ := hd' d' rfl
  exact dating_finishReconcile env isClusterLocal none hname
    (writable_of_empty (hconditions.trans hempty) _ none)

theorem dating_reconcileAs (isClusterLocal : Bool) (hk : w.Knows n c) :
    DatingCall n env.now (reconcileAs env isClusterLocal c) w := by
  refine Ensures.bind (dating_of_yields (yields_resetStatus env isClusterLocal c)
    (fun _ _ h => h.knows) hk) (fun _ _ _ => trivial) ?_
  rintro status t ⟨hstatus, hkt⟩
  split
  · exact dating_reconcileDisabled env isClusterLocal hkt.name
  · exact dating_reconcileEnabled env isClusterLocal hkt
      (.start env.now c status (hstatus status rfl) conditionTypes)

theorem dating_reconcile (hv : w.Versioned n) : DatingCall n env.now (reconcile env n) w := by
  refine Ensures.bind (dating_of_yields (journal_setClusterID env).yields (fun _ _ h => h.versioned)
    hv) (fun _ _ _ => trivial) fun _ t ht => ?_
  refine Ensures.bindAttempt (dating_getCluster env.get ht.2) ?_
  rintro (e | cluster) t ht
  · have hgone : Quiet World.journal (reconcileRead env n (.error e)) :=
      Quiet.ite (Quiet.bind (journal_removeIfFound n)
        fun _ => journal_triggerLocalClusterReconciles env) trivial
    exact (dating_of_yields hgone.yields (I := fun _ => True) (fun _ _ _ h => h) trivial).mono
      fun _ _ _ => trivial
  · refine Ensures.bind (dating_of_yields (Quiet.read _).yields (fun _ _ h => h.knows)
      (ht cluster rfl)) (fun _ _ _ => trivial) fun clusterID t ht => ?_
    exact dating_reconcileAs env _ ht.2

end

theorem dating_remote (env : RemoteEnv) (hv : w.Versioned n) :
    DatingCall n env.now (RemoteClusterReconciler.reconcile env n) w := by
  refine Ensures.bind (Q := fun _ t => t.Versioned n) (Ensures.mapError (ensures_ofExcept ?_))
    (fun _ _ _ => trivial) fun clusterID t ht => ?_
  · cases env.clusterID <;> exact hv
  refine Ensures.bindAttempt (dating_getCluster env.get ht) ?_
  rintro (e | cluster) t ht
  · dsimp only
    split <;> exact trivial
  · have hdraft := dated_reconcileDraft env clusterID
      (.start env.now cluster cluster.status.reset rfl conditionTypes)
    refine Ensures.bind (dating_of_yields hdraft (fun _ _ h => h.knows) (ht cluster rfl))
      (fun _ _ _ => trivial) ?_
    rintro ⟨err, d⟩ t ⟨hd, hkt⟩
    have hdates := hd err d rfl
    exact Ensures.bind (dating_updateCluster (hdates.name.trans hkt.name)
      (writable_of_dates hkt hdates _ err)) (fun _ _ _ => trivial) fun _ _ _ => trivial

end

end ClusterRegistry.Members
