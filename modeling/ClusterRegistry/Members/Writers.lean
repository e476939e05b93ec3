import ClusterRegistry.Members.Instances
import ClusterRegistry.Members.Remote
import ClusterRegistry.Members.Status

/-!
# Two writers of one status

A call of `ClusterReconciler` and one of `RemoteClusterReconciler` for the same
resource, section by section. Each reads the whole status, sets its conditions
in it and writes it back. An update under the version that was read starts from
the status that is stored, so that it keeps what the other one has written; a
retry under a newer version does not. What an update leaves out on purpose are
all conditions of a disabled cluster and `ClustersSynced` of a local one.
-/

namespace ClusterRegistry.Members

open Lib Lib.Code

/-! ## What an update says -/

/-- The status of a condition as both reconcilers read it. -/
def held (conditions : List ClusterCondition) (t : ClusterConditionType) : Option ConditionStatus :=
  ((getCurrentConditions conditions).lookup t).map (·.status)

namespace StatusWrite

/-- The status that the call has set for the condition, if any. -/
def value (e : StatusWrite) (t : ClusterConditionType) : Option ConditionStatus :=
  (e.set.find? (·.type = t)).map (·.status)

/-- The update leaves the condition out on purpose. -/
def Drops (e : StatusWrite) (t : ClusterConditionType) : Prop :=
  e.status.state = .disabled ∨ e.status.type = .local ∧ t = .clustersSynced

/-- The update is what it sets, over the conditions of the resource. -/
def Follows (e : StatusWrite) (c : ClusterObject) : Prop :=
  ∀ t, ¬e.Drops t →
    held e.status.conditions t = (e.value t).or (held c.status.conditions t) ∧
      (e.status.conditions.find? (·.type = t)).map (·.status) = held e.status.conditions t

end StatusWrite

namespace Draft

def value (d : Draft) (t : ClusterConditionType) : Option ConditionStatus :=
  (d.set.find? (·.type = t)).map (·.status)

/-- The draft is to be stored over the resource as it was read. -/
structure Over (c : ClusterObject) (d : Draft) : Prop where
  name : d.cluster.name = c.name
  version : d.cluster.resourceVersion = c.resourceVersion
  keyed : d.conditions.Keyed

/-- Its conditions are those of the resource, and what has been set. -/
structure Of (c : ClusterObject) (d : Draft) : Prop extends Over c d where
  follows : ∀ t, (d.conditions.lookup t).map (·.status) =
    (d.value t).or (held c.status.conditions t)

variable {c : ClusterObject} {d : Draft}

theorem of_read (c : ClusterObject) (status : ClusterStatus)
    (h : status.conditions = c.status.conditions) :
    Of c ⟨{ c with status := status }, getCurrentConditions status.conditions, []⟩ :=
  ⟨⟨rfl, rfl, keyed_getCurrentConditions _⟩, fun t => by rw [h]; rfl⟩

theorem Of.setCondition (h : d.Of c) (now : Nat) (cond : ClusterCondition) :
    (d.setCondition now cond).Of c := by
  refine ⟨⟨h.name, h.version, keyed_setCondition h.keyed now cond⟩, fun t => ?_⟩
  refine (status_setCondition now d.conditions cond t).trans ?_
  unfold value Draft.setCondition
  by_cases ht : t = cond.type
  · rw [if_pos ht, List.find?_cons_of_pos (by simp [ht])]
    rfl
  · rw [if_neg ht, List.find?_cons_of_neg (by simpa using Ne.symm ht)]
    exact h.follows t

theorem Of.setState (h : d.Of c) (state : ClusterState) : (d.setState state).Of c :=
  ⟨⟨h.name, h.version, h.keyed⟩, h.follows⟩

theorem Of.setStatus (h : d.Of c) (status : ClusterStatus) : (d.setStatus status).Of c :=
  ⟨⟨h.name, h.version, h.keyed⟩, h.follows⟩

end Draft

theorem held_storedConditions (order : Shuffle ClusterCondition) {d : Draft}
    (hd : d.conditions.Keyed) {t : ClusterConditionType}
    (ht : ¬(d.cluster.status.type = .local ∧ t = .clustersSynced)) :
    held (storedConditions order d) t = (d.conditions.lookup t).map (·.status) := by
  have hmem : ∀ c, c ∈ (storedConditions order d).filter (·.type = t) ↔
      d.conditions.lookup t = some c := by
    intro c
    rw [List.mem_filter, mem_storedConditions hd, decide_eq_true_eq]
    constructor
    · rintro ⟨⟨hc, -⟩, rfl⟩
      exact hc
    · intro hc
      have hct := hd t c hc
      exact ⟨⟨hct ▸ hc, hct ▸ ht⟩, hct⟩
  unfold held
  rw [lookup_getCurrentConditions]
  cases hl : ((storedConditions order d).filter (·.type = t)).getLast? with
  | none =>
    rw [List.getLast?_eq_none_iff] at hl
    have : d.conditions.lookup t = none :=
      Option.eq_none_iff_forall_ne_some.mpr fun c hc => by
        have := (hmem c).mpr hc
        rw [hl] at this
        cases this
    rw [this]
  | some c => rw [(hmem c).mp (List.mem_of_getLast? hl)]

/-- The update that a draft leads to. -/
theorem follows_statusToStore {order : Shuffle ClusterCondition} {err : Option Failure}
    {writer : Writer} {c : ClusterObject} {d : Draft} (hd : d.Over c)
    (hf : d.cluster.status.state = .disabled ∨ d.Of c) :
    StatusWrite.Follows ⟨writer, d.set, statusToStore order err d, false⟩ c := by
  intro t ht
  obtain ⟨hen, hlocal⟩ := not_or.mp ht
  have hlocal' : ¬(d.cluster.status.type = .local ∧ t = .clustersSynced) := by
    simpa using hlocal
  have hof : d.Of c := by
    refine hf.resolve_left fun hdis => hen ?_
    cases err with
    | none => exact hdis
    | some e =>
      show (if d.cluster.status.state = .ready then _ else d.cluster.status.state) = _
      rw [hdis]
      rfl
  have hheld := held_storedConditions order hd.keyed hlocal'
  have hfind := find_storedConditions order hd.keyed hlocal'
  show held (statusToStore order err d).conditions t = _ ∧
    Option.map _ (List.find? _ (statusToStore order err d).conditions) =
      held (statusToStore order err d).conditions t
  rw [conditions_statusToStore, hheld, hfind]
  exact ⟨hof.follows t, rfl⟩

/-! ## What the other one does meanwhile -/

/-- The clusters, their versions and the updates made. -/
def World.journal (_ : Unit) (w : World) : Table ClusterObject.name × Nat × List StatusWrite :=
  (w.clusters, w.rev, w.writes)

section

variable (n : String)

/-- No version has been handed out yet that is higher than the current one. -/
def World.Versioned (w : World) : Prop :=
  ∀ c, w.clusters.get n = some c → c.resourceVersion ≤ w.rev

/-- The resource stays as it is or gets a new version. -/
structure Evolves (w w' : World) : Prop where
  rev : w.rev ≤ w'.rev
  get : w'.clusters.get n = w.clusters.get n ∨ ∃ c, w'.clusters.get n = some c ∧
    w.rev < c.resourceVersion ∧ c.resourceVersion ≤ w'.rev

/-- What one section of a call does to the resource and to the updates made. -/
inductive Effort (w w' : World) : Prop where
  | still (h : w'.journal () = w.journal ())
  | update (e : StatusWrite) (cur : ClusterObject) (hcur : w.clusters.get n = some cur)
      (hget : w'.clusters.get n =
        some { cur with status := e.status, resourceVersion := w.rev + 1 })
      (hrev : w'.rev = w.rev + 1) (hwrites : w'.writes = e :: w.writes)
      (hfollows : e.retried = false → e.Follows cur)

/-- The resource was read: it is still there as it was, or under a newer version. -/
structure World.Read (w : World) (c : ClusterObject) : Prop where
  name : c.name = n
  rev : c.resourceVersion ≤ w.rev
  get : w.clusters.get n = some c ∨
    ∃ c', w.clusters.get n = some c' ∧ c.resourceVersion < c'.resourceVersion

variable {n} {w w' w'' : World} {c : ClusterObject}

theorem Evolves.trans (h : Evolves n w w') (h' : Evolves n w' w'') : Evolves n w w'' := by
  refine ⟨h.rev.trans h'.rev, ?_⟩
  rcases h'.get with hsame | ⟨c, hc, hlt, hle⟩
  · rw [hsame]
    exact h.get.imp id fun ⟨c, hc, hlt, hle⟩ => ⟨c, hc, hlt, hle.trans h'.rev⟩
  · exact .inr ⟨c, hc, h.rev.trans_lt hlt, hle⟩

theorem evolves_of_journal (h : w'.journal () = w.journal ()) : Evolves n w w' := by
  obtain ⟨hclusters, hrev, -⟩ : w'.clusters = w.clusters ∧ w'.rev = w.rev ∧
      w'.writes = w.writes := by
    simpa [World.journal] using h
  exact ⟨hrev.ge, .inl (by rw [hclusters])⟩

theorem Effort.evolves (h : Effort n w w') : Evolves n w w' := by
  cases h with
  | still h => exact evolves_of_journal h
  | update e cur hcur hget hrev =>
    refine ⟨hrev ▸ Nat.le_succ _, .inr ⟨_, hget, Nat.lt_succ_self _, ?_⟩⟩
    rw [hrev]

theorem Evolves.versioned (h : Evolves n w w') (hw : w.Versioned n) : w'.Versioned n := by
  intro c hc
  rcases h.get with hsame | ⟨c', hc', -, hle⟩
  · exact (hw c (hsame ▸ hc)).trans h.rev
  · cases hc.symm.trans hc'
    exact hle

theorem Evolves.read (h : Evolves n w w') (hr : w.Read n c) : w'.Read n c := by
  refine ⟨hr.name, hr.rev.trans h.rev, ?_⟩
  rcases h.get with hsame | ⟨c', hc', hlt, -⟩
  · rw [hsame]
    exact hr.get
  · exact .inr ⟨c', hc', hr.rev.trans_lt hlt⟩

/-- What is stored under the version that was read is what was read. -/
theorem World.Read.eq (hr : w.Read n c) {cur : ClusterObject} (hcur : w.clusters.get n = some cur)
    (hv : cur.resourceVersion = c.resourceVersion) : cur = c := by
  rcases hr.get with hc | ⟨c', hc', hlt⟩
  · exact Option.some.inj (hcur.symm.trans hc)
  · cases hcur.symm.trans hc'
    omega

/-! ## Status updates -/

/-- A call keeps to its efforts, with the other one in between. -/
abbrev Keeps {α : Type} (n : String) (m : Proc α) (P : Except Failure α → World → Prop)
    (w : World) : Prop := m.Ensures (Evolves n) (Effort n) P w

/-- What is known of the server while a draft over `c` is at hand. -/
structure World.Basis (w : World) (n : String) (c : ClusterObject) : Prop where
  versioned : w.Versioned n
  read : w.Read n c

theorem Evolves.basis (h : Evolves n w w') (hb : w.Basis n c) : w'.Basis n c :=
  ⟨h.versioned hb.versioned, h.read hb.read⟩

/-- An update is rejected, or stored under a new version. -/
theorem keeps_updateStatus (fault : Option Err) {e : StatusWrite} (obj : ClusterObject)
    (hn : obj.name = n) (hs : e.status = obj.status) (hb : w.Basis n c)
    (hf : e.retried = false → obj.resourceVersion = c.resourceVersion ∧ e.Follows c) :
    Keeps n (updateStatus fault e obj) (fun r t => t.Basis n c ∧
      ∀ new, r = .ok new → t.Basis n new ∧ new.status = obj.status) w := by
  refine ensures_atomic fun t ht => ?_
  have hbt := ht.basis hb
  have hrejected : ∀ err : Failure, Effort n t t ∧ t.Basis n c ∧
      ∀ new, (.error err : Except Failure ClusterObject) = .ok new →
        t.Basis n new ∧ new.status = obj.status :=
    fun err => ⟨.still rfl, hbt, no_value⟩
  cases fault with
  | some err => exact hrejected _
  | none =>
    cases hcur : t.clusters.get obj.name with
    | none => simpa only [hcur] using hrejected _
    | some cur =>
      by_cases hv : obj.uid ≠ cur.uid ∨ obj.resourceVersion ≠ cur.resourceVersion
      · simpa only [hcur, if_pos hv] using hrejected _
      · simp only [if_neg hv]
        have hname : cur.name = obj.name := Table.key_of_get hcur
        have hget : (t.clusters.put { cur with
            status := obj.status, resourceVersion := t.rev + 1 }).get n =
              some { cur with status := obj.status, resourceVersion := t.rev + 1 } :=
          (Table.get_put _ _ _).trans (if_pos (hn ▸ hname.symm))
        have heffort : Effort n t { t with
            clusters := t.clusters.put { cur with
              status := obj.status, resourceVersion := t.rev + 1 }
            rev := t.rev + 1, writes := e :: t.writes } := by
          refine .update e cur (hn ▸ hcur) (hs ▸ hget) rfl rfl fun hr => ?_
          obtain ⟨hversion, hfollows⟩ := hf hr
          have hsame : cur.resourceVersion = c.resourceVersion :=
            (not_not.mp (not_or.mp hv).2).symm.trans hversion
          rwa [hbt.read.eq (hn ▸ hcur) hsame]
        refine ⟨heffort, heffort.evolves.basis hbt, ?_⟩
        rintro new hnew
        cases hnew
        exact ⟨⟨heffort.evolves.versioned hbt.versioned, hname.trans hn, le_refl _, .inl hget⟩, rfl⟩

/-- A call that makes no update. -/
theorem keeps_of_yields {α : Type} {m : Proc α} {Q : Except Failure α → Prop}
    (h : m.Yields World.journal Q) {I : World → Prop}
    (hI : ∀ s t, Evolves n s t → I s → I t) (hw : I w) :
    Keeps n m (fun r t => Q r ∧ I t) w :=
  h.ensures (fun _ _ hv => .still (hv ())) hI (fun _ _ hv => hI _ _ (evolves_of_journal (hv ()))) hw

theorem journal_of_apart {α ε : Type} {m : Code World ε α} (h : Quiet World.apart m) :
    Quiet World.journal m :=
  h.through id World.journal fun _ _ => rfl

theorem journal_answer {α : Type} (fault : Option Err) (f : World → Except Failure α) :
    Quiet World.journal (answer fault f) := journal_of_apart (still_answer fault f)

/-- What is left of a draft once its update has been made. -/
def Draft.Stored (d : Draft) (n : String) (r : Except Failure ClusterObject) (t : World) : Prop :=
  ∀ cluster, r = .ok cluster → ∃ c', t.Basis n c' ∧ cluster.name = c'.name ∧
    cluster.resourceVersion = c'.resourceVersion ∧ cluster.status = d.cluster.status

theorem keeps_updateClusterStatus {faults : UpdateFaults} {writer : Writer} {d : Draft}
    (hb : w.Basis n c) (hd : d.Over c)
    (hf : StatusWrite.Follows ⟨writer, d.set, d.cluster.status, false⟩ c) :
    Keeps n (updateClusterStatus faults writer d) (d.Stored n) w := by
  have hname : d.cluster.name = n := hd.name.trans hb.read.name
  refine Ensures.bindAttempt (keeps_updateStatus _ _ hname rfl hb fun _ => ⟨hd.version, hf⟩) ?_
  rintro (e | cluster) t ⟨hbt, hok⟩
  · dsimp only
    split
    · refine Ensures.bind (Q := fun _ t => t.Basis n c) (Ensures.mapError ?_)
        (fun _ _ _ => no_value) ?_
      · refine (keeps_of_yields (journal_answer _ _).yields (fun _ _ h => h.basis) hbt).mono ?_
        rintro (e | current) t ⟨-, ht⟩ <;> exact ht
      · intro current t ht
        have hretry := keeps_updateStatus faults.retry
          (e := ⟨writer, d.set, d.cluster.status, true⟩)
          { d.cluster with resourceVersion := current.resourceVersion } hname rfl ht nofun
        refine Ensures.bind (Q := fun _ t => t.Basis n c) (Ensures.mapError ?_)
          (fun _ _ _ => no_value) ?_
        · refine hretry.mono ?_
          rintro (e | new) t ⟨ht, -⟩ <;> exact ht
        · rintro _ t ht cluster hc
          cases hc
          exact ⟨c, ht, hd.name, hd.version, rfl⟩
    · exact no_value
  · intro cluster' hc
    cases hc
    obtain ⟨hnew, hstatus⟩ := hok cluster rfl
    exact ⟨cluster, hnew, rfl, rfl, hstatus⟩

theorem keeps_updateCluster {faults : UpdateFaults} {order : Shuffle ClusterCondition}
    {writer : Writer} {err : Option Failure} {d : Draft} (hb : w.Basis n c) (hd : d.Over c)
    (hf : d.cluster.status.state = .disabled ∨ d.Of c) :
    Keeps n (updateCluster faults order writer err d) (fun r t => err = none →
      d.cluster.status.state = .disabled → ∀ d', r = .ok d' →
        ∃ c', t.Basis n c' ∧ d'.Over c' ∧ d'.cluster.status.state = .disabled) w := by
  have hstore : Keeps n
      (updateClusterStatus faults writer (d.setStatus (statusToStore order err d)))
      ((d.setStatus (statusToStore order err d)).Stored n) w :=
    keeps_updateClusterStatus hb ⟨hd.name, hd.version, hd.keyed⟩ (follows_statusToStore hd hf)
  cases err with
  | some e =>
    refine Ensures.bindAttempt hstore fun r t _ => ?_
    split <;> exact nofun
  | none =>
    refine Ensures.bind hstore (fun _ _ _ _ _ => no_value) ?_
    intro cluster t ht _ hdis d' hd'
    cases hd'
    obtain ⟨c', hb', hname, hversion, hstatus⟩ := ht cluster rfl
    exact ⟨c', hb', ⟨hname, hversion, hd.keyed⟩, hstatus ▸ hdis⟩

/-! ## The calls up to their update -/

section

variable (env : Env)

theorem journal_removeIfFound (name : String) : Quiet World.journal (removeIfFound name) := by
  refine Quiet.bind (Quiet.attempt ?_) fun r => ?_
  · refine Quiet.bind (Quiet.read _) fun found => ?_
    cases found with
    | none => exact trivial
    | some id => exact journal_of_apart (still_managerRemove id)
  · cases r with
    | ok _ => exact trivial
    | error e => exact Quiet.ite trivial trivial

theorem journal_triggerLocalClusterReconciles :
    Quiet World.journal (triggerLocalClusterReconciles env) :=
  Quiet.bind (journal_answer _ _) fun _ => Quiet.write fun _ _ => rfl

theorem journal_setClusterID : Quiet World.journal (setClusterID env) := by
  refine Quiet.bind (Quiet.read _) fun id => ?_
  refine Quiet.ite (Quiet.bind (journal_answer _ _).mapError fun uid => ?_) trivial
  exact Quiet.write fun _ _ => rfl

theorem yields_resetStatus (isClusterLocal : Bool) (cluster : ClusterObject) :
    (resetStatus env isClusterLocal cluster).Yields World.journal
      fun r => ∀ status, r = .ok status → status.conditions = cluster.status.conditions := by
  cases isClusterLocal with
  | true =>
    refine Yields.after (journal_removeIfFound _) (fun _ => no_value) fun _ status hs => ?_
    cases hs
    rfl
  | false =>
    intro status hs
    cases hs
    rfl

/-- A draft comes with the result. -/
def Drafted (c : ClusterObject) (r : Except Failure (Option Failure × Draft)) : Prop :=
  ∀ err d, r = .ok (err, d) → d.Of c

theorem drafted_ok {d : Draft} (h : d.Of c) (err : Option Failure) : Drafted c (.ok (err, d)) := by
  intro err' d' he
  cases he
  exact h

theorem drafted_error (c : ClusterObject) (e : Failure) : Drafted c (.error e) := by
  intro err d he
  cases he

theorem yields_reconcileRemoteCluster {d : Draft} (hd : d.Of c) :
    (reconcileRemoteCluster env d).Yields World.journal (Drafted c) := by
  have hd' := hd.setCondition env.now (localClusterCondition false)
  unfold reconcileRemoteCluster
  dsimp only
  split
  · exact drafted_ok (hd'.setState _) none
  · refine Yields.after (journal_of_apart (still_getRemoteCluster env _)).attempt
      (drafted_error c) ?_
    rintro (⟨e, state⟩ | id)
    · exact drafted_ok ((hd'.setState state).setCondition _ _) _
    · exact drafted_ok hd' none

theorem yields_checkLocalClusterConflict {d : Draft} (hd : d.Of c) :
    (checkLocalClusterConflict env d).Yields World.journal (Drafted c) := by
  refine Yields.after (journal_answer _ _).attempt (drafted_error c) ?_
  rintro (e | items)
  · exact drafted_ok hd _
  · dsimp only
    split
    · have hset := hd.setCondition env.now (localClusterConflictCondition true)
      split
      · exact Yields.after (Quiet.write fun _ _ => rfl) (drafted_error c)
          fun _ => drafted_ok hset _
      · exact drafted_ok hset _
    · exact drafted_ok (hd.setCondition _ _) none

theorem yields_reconcileLocalCluster {d : Draft} (hd : d.Of c) :
    (reconcileLocalCluster env d).Yields World.journal (Drafted c) := by
  refine Yields.bind (yields_checkLocalClusterConflict env (hd.setCondition _ _))
    (fun e _ => drafted_error c e) ?_
  rintro ⟨err, d'⟩ hd'
  have hd' := hd' err d' rfl
  dsimp only
  split
  · exact drafted_ok hd' err
  · split
    · exact drafted_ok (hd'.setCondition _ _) _
    · have hset := (hd'.setCondition env.now (clusterMetadataCondition none)).setStatus
      split
      · exact drafted_ok (hset _) _
      · exact drafted_ok (hset _) none

/-! ## The calls -/

/-- A call keeps to its efforts, whatever it returns. -/
abbrev Honest (n : String) (m : Proc Unit) (w : World) : Prop := Keeps n m (fun _ _ => True) w

theorem honest_finishReconcile (isClusterLocal : Bool) (err : Option Failure) {d : Draft}
    (hb : w.Basis n c) (hd : d.Over c) (hf : d.cluster.status.state = .disabled ∨ d.Of c) :
    Honest n (finishReconcile env isClusterLocal err d) w := by
  unfold finishReconcile
  split
  · exact Ensures.bind (keeps_updateCluster hb hd hf) (fun _ _ _ => trivial) fun _ _ _ => trivial
  · exact trivial

theorem honest_reconcileEnabled (isClusterLocal : Bool) {d : Draft} (hb : w.Basis n c)
    (hd : d.Of c) : Honest n (reconcileEnabled env isClusterLocal d) w := by
  have hdraft : ((if isClusterLocal then reconcileLocalCluster else reconcileRemoteCluster)
      env d).Yields World.journal (Drafted c) := by
    cases isClusterLocal with
    | true => exact yields_reconcileLocalCluster env hd
    | false => exact yields_reconcileRemoteCluster env hd
  refine Ensures.bind (keeps_of_yields hdraft (fun _ _ h => h.basis) hb) (fun _ _ _ => trivial) ?_
  rintro ⟨err, d'⟩ t ⟨hd', hbt⟩
  have hset := (hd' err d' rfl).setCondition env.now (clusterReadyCondition none)
  exact honest_finishReconcile env isClusterLocal err hbt hset.toOver (.inr hset)

theorem honest_reconcileDisabled (isClusterLocal : Bool) {d : Draft} (hb : w.Basis n c)
    (hd : d.Over c) : Honest n (reconcileDisabled env isClusterLocal d) w := by
  refine Ensures.bind (keeps_of_yields (journal_removeIfFound _).yields (fun _ _ h => h.basis) hb)
    (fun _ _ _ => trivial) fun _ t ht => ?_
  have hdis : d.disable.Over c := ⟨hd.name, hd.version, keyed_empty⟩
  refine Ensures.bind (keeps_updateCluster ht.2 hdis (.inl rfl)) (fun _ _ _ => trivial) ?_
  intro d' t ht
  obtain ⟨c', hb', hd', hstate⟩ := ht rfl rfl d' rfl
  exact honest_finishReconcile env isClusterLocal none hb' hd' (.inl hstate)

theorem honest_reconcileAs (isClusterLocal : Bool) (hb : w.Basis n c) :
    Honest n (reconcileAs env isClusterLocal c) w := by
  refine Ensures.bind (keeps_of_yields (yields_resetStatus env isClusterLocal c)
    (fun _ _ h => h.basis) hb) (fun _ _ _ => trivial) ?_
  rintro status t ⟨hstatus, hbt⟩
  have hof := Draft.of_read c status (hstatus status rfl)
  split
  · exact honest_reconcileDisabled env isClusterLocal hbt hof.toOver
  · exact honest_reconcileEnabled env isClusterLocal hbt hof

end

theorem keeps_getCluster (fault : Option Err) (hv : w.Versioned n) :
    Keeps n (getCluster fault n) (fun r t => ∀ c, r = .ok c → t.Basis n c) w := by
  refine ensures_atomic fun t ht => ?_
  have hvt := ht.versioned hv
  cases fault with
  | some e => exact ⟨.still rfl, no_value⟩
  | none =>
    refine ⟨.still rfl, fun c hc => ?_⟩
    cases hget : t.clusters.get n with
    | none =>
      simp only [hget] at hc
      cases hc
    | some c' =>
      simp only [hget] at hc
      cases hc
      exact ⟨hvt, Table.key_of_get hget, hvt _ hget, .inl hget⟩

theorem honest_reconcile (env : Env) (hv : w.Versioned n) : Honest n (reconcile env n) w := by
  refine Ensures.bind (keeps_of_yields (journal_setClusterID env).yields (fun _ _ h => h.versioned)
    hv) (fun _ _ _ => trivial) fun _ t ht => ?_
  refine Ensures.bindAttempt (keeps_getCluster env.get ht.2) ?_
  rintro (e | cluster) t ht
  · show Honest n (if e.err.reason = .notFound then _ else _) t
    split
    · have hgone : Quiet World.journal
          (do removeIfFound n; triggerLocalClusterReconciles env) :=
        Quiet.bind (journal_removeIfFound n) fun _ => journal_triggerLocalClusterReconciles env
      exact (keeps_of_yields hgone.yields (I := fun _ => True) (fun _ _ _ h => h) trivial).mono
        fun _ _ _ => trivial
    · exact trivial
  · refine Ensures.bind (keeps_of_yields (Quiet.read _).yields (fun _ _ h => h.basis)
      (ht cluster rfl)) (fun _ _ _ => trivial) fun clusterID t ht => ?_
    exact honest_reconcileAs env _ ht.2

section

open RemoteClusterReconciler

variable (env : RemoteEnv)

theorem yields_syncClusters : (syncClusters env).Yields World.journal fun _ => True := by
  refine Yields.after (journal_answer _ _).attempt (fun _ => trivial) ?_
  rintro (e | items)
  · exact trivial
  · dsimp only
    split
    · exact trivial
    · split <;> exact trivial

theorem yields_reconcileDraft (clusterID : String) {d : Draft} (hd : d.Of c) :
    (reconcileDraft env clusterID d).Yields World.journal (Drafted c) := by
  unfold reconcileDraft
  split
  · exact drafted_ok hd _
  · split
    · exact drafted_ok ((hd.setCondition _ _).setCondition _ _) _
    · refine Yields.bind (yields_syncClusters env) (fun e _ => drafted_error c e) fun err _ => ?_
      exact drafted_ok (((hd.setCondition _ _).setStatus _).setCondition _ _) none

theorem Draft.Of.noteError {d : Draft} (hd : d.Of c) (err : Option Failure) :
    (noteError env err d).Of c := by
  cases err with
  | none => exact hd
  | some e => exact hd.setCondition _ _

theorem honest_remote (hv : w.Versioned n) :
    Honest n (RemoteClusterReconciler.reconcile env n) w := by
  refine Ensures.bind (Q := fun _ t => t.Versioned n) (Ensures.mapError (ensures_ofExcept ?_))
    (fun _ _ _ => trivial) fun clusterID t ht => ?_
  · cases env.clusterID <;> exact hv
  refine Ensures.bindAttempt (keeps_getCluster env.get ht) ?_
  rintro (e | cluster) t ht
  · dsimp only
    split <;> exact trivial
  · have hdraft := yields_reconcileDraft env clusterID
      (Draft.of_read cluster cluster.status.reset rfl)
    refine Ensures.bind (keeps_of_yields hdraft (fun _ _ h => h.basis) (ht cluster rfl))
      (fun _ _ _ => trivial) ?_
    rintro ⟨err, d⟩ t ⟨hd, hbt⟩
    have hof := (hd err d rfl).noteError env err
    exact Ensures.bind (keeps_updateCluster hbt hof.toOver (.inr hof)) (fun _ _ _ => trivial)
      fun _ _ _ => trivial

end

end

/-! ## Runs -/

/-- The update that set the condition last, and those after it, are in `P`. -/
def SinceSet (t : ClusterConditionType) (P : StatusWrite → Prop) : List StatusWrite → Prop
  | [] => True
  | e :: earlier => P e ∧ (e.value t = none → SinceSet t P earlier)

instance decidableSinceSet (t : ClusterConditionType) (P : StatusWrite → Prop)
    [DecidablePred P] : DecidablePred (SinceSet t P)
  | [] => inferInstanceAs (Decidable True)
  | e :: earlier =>
    have := decidableSinceSet t P earlier
    inferInstanceAs (Decidable (P e ∧ (e.value t = none → SinceSet t P earlier)))

theorem SinceSet.and {t : ClusterConditionType} {P Q : StatusWrite → Prop}
    {writes : List StatusWrite} (hP : SinceSet t P writes) (hQ : SinceSet t Q writes) :
    SinceSet t (fun e => P e ∧ Q e) writes := by
  induction writes with
  | nil => trivial
  | cons e earlier ih => exact ⟨⟨hP.1, hQ.1⟩, fun h => ih (hP.2 h) (hQ.2 h)⟩

/-- What is stored for every condition is the latest that was set for it, as long
as no update since then was a retry or leaves the condition out. -/
def World.Kept (n : String) (w : World) : Prop :=
  ∀ t status, SinceSet t (fun e => e.retried = false ∧ ¬e.Drops t) w.writes →
    w.writes.findSome? (·.value t) = some status →
      ∃ c, w.clusters.get n = some c ∧ held c.status.conditions t = some status ∧
        (c.status.conditions.find? (·.type = t)).map (·.status) = some status

/-- **One section** keeps what is stored. -/
theorem Effort.kept {n : String} {w w' : World} (h : Effort n w w') (hk : w.Kept n) :
    w'.Kept n := by
  cases h with
  | still h =>
    obtain ⟨hclusters, -, hwrites⟩ : w'.clusters = w.clusters ∧ w'.rev = w.rev ∧
        w'.writes = w.writes := by
      simpa [World.journal] using h
    unfold World.Kept
    rw [hclusters, hwrites]
    exact hk
  | update e cur hcur hget hrev hwrites hfollows =>
    intro t status hcalm hlatest
    rw [hwrites] at hcalm hlatest
    obtain ⟨⟨hretried, hkeeps⟩, hearlier⟩ := hcalm
    obtain ⟨hheld, hfind⟩ := hfollows hretried t hkeeps
    refine ⟨_, hget, ?_⟩
    have hstored : held e.status.conditions t = some status := by
      rw [hheld]
      rw [List.findSome?_cons] at hlatest
      cases hv : e.value t with
      | some v =>
        rw [hv] at hlatest
        exact hlatest
      | none =>
        rw [hv] at hlatest
        obtain ⟨c, hc, hold, -⟩ := hk t status (hearlier hv) hlatest
        cases hcur.symm.trans hc
        exact hold
    exact ⟨hstored, hfind.trans hstored⟩

/-- The state, and what is left of the two calls. -/
structure Writers where
  world : World
  calls : Writer → Proc Unit

/-- One of the two runs its next section. -/
def Writers.step (s : Writers) (who : Writer) : Writers :=
  match s.calls who with
  | sect upd next => ⟨upd s.world, Function.update s.calls who (next s.world)⟩
  | _ => s

/-- Both calls for the resource `n`, in any interleaving. -/
def writers (env : Env) (remote : RemoteEnv) (n : String) : System Writers Writer where
  init := fun s => s.world.Versioned n ∧ s.world.writes = [] ∧ s.calls = fun
    | .clusterReconciler => reconcile env n
    | .remoteClusterReconciler => RemoteClusterReconciler.reconcile remote n
  ok := fun _ _ _ => True
  step := Writers.step

theorem evolves_refl (n : String) (w : World) : Evolves n w w := evolves_of_journal rfl

theorem kept_step {n : String} {s : Writers} (who : Writer)
    (h : (∀ who, Honest n (s.calls who) s.world) ∧ s.world.Kept n) :
    (∀ who', Honest n ((s.step who).calls who') (s.step who).world) ∧
      (s.step who).world.Kept n := by
  obtain ⟨hhonest, hkept⟩ := h
  unfold Writers.step
  split
  · next upd next hcall =>
    obtain ⟨heffort, hnext⟩ : Effort n s.world (upd s.world) ∧
        Honest n (next s.world) (upd s.world) := by
      have := hhonest who
      rw [hcall] at this
      exact this s.world (evolves_refl n _)
    refine ⟨fun who' => ?_, heffort.kept hkept⟩
    dsimp only
    by_cases e : who' = who
    · subst e
      rw [Function.update_self]
      exact hnext
    · rw [Function.update_of_ne e]
      exact Ensures.others (R := Evolves) (k := n) (P := fun _ _ _ => True)
        (fun _ _ _ h h' => h.trans h') (fun _ _ _ _ _ => trivial) (hhonest who') heffort.evolves
  · exact ⟨hhonest, hkept⟩

theorem kept_of_run {env : Env} {remote : RemoteEnv} {n : String} {tr : List (Writers × Writer)}
    {s : Writers} (h : Run (writers env remote n) tr s) : s.world.Kept n := by
  refine (h.invariant (P := fun s => (∀ who, Honest n (s.calls who) s.world) ∧ s.world.Kept n) ?_
    fun _ _ who _ hs _ => kept_step who hs).2
  rintro s ⟨hv, hwrites, hcalls⟩
  refine ⟨fun who => ?_, fun t status _ hlatest => ?_⟩
  · rw [hcalls]
    cases who with
    | clusterReconciler => exact honest_reconcile env hv
    | remoteClusterReconciler => exact honest_remote remote hv
  · rw [hwrites] at hlatest
    cases hlatest

/-- The status that one of the two has set last for the condition, in the
updates it made. -/
def computed (writes : List StatusWrite) (who : Writer) (t : ClusterConditionType) :
    Option ConditionStatus :=
  (writes.filter (·.writer = who)).findSome? (·.value t)

theorem findSome_eq_computed {writes : List StatusWrite} {who : Writer} {t : ClusterConditionType}
    (honly : ∀ e ∈ writes, e.writer ≠ who → e.value t = none) :
    writes.findSome? (·.value t) = computed writes who t := by
  induction writes with
  | nil => rfl
  | cons e rest ih =>
    have hrest := ih fun e' he' => honly e' (List.mem_cons_of_mem _ he')
    unfold computed at hrest ⊢
    by_cases hw : e.writer = who
    · rw [List.filter_cons_of_pos (by simpa using hw), List.findSome?_cons, List.findSome?_cons,
        hrest]
    · rw [List.filter_cons_of_neg (by simpa using hw), List.findSome?_cons,
        honly e (List.mem_cons_self ..) hw, hrest]

/-- **No update is lost** as long as none is a retry: a condition that only one
of the two sets in its updates, and that neither the last of these nor an update
after it leaves out on purpose, is stored with the status that this one has set. -/
theorem no_update_lost {env : Env} {remote : RemoteEnv} {n : String}
    {tr : List (Writers × Writer)} {s : Writers} (h : Run (writers env remote n) tr s)
    {t : ClusterConditionType} (hcalm : SinceSet t (·.retried = false) s.world.writes)
    (hkeeps : SinceSet t (¬·.Drops t) s.world.writes) {who : Writer} {status : ConditionStatus}
    (hset : computed s.world.writes who t = some status)
    (honly : ∀ e ∈ s.world.writes, e.writer ≠ who → e.value t = none) :
    ∃ c, s.world.clusters.get n = some c ∧ (getCurrentCondition c t).status = status := by
  obtain ⟨c, hc, -, hfind⟩ := kept_of_run h t status (hcalm.and hkeeps)
    ((findSome_eq_computed honly).trans hset)
  refine ⟨c, hc, ?_⟩
  obtain ⟨cond, hcond, hstatus⟩ := Option.map_eq_some_iff.mp hfind
  unfold getCurrentCondition
  rw [hcond]
  exact hstatus

instance (e : StatusWrite) (t : ClusterConditionType) : Decidable (e.Drops t) :=
  inferInstanceAs (Decidable (_ ∨ _ ∧ _))

/-- The remote cluster has the ID `remote` and no `Cluster` resources. -/
def RemoteEnv.smooth : RemoteEnv where
  clusterID := .ok "remote"
  clusterMetadata := .ok ""
  remoteClusters := .ok []

/-- The two calls for the resource `a`, with turns as given. -/
def together (w : World) (turns : List Writer) : List (Writers × Writer) × Writers :=
  played (writers .smooth .smooth "a") []
    ⟨w, fun
      | .clusterReconciler => reconcile .smooth "a"
      | .remoteClusterReconciler => RemoteClusterReconciler.reconcile .smooth "a"⟩ turns

theorem run_together {w : World} (hv : w.Versioned "a") (hw : w.writes = [])
    (turns : List Writer) : Run (writers .smooth .smooth "a") (together w turns).1
      (together w turns).2 :=
  Run.plays (.init ⟨hv, hw, rfl⟩) (plays_of_ok (fun _ _ _ => trivial) _ _ _)

/-- A server with one `Cluster` resource, in the cluster with the ID `home`. -/
def World.holding (c : ClusterObject) : World :=
  { kubeSystemUID := "home", clusters := Table.empty.put c }

theorem versioned_holding {a : ClusterObject} (hv : a.resourceVersion = 0) :
    (World.holding a).Versioned "a" := by
  intro c hc
  have hput : (Table.empty.put a).get "a" = some c := hc
  rw [Table.get_put] at hput
  split at hput
  · cases hput
    exact hv.le
  · rw [Table.get_empty] at hput
    cases hput

/-- Both calls have returned. -/
def Writers.finished (s : Writers) : Bool :=
  [Writer.clusterReconciler, Writer.remoteClusterReconciler].all fun who =>
    match s.calls who with
    | sect _ _ => false
    | _ => true

/-- More turns than a call has sections. -/
def turns (who : Writer) : List Writer := List.replicate 10 who

/-- One call after the other. The secret of the cluster is missing, so that
both write the status. -/
def inTurn : List (Writers × Writer) × Writers :=
  together (.holding (peer "a" "s")) (turns .clusterReconciler ++ turns .remoteClusterReconciler)

theorem run_inTurn : Run (writers .smooth .smooth "a") inTurn.1 inTurn.2 :=
  run_together (versioned_holding rfl) rfl _

theorem no_update_lost_inTurn :
    inTurn.2.finished ∧ computed inTurn.2.world.writes .clusterReconciler .localCluster =
      some .conditionFalse ∧
    ∃ c, inTurn.2.world.clusters.get "a" = some c ∧
      (getCurrentCondition c .localCluster).status = .conditionFalse := by
  have hset : computed inTurn.2.world.writes .clusterReconciler .localCluster =
      some .conditionFalse := by decide +kernel
  refine ⟨by decide +kernel, hset, no_update_lost run_inTurn ?_ ?_ hset ?_⟩
  all_goals decide +kernel

/-- The second reconciler reads the resource before the first one writes it, and
writes it afterwards. -/
def crossed : List (Writers × Writer) × Writers :=
  together (.holding (peer "a" "s")) (.remoteClusterReconciler ::
    (turns .clusterReconciler ++ turns .remoteClusterReconciler))

def disabledPeer : ClusterObject :=
  { peer "a" "s" with annotations := Finmap.singleton clusterDisabledAnnotation "" }

/-- The call for the disabled cluster comes second. -/
def clearing : List (Writers × Writer) × Writers :=
  together (.holding disabledPeer) (turns .remoteClusterReconciler ++ turns .clusterReconciler)

/-- The cluster can be connected: the first call has no error to report. -/
def healthy : List (Writers × Writer) × Writers :=
  together joining (turns .clusterReconciler ++ turns .remoteClusterReconciler)

theorem run_crossed : Run (writers .smooth .smooth "a") crossed.1 crossed.2 :=
  run_together (versioned_holding rfl) rfl _

theorem run_clearing : Run (writers .smooth .smooth "a") clearing.1 clearing.2 :=
  run_together (versioned_holding rfl) rfl _

theorem run_healthy : Run (writers .smooth .smooth "a") healthy.1 healthy.2 :=
  run_together (w := joining) (fun c hc => versioned_holding (a := peer "a" "s") rfl c hc) rfl _

/-- The conditions that the first reconciler sets for a remote cluster without
an error. -/
def setForRemote (w : World) (c : ClusterObject) (t : ClusterConditionType) :
    Option ConditionStatus :=
  match ((reconcileRemoteCluster .smooth (startDraft c c.status.reset)).run w).1 with
  | .ok (none, d) => d.value t
  | _ => none

/-- Three runs in which a condition that only one of the two sets is not stored:
`LocalCluster` is overwritten by the retry of the other one; `ClusterMetadata` is
cleared with all the conditions of a disabled cluster; `LocalCluster` of a remote
cluster without an error is not written at all. -/
theorem conditions_not_stored :
    (Run (writers .smooth .smooth "a") crossed.1 crossed.2 ∧ crossed.2.finished ∧
      computed crossed.2.world.writes .clusterReconciler .localCluster = some .conditionFalse ∧
      computed crossed.2.world.writes .remoteClusterReconciler .localCluster = none ∧
      ∀ c ∈ crossed.2.world.clusters.get "a",
        (getCurrentCondition c .localCluster).status ≠ .conditionFalse) ∧
    (Run (writers .smooth .smooth "a") clearing.1 clearing.2 ∧ clearing.2.finished ∧
      computed clearing.2.world.writes .remoteClusterReconciler .clusterMetadata =
        some .conditionTrue ∧
      computed clearing.2.world.writes .clusterReconciler .clusterMetadata = none ∧
      ∀ c ∈ clearing.2.world.clusters.get "a",
        (getCurrentCondition c .clusterMetadata).status ≠ .conditionTrue) ∧
    (Run (writers .smooth .smooth "a") healthy.1 healthy.2 ∧ healthy.2.finished ∧
      setForRemote joining.identified (peer "a" "s") .localCluster = some .conditionFalse ∧
      computed healthy.2.world.writes .remoteClusterReconciler .localCluster = none ∧
      ∀ c ∈ healthy.2.world.clusters.get "a",
        (getCurrentCondition c .localCluster).status ≠ .conditionFalse) := by
  refine ⟨⟨run_crossed, ?_, ?_, ?_, ?_⟩, ⟨run_clearing, ?_, ?_, ?_, ?_⟩,
    ⟨run_healthy, ?_, ?_, ?_, ?_⟩⟩
  all_goals decide +kernel

end ClusterRegistry.Members
