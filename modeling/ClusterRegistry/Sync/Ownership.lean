import ClusterRegistry.Sync.Fleet

/-!
# Whose objects sync touches

What the gates of a reconcile call mean for the objects of a fleet, over
every run: originals are never touched, and copies of a live cluster only by
the reconciler of that cluster.
-/

namespace ClusterRegistry.Sync

open Lib Clusters

section

variable {x : External} {r : SyncReconciler} {s : ApiServer} {env : Env} {req : NamespacedName}

/-- Every main call of a reconcile call is on an absent object or on a copy that
no other live cluster owns. -/
theorem reconciled_calls_owned {call : Call} (hc : call ∈ (reconciled x r s env req).calls)
    {k : Key} (hk : call.mainKey = some k) {o : Obj} (ho : s.get k = some o) :
    o.owner ≠ "" ∧ isOwnedByAnotherAliveCluster env r o.owner = false := by
  obtain ⟨_, -, hg⟩ := reconciled_issued.allowed (P := fun _ => True) (fun _ _ _ _ _ _ => trivial)
    trivial call hc
  exact hg.owned hk ho

/-- An object that no main call is on keeps all but its status. -/
theorem reconciled_get {k : Key} {o : Obj} (ho : s.get k = some o)
    (hk : ∀ call ∈ (reconciled x r s env req).calls, call.mainKey ≠ some k) :
    ∃ status version, (reconciled x r s env req).server.get k =
      some { o with status := status, resourceVersion := version } := by
  refine Issued.keeps_mem reconciled_issued
    (P := fun t => ∃ status version, t.get k =
      some { o with status := status, resourceVersion := version })
    (fun t call t' hc ht ha => ?_) ⟨o.status, o.resourceVersion, ho⟩
  obtain ⟨status, version, ht⟩ := ht
  rcases Call.get_apply ha (hk call hc) with e | ⟨cur, status', version', hcur, e⟩
  · exact ⟨status, version, e.trans ht⟩
  · rw [ht] at hcur
    cases hcur
    exact ⟨status', version', e⟩

end

/-- **Originals are never touched.** No reconcile step of any run creates,
updates or deletes under the key of a local object without an owner, and the
object keeps all but its status and resource version. -/
theorem originals_untouched (P : Setting) (tr : List (Fleet × Act)) (f : Fleet)
    (_ : Run (fleet P) tr f) (t : Fleet) (c : String) (id : RecID) (req : NamespacedName)
    (env : Env) (_ : (t, Act.reconcile c id req env) ∈ tr) (r : SyncReconciler)
    (hr : (t c).reconcilers.lookup id = some r) (k : Key) (o : Obj)
    (ho : (t c).server.get k = some o) (hown : o.owner = "") :
    (∀ call ∈ (reconciled P.x r (t c).server env req).calls, call.mainKey ≠ some k) ∧
    ∃ status version, (t.step P.x (.reconcile c id req env) c).server.get k =
      some { o with status := status, resourceVersion := version } := by
  have hmain : ∀ call ∈ (reconciled P.x r (t c).server env req).calls, call.mainKey ≠ some k :=
    fun call hc hk => (reconciled_calls_owned hc hk ho).1 hown
  have hstep : t.step P.x (.reconcile c id req env) c = (t c).step P.x (.reconcile c id req env) :=
    Fleet.step_self P.x t (.reconcile c id req env)
  rw [hstep, Node.step_reconcile hr]
  exact ⟨hmain, reconciled_get ho hmain⟩

section

open Sample

/-- The same object was made on both clusters. -/
def madeTwice : List (Fleet × Act) × Fleet :=
  played (fleet { x := .bare }) [] (fun _ => {})
    [.userCreate "L" key obj, .userCreate "R" key obj, .start "L" ⟨"rule", "R"⟩ (syncing "L" "R")]

theorem originals_untouched_madeTwice :
    (madeTwice.2 "L").server.get key = some stored ∧
    ∃ status version, (madeTwice.2.step .bare (.reconcile "L" ⟨"rule", "R"⟩ req
      (reading madeTwice.2 "L" (.ok stored))) "L").server.get key =
        some { stored with status := status, resourceVersion := version } := by
  have hrun : Run (fleet { x := .bare }) madeTwice.1 madeTwice.2 :=
    .plays (.init ⟨trivial, fun _ => ⟨rfl, rfl⟩⟩) ⟨trivial, trivial, trivial, trivial⟩
  have hread : Reads (servers "R" madeTwice.1 madeTwice.2) key (.ok stored) :=
    ⟨_, List.mem_cons_self, rfl⟩
  have hrun' := hrun.step
    (Act.reconcile "L" ⟨"rule", "R"⟩ req (reading madeTwice.2 "L" (.ok stored)))
    ⟨nofun, rfl, _, rfl, hread⟩
  exact ⟨rfl, (originals_untouched { x := .bare } _ _ hrun' madeTwice.2 "L" _ _ _
    List.mem_cons_self (syncing "L" "R") rfl key stored rfl rfl).2⟩

end

/-! ## Deletion -/

theorem Gate.delete_found {x : External} {env : Env} {r : SyncReconciler} {s₀ s : ApiServer}
    {k : Key} (h : Gate x env r s₀ s (.delete k)) : ∃ cur, s₀.get k = some cur := by
  cases h with
  | delete _ hc _ _ => exact ⟨_, hc⟩
  | clear _ _ hc _ => exact ⟨_, hc⟩

/-- **Copies of a live cluster are deleted for that cluster only.** Whatever the
order of events, registrations and liveness changes: when the reconciler for
a remote cluster deletes a copy that another cluster owns, that cluster is not
alive in the manager at this moment. -/
theorem delete_spares_live_owner (P : Setting)
    (hP : ∀ c id r, P.reconciler c id r → r.clusterID = id.remote)
    (tr : List (Fleet × Act)) (f : Fleet) (h : Run (fleet P) tr f) (t : Fleet) (c : String)
    (id : RecID) (req : NamespacedName) (env : Env)
    (hm : (t, Act.reconcile c id req env) ∈ tr) (r : SyncReconciler)
    (hr : (t c).reconcilers.lookup id = some r) (k : Key)
    (hk : Call.delete k ∈ (reconciled P.x r (t c).server env req).calls) :
    ∃ o, (t c).server.get k = some o ∧ o.owner ≠ "" ∧
      (o.owner ≠ id.remote → (t c).manager.aliveByID o.owner = false) := by
  obtain ⟨tr', hrun, -, halive, -⟩ := h.of_mem hm
  obtain ⟨r₀, h0, hs⟩ := reconcilers_of_run hrun hr
  obtain ⟨_, -, hg⟩ := reconciled_issued.allowed (P := fun _ => True) (fun _ _ _ _ _ _ => trivial)
    trivial _ hk
  obtain ⟨o, ho⟩ := hg.delete_found
  obtain ⟨hne, hother⟩ := hg.owned rfl ho
  refine ⟨o, ho, hne, fun howner => ?_⟩
  have hid : r.clusterID = id.remote := hs.clusterID.trans (hP c id r₀ h0)
  rw [← hid] at howner
  rw [← halive]
  simpa [isOwnedByAnotherAliveCluster, hne, howner] using hother

section

open Sample

/-- Reconcilers carry the ID of their remote cluster and answer events. -/
def eventDriven : Setting :=
  { x := .bare, driven := true, reconciler := fun _ id r => r.clusterID = id.remote }

/-- `L` copies the object from `A`. -/
def copied : List (Fleet × Act) × Fleet :=
  played (fleet eventDriven) [] (fun _ => {})
    [.manage "L" (knows [("A", true), ("R", true)]), .start "L" ⟨"rule", "A"⟩ (syncing "L" "A"),
      .userCreate "A" key obj, .remoteEvent "L" ⟨"rule", "A"⟩ (.create stored),
      .reconcile "L" ⟨"rule", "A"⟩ req
        { source := .ok stored, alive := (knows [("A", true), ("R", true)]).aliveByID }]

/-- Then `A` dies, and the local informer shows the copy to the reconciler for `R`. -/
def ownerDied : List (Fleet × Act) × Fleet :=
  played (fleet eventDriven) copied.1 copied.2
    [.manage "L" (knows [("A", false), ("R", true)]), .start "L" ⟨"rule", "R"⟩ (syncing "L" "R"),
      .localEvent "L" ⟨"rule", "R"⟩ (.create (copyOf "A"))]

theorem run_ownerDied :
    Run (fleet eventDriven) ownerDied.1 ownerDied.2 := by
  refine .plays (.plays (.init ⟨trivial, fun _ => ⟨rfl, rfl⟩⟩) ?_) ?_
  · refine ⟨trivial, rfl, trivial, ⟨_, rfl, ?_, fun o ho => ?_⟩, ⟨fun _ => ?_, rfl, _, rfl, ?_⟩,
      trivial⟩
    · decide +kernel
    · obtain rfl := List.mem_singleton.mp ho
      exact ⟨rfl, _, List.mem_cons_self, rfl⟩
    · exact List.mem_singleton_self _
    · exact ⟨_, List.mem_cons_self, rfl⟩
  · refine ⟨trivial, rfl, ⟨_, rfl, ?_, fun o ho => ?_⟩, trivial⟩
    · decide +kernel
    · obtain rfl := List.mem_singleton.mp ho
      exact ⟨rfl, _, List.mem_cons_self, by decide +kernel⟩

/-- The reconciler for `R` does not find the object. -/
theorem ok_notFound : (fleet eventDriven).ok ownerDied.1 ownerDied.2
    (.reconcile "L" ⟨"rule", "R"⟩ req (reading ownerDied.2 "L" notFound)) :=
  ⟨fun _ => by decide, rfl, _, rfl, fun _ => ⟨_, List.mem_cons_self, rfl⟩⟩

theorem calls_notFound : (reconciled .bare (syncing "L" "R") (ownerDied.2 "L").server
    (reading ownerDied.2 "L" notFound) req).calls = [.delete key] := rfl

theorem delete_spares_live_owner_ownerDied : ∃ o, (ownerDied.2 "L").server.get key = some o ∧
    o.owner ≠ "" ∧ (o.owner ≠ "R" → (ownerDied.2 "L").manager.aliveByID o.owner = false) :=
  delete_spares_live_owner eventDriven (fun _ _ _ h => h) _ _ (run_ownerDied.step _ ok_notFound) _
    "L" _ _ _ List.mem_cons_self (syncing "L" "R") rfl key
    (by rw [show eventDriven.x = .bare from rfl, calls_notFound]; exact List.mem_singleton_self _)

/-- The reconciler for `R` deletes the copy, and `R` never had the object. -/
theorem dead_owner_deleted :
    let env := reading ownerDied.2 "L" notFound
    let a := Act.reconcile "L" ⟨"rule", "R"⟩ req env
    Run (fleet eventDriven) ((ownerDied.2, a) :: ownerDied.1)
      (ownerDied.2.step .bare a) ∧
    (ownerDied.2 "L").reconcilers.lookup ⟨"rule", "R"⟩ = some (syncing "L" "R") ∧
    Call.delete key ∈ (reconciled .bare (syncing "L" "R") (ownerDied.2 "L").server env req).calls ∧
    (ownerDied.2 "L").server.get key = some (copyOf "A") ∧ (copyOf "A").owner = "A" ∧
    ∀ s ∈ servers "R" ((ownerDied.2, a) :: ownerDied.1) (ownerDied.2.step .bare a),
      s.get key = none := by
  intro env a
  have hR : servers "R" ((ownerDied.2, a) :: ownerDied.1) (ownerDied.2.step .bare a) =
    List.replicate 10 .empty := rfl
  refine ⟨run_ownerDied.step a ok_notFound, rfl, ?_, by decide +kernel, by decide, fun s hs => ?_⟩
  · rw [calls_notFound]; exact List.mem_singleton_self _
  · rw [hR] at hs; rw [List.eq_of_mem_replicate hs, ApiServer.get_empty]

end

end ClusterRegistry.Sync
