import ClusterRegistry.Sync.Fleet

/-!
# Which object a deletion hits

`deleteResource` looks for the copy of a source object by the source's name,
or, once the running instance has renamed or moved anything, by labels.
`deleteResource_calls_iff` says when a given stored object is the one it
deletes. Over the life of a reconciler, restarts included, this turns into an
exact condition on what was synced (`delete_hits_copy_iff`).
-/

namespace ClusterRegistry.Sync

open Lib Lib.Eff

/-! ## One call -/

/-- The object the lookup starts from, of the kind of the copies. -/
def sought (r : SyncReconciler) (obj : Obj) : Obj :=
  if r.gvk != r.localGVK then { obj with gvk := r.localGVK } else obj

/-- The label lookup for the source object `obj` selects `o`. -/
def Labelled (r : SyncReconciler) (obj o : Obj) : Prop :=
  renamedFrom (sought r obj).gvk ((obj.labels.lookup originalNamespaceLabel).getD obj.namespace)
    ((obj.labels.lookup originalNameLabel).getD obj.name) r.clusterID o = true

/-- The lookup of `deleteResource` finds `c`: by labels that no other stored
object has if something was renamed or moved, else by its key. -/
def FindsCopy (r : SyncReconciler) (renamed : Prop) (s : ApiServer) (obj c : Obj) : Prop :=
  (renamed → (sought r obj).gvk.version ≠ "" ∧ (sought r obj).gvk.kind ≠ "" ∧
      ∀ k o, s.get k = some o → (Labelled r obj o ↔ o = c)) ∧
  (¬renamed → gvkForObject (sought r obj) = .ok c.gvk ∧ obj.nn = c.nn)

section

variable {env : Env} {st : SyncState} {obj c : Obj}

/-- `deleteResource` finds `o` in the place of `c`. -/
def Hits (env : Env) (obj : Obj) (st : SyncState) (o c : Obj) : Prop :=
  findCurrent env obj st = (.ok (some o), st) ∧ gvkForObject o = .ok c.gvk ∧ o.nn = c.nn

theorem renamedFrom_gvk {gvk : GVK} {ns name clusterID : String} {o : Obj}
    (h : renamedFrom gvk ns name clusterID o = true) : o.gvk = gvk := by
  unfold renamedFrom at h
  simp only [Bool.and_eq_true, beq_iff_eq] at h
  exact h.1.1.1

theorem gvkForObject_unstructured {o : Obj} {gvk : GVK} (ht : o.goType = none) :
    gvkForObject o = .ok gvk ↔ o.gvk.kind ≠ "" ∧ o.gvk.version ≠ "" ∧ o.gvk = gvk := by
  unfold gvkForObject
  rw [ht]
  by_cases hk : o.gvk.kind = ""
  · simp [hk]
  · by_cases hv : o.gvk.version = "" <;> simp [hk, hv]

theorem gvkForObject_readInto {into stored : Obj} (h : gvkForObject into = .ok stored.gvk) :
    gvkForObject (readInto into stored) = .ok stored.gvk := by
  cases ht : into.goType with
  | some t => simp only [gvkForObject, readInto, ht] at h ⊢; exact h
  | none =>
    rw [gvkForObject_unstructured ht] at h
    rw [gvkForObject_unstructured (show (readInto into stored).goType = none from ht)]
    exact ⟨h.2.2 ▸ h.1, h.2.2 ▸ h.2.1, rfl⟩

/-- The label lookup finds an object when it is the only one selected. -/
theorem getObjectByOriginalNamespaceAndName_found (hf : env.faults = {}) {gvk : GVK} {o : Obj} :
    getObjectByOriginalNamespaceAndName env obj gvk st = (.ok (some o), st) ↔
      gvk.version ≠ "" ∧ ∃ o', o = { o' with goType := none } ∧
        st.server.list (renamedFrom gvk
          ((obj.labels.lookup originalNamespaceLabel).getD obj.namespace)
          ((obj.labels.lookup originalNameLabel).getD obj.name) st.r.clusterID) = [o'] := by
  unfold getObjectByOriginalNamespaceAndName
  rw [get_bind, hf]
  dsimp only
  by_cases hv : gvk.version = ""
  · rw [if_pos hv, bind_of_error (show throw _ st = (.error _, st) from rfl)]
    simp [hv]
  · rw [if_neg hv]
    generalize st.server.list _ = l
    rcases l with _ | ⟨o', _ | ⟨o'', l⟩⟩
    · simp [Pure.pure, Eff.pure]
    · simp [Pure.pure, Eff.pure, hv, eq_comm]
    · simp [Eff.throw]

theorem hits_labelled_iff (hf : env.faults = {}) (hr : st.r.hasMutated = true)
    (hc : st.server.get c.key = some c) : (∃ o, Hits env obj st o c) ↔
      (sought st.r obj).gvk.version ≠ "" ∧ (sought st.r obj).gvk.kind ≠ "" ∧
        ∀ k o, st.server.get k = some o → (Labelled st.r obj o ↔ o = c) := by
  have hfind : findCurrent env obj st =
      getObjectByOriginalNamespaceAndName env obj (sought st.r obj).gvk st := by
    unfold findCurrent
    rw [get_bind]
    exact congrFun (if_pos hr) st
  unfold Hits Labelled
  rw [← ApiServer.list_eq_singleton hc, hfind]
  simp only [getObjectByOriginalNamespaceAndName_found hf]
  constructor
  · rintro ⟨o, ⟨hv, o', rfl, hl⟩, hg, hnn⟩
    obtain ⟨hk, -, hgvk⟩ := (gvkForObject_unstructured rfl).mp hg
    have hmem : o' ∈ st.server.list _ := hl ▸ List.mem_singleton_self o'
    have ho' : st.server.get o'.key = some o' := Table.mem_toList.mp (List.mem_filter.mp hmem).1
    have hkey : o'.key = c.key := by
      rw [← Obj.key_of_nn hnn, ← hgvk]; rfl
    have e : o' = c := Option.some.inj (ho'.symm.trans (hkey ▸ hc))
    subst e
    have hsel := (List.mem_filter.mp hmem).2
    refine ⟨hv, ?_, hl⟩
    rwa [← renamedFrom_gvk hsel]
  · rintro ⟨hv, hk, hl⟩
    have hmem : c ∈ st.server.list _ := hl ▸ List.mem_singleton_self c
    have hgvk := renamedFrom_gvk (List.mem_filter.mp hmem).2
    refine ⟨_, ⟨hv, c, rfl, hl⟩, (gvkForObject_unstructured rfl).mpr ?_, rfl⟩
    rw [← hgvk] at hv hk
    exact ⟨hk, hv, rfl⟩

theorem hits_named_iff (hf : env.faults = {}) (hr : ¬st.r.hasMutated = true)
    (hc : st.server.get c.key = some c) : (∃ o, Hits env obj st o c) ↔
      gvkForObject (sought st.r obj) = .ok c.gvk ∧ obj.nn = c.nn := by
  have hfind : findCurrent env obj st = localGet none (sought st.r obj) obj.nn st := by
    unfold findCurrent
    rw [get_bind, hf]
    exact congrFun (if_neg hr) st
  unfold Hits
  rw [hfind]
  unfold localGet
  cases hg : gvkForObject (sought st.r obj) with
  | error e =>
    rw [lift_error_bind]
    simp
  | ok gvk =>
    rw [lift_ok_bind]
    dsimp only
    rw [get_bind]
    constructor
    · rintro ⟨o, hget, ho, hnn⟩
      obtain ⟨stored, hs, rfl⟩ := Option.map_eq_some_iff.mp (Except.ok.inj (Prod.mk.inj hget).1)
      have hkey := (readAt_readInto hg hs).addr c.gvk ho
      simp only [Key.mk.injEq] at hkey
      refine ⟨congrArg _ hkey.1.symm, Eq.trans ?_ hnn⟩
      unfold Obj.nn
      rw [hkey.2.1, hkey.2.2]
      rfl
    · rintro ⟨hgvk, hnn⟩
      cases hgvk
      have hs : st.server.get ⟨c.gvk, obj.nn.namespace, obj.nn.name⟩ = some c := by
        rw [hnn]; exact hc
      refine ⟨readInto (sought st.r obj) c, by rw [hs]; rfl, gvkForObject_readInto hg, rfl⟩

theorem hits_iff_findsCopy (hf : env.faults = {}) (hc : st.server.get c.key = some c) :
    (∃ o, Hits env obj st o c) ↔ FindsCopy st.r (st.r.hasMutated = true) st.server obj c := by
  by_cases hr : st.r.hasMutated = true
  · rw [hits_labelled_iff hf hr hc]
    exact ⟨fun h => ⟨fun _ => h, fun hn => absurd hr hn⟩, fun h => h.1 hr⟩
  · rw [hits_named_iff hf hr hc]
    exact ⟨fun h => ⟨fun hn => absurd hn hr, fun _ => h⟩, fun h => h.2 hr⟩

/-! ## The Delete call -/

/-- The state after a write call, taken or refused. -/
def SyncState.issued (st : SyncState) (call : Call) : SyncState :=
  { st with
    server := attempted st.server (call.apply st.server)
    calls := st.calls ++ [call] }

theorem issue_ends (call : Call) :
    Ends (issue none call) (fun _ st' => st' = st.issued call) st := by
  unfold issue SyncState.issued
  simp only [ends_bind, ends_modify, ends_get]
  split
  · next h => rw [h]; rfl
  · next h => rw [h]; rfl

theorem deleteObject_final {o : Obj} {gvk : GVK} (hf : env.faults = {})
    (hg : gvkForObject o = .ok gvk) :
    (deleteObject env o st).2 = st.issued (.delete ⟨gvk, o.namespace, o.name⟩) := by
  show Ends (deleteObject env o) (fun _ st' => st' = _) st
  unfold deleteObject
  simp only [ends_bind, ends_lift, hg, ends_attempt, hf]
  refine (issue_ends _).mono fun res st' h => ?_
  subst h
  cases res with
  | ok _ => rfl
  | error e => simp only [ends_ite, ends_throw, ends_pure, ite_self]

/-- A stored object that was read in the place of `c` has the owner of `c`. -/
theorem ReadAt.owner_eq {s : ApiServer} {k : Key} {o : Obj} (h : ReadAt s k o)
    (hg : gvkForObject o = .ok c.gvk) (hnn : o.nn = c.nn) (hc : s.get c.key = some c) :
    o.owner = c.owner := by
  obtain ⟨stored, hs, ha⟩ := h.get
  have hk : c.key = k := (Obj.key_of_nn hnn).symm.trans (h.addr _ hg)
  rw [hk, hs] at hc
  cases hc
  unfold Obj.owner
  rw [ha]

theorem deleteTarget_found {o : Obj} : deleteTarget env obj st = (.ok (some o), st) ↔
    findCurrent env obj st = (.ok (some o), st) ∧ o.owner ≠ "" ∧
      isOwnedByAnotherAliveCluster env st.r o.owner = false := by
  have hst := findCurrent_ends env st obj
  unfold Ends at hst
  unfold deleteTarget
  rcases hres : findCurrent env obj st with ⟨e | _ | o', st'⟩
  · rw [bind_of_error hres]; simp
  · rw [bind_of_ok hres]; simp [Pure.pure, Eff.pure]
  · rw [hres] at hst
    obtain rfl := hst.1
    rw [bind_of_ok hres]
    dsimp only
    have hok : ∀ found, (Pure.pure found : SyncM (Option Obj)) st' = (.ok found, st') :=
      fun _ => rfl
    by_cases ho : o'.owner = ""
    · rw [if_pos ho, hok]
      exact ⟨fun h => (by cases h), fun ⟨h, hne, _⟩ => by cases h; exact absurd ho hne⟩
    · rw [if_neg ho, get_bind]
      by_cases ha : isOwnedByAnotherAliveCluster env st'.r o'.owner = true
      · rw [if_pos ha, hok]
        refine ⟨fun h => (by cases h), fun ⟨h, _, hal⟩ => ?_⟩
        cases h
        rw [ha] at hal; cases hal
      · rw [if_neg ha, hok]
        exact ⟨fun h => by cases h; exact ⟨rfl, ho, by simpa using ha⟩, fun h => h.1⟩

/-- A deletion without API errors is one `Delete` call on the target, or nothing. -/
theorem deleteResource_cases (st : SyncState) (obj : Obj) (hf : env.faults = {}) :
    (∃ o gvk, deleteTarget env obj st = (.ok (some o), st) ∧ gvkForObject o = .ok gvk ∧
      (deleteResource env obj st).2 = st.issued (.delete ⟨gvk, o.namespace, o.name⟩)) ∨
    (∀ o gvk, deleteTarget env obj st = (.ok (some o), st) → gvkForObject o ≠ .ok gvk) ∧
      (deleteResource env obj st).2 = st := by
  have hst := deleteTarget_ends env st obj
  unfold Ends at hst
  unfold deleteResource
  rcases hres : deleteTarget env obj st with ⟨e | _ | o, st'⟩ <;> rw [hres] at hst <;>
    obtain rfl := hst.1
  · exact .inr ⟨fun o gvk h => (by cases h), by rw [bind_of_error hres]⟩
  · exact .inr ⟨fun o gvk h => (by cases h), by rw [bind_of_ok hres]; rfl⟩
  · rw [bind_of_ok hres]
    cases hg : gvkForObject o with
    | ok gvk => exact .inl ⟨o, gvk, rfl, hg, deleteObject_final hf hg⟩
    | error e =>
      refine .inr ⟨fun o' gvk h hg' => ?_, ?_⟩
      · cases h; rw [hg] at hg'; cases hg'
      · unfold deleteObject
        simp only
        rw [hg, lift_error_bind]

theorem not_ownedByAnother (env : Env) {r : SyncReconciler} {owner : String}
    (h : owner = r.clusterID) : isOwnedByAnotherAliveCluster env r owner = false := by
  unfold isOwnedByAnotherAliveCluster
  rw [h]; simp

/-- **Exactly one Delete**, and on the stored object `c`: when the lookup finds `c`. -/
theorem deleteResource_calls_iff (hf : env.faults = {}) (hst : st.calls = [])
    (hc : st.server.get c.key = some c) (hne : c.owner ≠ "")
    (hal : isOwnedByAnotherAliveCluster env st.r c.owner = false) :
    (deleteResource env obj st).2.calls = [.delete c.key] ↔
      FindsCopy st.r (st.r.hasMutated = true) st.server obj c := by
  rw [← hits_iff_findsCopy hf hc]
  constructor
  · intro hcalls
    rcases deleteResource_cases st obj hf with
      ⟨o, gvk, ht, hg, e⟩ | ⟨-, e⟩
    · rw [e] at hcalls
      simp only [SyncState.issued, hst, List.nil_append, List.cons.injEq, Call.delete.injEq,
        and_true, Obj.key, Key.mk.injEq] at hcalls
      obtain ⟨rfl, hns, hname⟩ := hcalls
      exact ⟨o, (deleteTarget_found.mp ht).1, hg, by unfold Obj.nn; rw [hns, hname]⟩
    · rw [e, hst] at hcalls; cases hcalls
  · rintro ⟨o, hcur, hg, hnn⟩
    have hread := findCurrent_ends env st obj
    unfold Ends at hread
    rw [hcur] at hread
    obtain ⟨k, hk⟩ := hread.2 o rfl
    have ho := hk.owner_eq hg hnn hc
    have ht : deleteTarget env obj st = (.ok (some o), st) :=
      deleteTarget_found.mpr ⟨hcur, by rwa [ho], by rwa [ho]⟩
    rcases deleteResource_cases st obj hf with ⟨o', gvk, ht', hg', e⟩ | ⟨hn, -⟩
    · cases ht.symm.trans ht'
      cases hg.symm.trans hg'
      rw [e]
      simp only [SyncState.issued, hst, List.nil_append, Obj.key_of_nn hnn]
    · exact absurd hg (hn o _ ht)

/-- A copy without finalizers is then gone. -/
theorem deleteResource_get (hf : env.faults = {}) (hst : st.calls = [])
    (hc : st.server.get c.key = some c) (hne : c.owner ≠ "")
    (hal : isOwnedByAnotherAliveCluster env st.r c.owner = false) (hfin : c.finalizers = [])
    (hfind : FindsCopy st.r (st.r.hasMutated = true) st.server obj c) :
    (deleteResource env obj st).2.server.get c.key = none := by
  have hcalls := (deleteResource_calls_iff hf hst hc hne hal).mpr hfind
  rcases deleteResource_cases st obj hf with ⟨o, gvk, -, -, e⟩ | ⟨-, e⟩
  · rw [e] at hcalls ⊢
    simp only [SyncState.issued, hst, List.nil_append, List.cons.injEq, Call.delete.injEq, and_true]
      at hcalls
    simp only [SyncState.issued, hcalls, Call.apply, ApiServer.delete, hc, hfin, if_true, attempted,
      ApiServer.get_erase]
  · rw [e, hst] at hcalls; cases hcalls

end

section

variable (x : External) (r : SyncReconciler) (s : ApiServer) (env : Env) (req : NamespacedName)

/-- The source object as the reconciler has it after its read. -/
def sourceView : Obj :=
  match env.source with
  | .ok stored => sourceObj x r stored
  | .error _ => requestObj x r.gvk req

variable {env}

/-- A reconcile call for a source that is gone is a deletion. -/
theorem reconciled_gone (hgone : SourceGone env) : ∃ events, reconciled x r s env req =
    { (deleteResource env (sourceView x r env req) ⟨r, s, [], []⟩).2 with events := events } := by
  have hrec : (reconcile x env req ⟨r, s, [], []⟩).2 =
      (deleteResource env (sourceView x r env req) ⟨r, s, [], []⟩).2 := by
    have hdel : reconcile x env req ⟨r, s, [], []⟩ =
        (do deleteResource env (sourceView x r env req); return ({} : Result)) ⟨r, s, [], []⟩ := by
      unfold reconcile sourceView
      rw [get_bind]
      rcases hgone with ⟨e, hsrc, hnf⟩ | ⟨o, hsrc, hdel⟩
      · simp only [hsrc, hnf, if_true]
      · simp only [hsrc, readInto, hdel, if_true]; rfl
    rw [hdel]
    rcases h : deleteResource env (sourceView x r env req) ⟨r, s, [], []⟩ with ⟨e | _, st'⟩
    · rw [bind_of_error h]
    · rw [bind_of_ok h]; rfl
  rw [← hrec]
  exact reconciled_eq x r s env req

end

/-! ## The life of a reconciler -/

/-- A reconciler with the local API server. -/
structure Syncer where
  r : SyncReconciler
  server : ApiServer

inductive SyncAct where
  | sync (req : NamespacedName) (env : Env)
  /-- The controller is set up anew. -/
  | restart
  /-- Anyone else changes the local API server. -/
  | elsewhere (server : ApiServer)

section

variable (x : External) (r₀ : SyncReconciler)

def Syncer.step (s : Syncer) : SyncAct → Syncer
  | .sync req env =>
    ⟨(reconciled x s.r s.server env req).r, (reconciled x s.r s.server env req).server⟩
  | .restart => { s with r := r₀ }
  | .elsewhere server => { s with server := server }

/-- The reconciler is `r₀` whenever it is set up. -/
def syncer : System Syncer SyncAct where
  init s := s.r = r₀
  ok _ _ _ := True
  step := Syncer.step x r₀

/-- A call since the last restart made an object of another name or namespace. -/
def RenamedSince : List (Syncer × SyncAct) → Prop
  | [] => False
  | (s, .sync _ env) :: tr => Renames x env s.r ∨ RenamedSince tr
  | (_, .restart) :: _ => False
  | (_, .elsewhere _) :: tr => RenamedSince tr

variable {x r₀} {tr : List (Syncer × SyncAct)} {s : Syncer}

theorem same_of_run (h : Run (syncer x r₀) tr s) : r₀.Same s.r := by
  refine h.invariant (P := fun s => r₀.Same s.r) (fun s hs => ?_) fun tr s a _ ih _ => ?_
  · rw [show s.r = r₀ from hs]; exact .refl r₀
  · cases a with
    | sync req env => exact ih.trans reconciled_same
    | restart => exact .refl r₀
    | elsewhere server => exact ih

/-- **What the marks remember**: the calls of the running instance, and no others. -/
theorem hasMutated_of_run (h₀ : r₀.hasMutated = false) (h : Run (syncer x r₀) tr s) :
    s.r.hasMutated = true ↔ RenamedSince x tr := by
  refine h.history (P := fun tr s => s.r.hasMutated = true ↔ RenamedSince x tr) ?_ ?_
  · intro s hs
    rw [show s.r = r₀ from hs, h₀]
    exact ⟨nofun, False.elim⟩
  · intro tr s a _ ih _
    cases a with
    | sync req env =>
      have hr : (reconciled x s.r s.server env req).r = marked x env s.r := reconcileRequest_r _ req
      show (reconciled x s.r s.server env req).r.hasMutated = true ↔ Renames x env s.r ∨ _
      rw [hr, hasMutated_marked, ih]
    | restart =>
      show r₀.hasMutated = true ↔ False
      rw [h₀]
      exact ⟨nofun, False.elim⟩
    | elsewhere server => exact ih

end

/-- The object `c` is in the place of what a call for the request made of its source, and
the remote cluster of the reconciler owns it. -/
structure CopyOf (x : External) (tr : List (Syncer × SyncAct)) (s : Syncer) (req : NamespacedName)
    (c : Obj) : Prop where
  stored : s.server.get c.key = some c
  owner : c.owner = s.r.clusterID
  made : ∃ t env source m d, (t, .sync req env) ∈ tr ∧ Copies x env t.r source m d ∧
    KeyOf d c.key

/-- **Deletion of the copy that was written.** Over the life of a reconciler,
with any restarts: when the source of a copy is gone, exactly this copy is
deleted if and only if the lookup that goes with the calls since the last
restart finds it. -/
theorem delete_hits_copy_iff (x : External) (rule : ResourceSyncRule)
    (clusterID localClusterID : String) (limited : Bool) (hid : clusterID ≠ "")
    (tr : List (Syncer × SyncAct)) (s : Syncer)
    (h : Run (syncer x ((newSyncReconciler rule clusterID limited).start localClusterID)) tr s)
    (req : NamespacedName) (c : Obj) (hc : CopyOf x tr s req c) (env : Env)
    (hgone : SourceGone env) (hf : env.faults = {}) :
    (reconciled x s.r s.server env req).calls = [.delete c.key] ↔
      FindsCopy s.r (RenamedSince x tr) s.server (sourceView x s.r env req) c := by
  have hfresh : ((newSyncReconciler rule clusterID limited).start localClusterID).hasMutated =
      false := rfl
  have hsame := same_of_run h
  have hown : c.owner = clusterID := hc.owner.trans hsame.clusterID
  have hal := not_ownedByAnother env hc.owner
  obtain ⟨events, e⟩ := reconciled_gone x s.r s.server req hgone
  rw [e, ← hasMutated_of_run hfresh h]
  exact deleteResource_calls_iff hf rfl hc.stored (hown ▸ hid) hal

section

open Sample

/-- The plain rule copies an object from `R`. -/
def plainCopied : List (Syncer × SyncAct) × Syncer :=
  played (syncer .bare (syncing "L" "R")) [] ⟨syncing "L" "R", .empty⟩
    [.sync req { source := .ok stored, alive := fun _ => true }]

theorem delete_hits_copy_iff_plainCopied :
    FindsCopy plainCopied.2.r (RenamedSince .bare plainCopied.1) plainCopied.2.server
      (sourceView .bare plainCopied.2.r gone req)
      (copyOf "R") := by
  have hrun : Run (syncer .bare (syncing "L" "R")) plainCopied.1 plainCopied.2 :=
    .plays (.init rfl) ⟨trivial, trivial⟩
  have hcopy : CopyOf .bare plainCopied.1 plainCopied.2 req (copyOf "R") :=
    ⟨by decide +kernel, by decide, _, _, stored, _, _, List.mem_cons_self, ⟨rfl, rfl, rfl, rfl⟩,
      ⟨rfl, rfl, rfl⟩⟩
  exact (delete_hits_copy_iff .bare rule "R" "L" false (by decide) _ _ hrun req (copyOf "R") hcopy
    gone (.inl ⟨_, rfl, rfl⟩) rfl).mp rfl

/-- A patch that moves objects to another namespace, and writes that note what was applied. -/
def mover : External :=
  { External.bare with
    patchYAMLModifier := fun _ _ => .ok fun o => .ok { o with «namespace» := "there" }
    merge := .keeping fun o => o.payload }

/-- A rule with such a patch. -/
def movingRule : ResourceSyncRule :=
  let mutations : Mutations := { overrides := some [⟨none, none, "", false⟩] }
  ⟨"rule", "", ⟨none, gvk, some [{ mutations := mutations }]⟩⟩

def moving : SyncReconciler := (newSyncReconciler movingRule "R" false).start "L"

def hereReq : NamespacedName := ⟨"here", "cm"⟩

def hereKey : Key := ⟨gvk, "here", "cm"⟩

/-- The source object, in its namespace on `R`. -/
def hereStored : Obj := ApiServer.empty.stamp hereKey (ApiServer.empty.created obj)

/-- Its copy, in another namespace. -/
def movedCopy : Obj :=
  { name := "cm", «namespace» := "there", gvk := gvk, generation := 1, resourceVersion := "2",
    uid := "2", creationTimestamp := "2"
    annotations := ((∅ : StringMap).insert ownershipAnnotation "R").insert lastAppliedAnnotation ""
    labels :=
      ((∅ : StringMap).insert ownershipAnnotation "R").insert originalNamespaceLabel "here" }

/-- A call that reads the source object. -/
def hereRead : Env where
  source := .ok hereStored
  alive _ := true
  clusters := .ok [⟨"L", "L"⟩, ⟨"R", "R"⟩]

/-- The namespace of the copy is there, and the object is copied. -/
def moved : List (Syncer × SyncAct) × Syncer :=
  played (syncer mover moving) [] ⟨moving, ApiServer.empty.put ⟨namespaceGVK, "", "there"⟩ obj⟩
    [.sync hereReq hereRead]

/-- The moved copy stays when its source is deleted. -/
theorem moved_copy_not_deleted :
    Run (syncer mover moving) moved.1 moved.2 ∧ CopyOf mover moved.1 moved.2 hereReq movedCopy ∧
      (reconciled mover moved.2.r moved.2.server gone
        hereReq).calls = [] := by
  refine ⟨.plays (.init rfl) ⟨trivial, trivial⟩, ⟨by decide +kernel, by decide, _, _, hereStored, _,
    _, List.mem_cons_self, ⟨rfl, rfl, rfl, rfl⟩, ⟨rfl, rfl, rfl⟩⟩, rfl⟩

end

end ClusterRegistry.Sync
