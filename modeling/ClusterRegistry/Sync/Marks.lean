import ClusterRegistry.Sync.Writes

/-!
# What a reconcile call makes of the reconciler

A reconciler remembers between calls only whether it has ever renamed or moved
an object. `mutateObject` is the one place that sets these marks: `reconcile_r`
gives the reconciler after a call, whatever else the call runs into.
-/

namespace ClusterRegistry.Sync

open Lib Lib.Eff

/-- The reconciler up to the marks of `mutateObject`. -/
def SyncReconciler.Same (r r' : SyncReconciler) : Prop :=
  ∃ name ns, r' = { r with resourceNameMutated := name, resourceNamespaceMutated := ns }

namespace SyncReconciler.Same

variable {r r' r'' : SyncReconciler}

theorem refl (r : SyncReconciler) : r.Same r := ⟨_, _, rfl⟩

theorem trans (h : r.Same r') (h' : r'.Same r'') : r.Same r'' := by
  obtain ⟨_, _, rfl⟩ := h
  obtain ⟨a, b, rfl⟩ := h'
  exact ⟨a, b, rfl⟩

theorem rule (h : r.Same r') : r'.rule = r.rule := by obtain ⟨_, _, rfl⟩ := h; rfl

theorem clusterID (h : r.Same r') : r'.clusterID = r.clusterID := by
  obtain ⟨_, _, rfl⟩ := h; rfl

theorem localClusterID (h : r.Same r') : r'.localClusterID = r.localClusterID := by
  obtain ⟨_, _, rfl⟩ := h; rfl

theorem gvk (h : r.Same r') : r'.gvk = r.gvk := by obtain ⟨_, _, rfl⟩ := h; rfl

theorem localGVK (h : r.Same r') : r'.localGVK = r.localGVK := by obtain ⟨_, _, rfl⟩ := h; rfl

end SyncReconciler.Same

/-! ## Everything but the mutation -/

section keeps

variable {x : External} {env : Env}

theorem record_keeps (t : EventType) (reason msg : String) :
    Keeps SyncState.r (record t reason msg) := .modify fun _ => rfl

theorem issue_keeps (fault : Option Err) (c : Call) : Keeps SyncState.r (issue fault c) := by
  refine .bind (.modify fun _ => rfl) fun _ => ?_
  cases fault with
  | some e => exact .throw e
  | none =>
    refine .bind .get fun st => ?_
    cases c.apply st.server with
    | error e => exact .throw e
    | ok s => exact .modify fun _ => rfl

theorem localGet_keeps (fault : Option Err) (into : Obj) (nn : NamespacedName) :
    Keeps SyncState.r (localGet fault into nn) :=
  fun st => congrArg SyncState.r (localGet_ends st fault into nn).1

theorem deleteTarget_keeps (obj : Obj) : Keeps SyncState.r (deleteTarget env obj) :=
  fun st => congrArg SyncState.r (deleteTarget_ends env st obj).1

theorem deleteResource_keeps (obj : Obj) : Keeps SyncState.r (deleteResource env obj) := by
  refine .bind (deleteTarget_keeps obj) fun found => ?_
  cases found with
  | none => exact .pure _
  | some o =>
    refine .bind (.lift _) fun gvk => .bind (.attempt (issue_keeps _ _)) fun res => ?_
    cases res with
    | ok _ => exact .pure _
    | error e => exact .ite (.throw e) (.pure _)

theorem reconcileResource_keeps (d : Obj) : Keeps SyncState.r (reconcileResource x env d) := by
  refine .bind (.lift _) fun gvk => .bind .get fun st => ?_
  dsimp only
  cases st.server.get ⟨gvk, d.namespace, d.name⟩ with
  | none =>
    refine .ite ?_ (.pure _)
    cases env.verdict with
    | failed e => exact .throw e
    | rejected e => exact issue_keeps _ _
    | inSync => exact issue_keeps _ _
    | written => exact issue_keeps _ _
    | recreated e now => exact issue_keeps _ _
  | some cur =>
    refine .ite (.bind (.lift _) fun payload => ?_) (.pure _)
    cases env.verdict with
    | failed e => exact .throw e
    | rejected e => exact issue_keeps _ _
    | inSync => exact .pure _
    | written => exact issue_keeps _ _
    | recreated e now =>
      exact .bind (.attempt (issue_keeps _ _)) fun _ => .bind (issue_keeps _ _) fun _ =>
        .ite (issue_keeps _ _) (.pure _)

theorem syncStatus_keeps (req : NamespacedName) (m : MatchedRules) (d : Obj) :
    Keeps SyncState.r (syncStatus env req m d) := by
  refine .bind (.mapError (localGet_keeps _ _ _)) fun found => ?_
  cases found with
  | none => exact .pure _
  | some obj =>
    have tail : Keeps SyncState.r (do
        if (← get).r.rule.uid != "" then
          record .normal "ObjectReconciled" ("object reconciled (resource: " ++ req.string ++ ")")
        return ({} : Result)) :=
      .bind .get fun _ => .ite (.bind (record_keeps _ _ _) fun _ => .pure _) (.pure _)
    exact .ite (.bind (.mapError (.bind (.lift _) fun _ => issue_keeps _ _)) fun _ => tail) tail

theorem writeLocal_keeps (req : NamespacedName) (m : MatchedRules) (d : Obj) :
    Keeps SyncState.r (writeLocal x env req m d) := by
  have allowed : Keeps SyncState.r (writeAllowed x env req m d) := by
    refine .bind (.attempt (reconcileResource_keeps d)) fun res => ?_
    cases res with
    | error e => exact .ite (.pure _) (.throw _)
    | ok _ => exact syncStatus_keeps req m d
  have limited : Keeps SyncState.r (writeLimited x env req m d) := by
    refine .bind .get fun st => .ite ?_ allowed
    cases env.rateLimit with
    | error e => exact .throw _
    | ok hit =>
      cases hit with
      | true => exact .bind (record_keeps _ _ _) fun _ => .pure _
      | false => exact allowed
  refine .ite limited (.bind (localGet_keeps _ _ _) fun found => ?_)
  cases found with
  | some _ => exact limited
  | none => exact .bind (record_keeps _ _ _) fun _ => .pure _

end keeps

/-! ## The marks -/

section marks

variable (x : External) (env : Env) (r : SyncReconciler)

/-- The reconciler after a call. -/
def marked : SyncReconciler :=
  match env.source with
  | .error _ => r
  | .ok stored =>
    if stored.deletionTimestamp.isSome then r
    else
      match r.rule.match x (sourceObj x r stored) with
      | (true, matched, none) =>
        match mutated x env r (sourceObj x r stored) matched with
        | .ok d => markMutated (sourceObj x r stored) d r
        | .error _ => r
      | _ => r

/-- The call makes of its source an object of another name or namespace. -/
def Renames : Prop :=
  ∃ stored m d, Copies x env r stored m d ∧ (stored.name ≠ d.name ∨ stored.namespace ≠ d.namespace)

/-- The test of `deleteResource`: something was renamed or moved. -/
def SyncReconciler.hasMutated : Bool := r.resourceNamespaceMutated || r.resourceNameMutated

variable {x env r}

theorem Copies.unique {stored stored' : Obj} {m m' : MatchedRules} {d d' : Obj}
    (h : Copies x env r stored m d) (h' : Copies x env r stored' m' d') :
    stored = stored' ∧ m = m' ∧ d = d' := by
  obtain rfl := Except.ok.inj (h.source.symm.trans h'.source)
  have hm := h.ruled.symm.trans h'.ruled
  simp only [Prod.mk.injEq, and_true, true_and] at hm
  subst hm
  exact ⟨rfl, rfl, Except.ok.inj (h.mutated.symm.trans h'.mutated)⟩

variable (x env r) in
/-- A call that mutates no object leaves the reconciler as it is. -/
theorem marked_cases :
    (marked x env r = r ∧ ∀ stored m d, ¬Copies x env r stored m d) ∨
      ∃ stored m d, Copies x env r stored m d ∧
        marked x env r = markMutated (sourceObj x r stored) d r := by
  unfold marked
  cases hsrc : env.source with
  | error e => exact .inl ⟨rfl, fun _ _ _ h => by cases hsrc.symm.trans h.source⟩
  | ok stored =>
    have hsame : ∀ {o m d}, Copies x env r o m d → o = stored := fun h =>
      Except.ok.inj (h.source.symm.trans hsrc)
    simp only
    by_cases hdel : stored.deletionTimestamp.isSome = true
    · refine .inl ⟨if_pos hdel, fun o m d h => ?_⟩
      obtain rfl := hsame h
      rw [h.live] at hdel; cases hdel
    · rw [if_neg hdel]
      split
      · next m hm =>
        cases hd : mutated x env r (sourceObj x r stored) m with
        | ok d => exact .inr ⟨stored, m, d, ⟨hsrc, by simpa using hdel, hm, hd⟩, rfl⟩
        | error e =>
          refine .inl ⟨rfl, fun o m' d h => ?_⟩
          obtain rfl := hsame h
          have := hm.symm.trans h.ruled
          cases this
          cases hd.symm.trans h.mutated
      · next hm =>
        refine .inl ⟨rfl, fun o m d h => ?_⟩
        obtain rfl := hsame h
        exact hm m h.ruled

theorem hasMutated_marked :
    (marked x env r).hasMutated = true ↔ Renames x env r ∨ r.hasMutated = true := by
  rcases marked_cases x env r with ⟨e, hn⟩ | ⟨stored, m, d, hc, e⟩
  · rw [e]
    exact (or_iff_right fun ⟨o, m, d, h, _⟩ => hn o m d h).symm
  · have hren : Renames x env r ↔ stored.name ≠ d.name ∨ stored.namespace ≠ d.namespace := by
      refine ⟨fun ⟨o, m', d', h, hne⟩ => ?_, fun hne => ⟨stored, m, d, hc, hne⟩⟩
      obtain ⟨rfl, -, rfl⟩ := h.unique hc
      exact hne
    rw [e, hren]
    simp only [SyncReconciler.hasMutated, markMutated, sourceObj, readInto, Bool.or_eq_true,
      bne_iff_ne]
    tauto

theorem marked_same : r.Same (marked x env r) := by
  rcases marked_cases x env r with ⟨e, -⟩ | ⟨_, _, _, -, e⟩ <;> rw [e]
  · exact .refl r
  · exact ⟨_, _, rfl⟩

theorem reconcileFound_r {stored : Obj} {st : SyncState} (hsrc : env.source = .ok stored)
    (hdel : ¬stored.deletionTimestamp.isSome = true) (req : NamespacedName) :
    (reconcileFound x env req (sourceObj x st.r stored) st).2.r = marked x env st.r := by
  unfold reconcileFound marked
  rw [get_bind, hsrc]
  simp only [hdel]
  rcases st.r.rule.match x (sourceObj x st.r stored) with ⟨_ | _, matched, _ | e⟩
  · rfl
  · rfl
  · have hmut := mutateObject_eq x env st (sourceObj x st.r stored) matched
    simp only [Bool.false_eq_true, if_false]
    cases hd : mutated x env st.r (sourceObj x st.r stored) matched with
    | error e =>
      rw [hd] at hmut
      have h : mapError (·.wrapIf "could not mutate object")
          (mutateObject x env (sourceObj x st.r stored) matched) st =
          (.error (e.wrapIf "could not mutate object"), st) := by
        unfold mapError; rw [hmut]
      rw [bind_of_error h]
    | ok d =>
      rw [hd] at hmut
      have h : mapError (·.wrapIf "could not mutate object")
          (mutateObject x env (sourceObj x st.r stored) matched) st =
          (.ok d, { st with r := markMutated (sourceObj x st.r stored) d st.r }) := by
        unfold mapError; rw [hmut]
      rw [bind_of_ok h]
      exact writeLocal_keeps req matched d _
  · rfl

/-- Without overrides the copy has the name and namespace of its source. -/
theorem mutated_eq {current : Obj} {m : MatchedRules}
    (h : ∀ s ∈ m, elems s.mutations.overrides = []) :
    mutated x env r current m = .ok (mutateMeta r current m) := by
  have ho : m.getMutationOverrides = [] := List.flatMap_eq_nil_iff.mpr h
  have hl : labelOriginal current (mutateMeta r current m) = mutateMeta r current m := by
    unfold labelOriginal mutateMeta
    simp
  unfold mutated
  rw [ho]
  exact congrArg Except.ok hl

/-- **The reconciler after a call** has the marks of the object that the call
mutated, if it came to that. -/
theorem reconcile_r (st : SyncState) (req : NamespacedName) :
    (reconcile x env req st).2.r = marked x env st.r := by
  have gone : ∀ obj, Keeps SyncState.r (do deleteResource env obj; return ({} : Result)) :=
    fun obj => .bind (deleteResource_keeps obj) fun _ => .pure _
  unfold reconcile
  rw [get_bind]
  cases hsrc : env.source with
  | error e =>
    have h : marked x env st.r = st.r := by unfold marked; rw [hsrc]
    rw [h]
    simp only
    split
    · exact gone _ st
    · rfl
  | ok stored =>
    by_cases c : stored.deletionTimestamp.isSome = true
    · have h : marked x env st.r = st.r := by unfold marked; rw [hsrc]; exact if_pos c
      rw [h]
      simp only [readInto, c, if_true]
      exact gone _ st
    · rw [← reconcileFound_r hsrc c req]
      simp only [readInto, c]
      rfl

theorem reconcileRequest_r (st : SyncState) (req : NamespacedName) :
    (reconcileRequest x env req st).2.r = marked x env st.r := by
  rw [← reconcile_r st req]
  unfold reconcileRequest
  rw [bind_of_ok (show attempt (reconcile x env req) st = _ from rfl)]
  cases (reconcile x env req st).1 <;> rfl

end marks

end ClusterRegistry.Sync
