import ClusterRegistry.Api.Selection
import ClusterRegistry.Sync.Fleet

/-!
# What becomes of a request

`Gate` bounds what a reconcile call writes. Here is what it does write: which
copies it hands to `ReconcileResource` (`Offered`), the calls made for such a
copy (`mainCalls`), and the status call after them (`statusCalls`). With them it
can be said exactly when a request goes wrong: when content of a live cluster is
taken from another one, when the status of an object is written that the gate
had refused, and when an error of the rule is lost.
-/

namespace ClusterRegistry.Sync

open Lib Lib.Eff

section offered

variable (x : External) (env : Env) (r : SyncReconciler) (s : ApiServer)

/-- The copy gets past the namespace check and the rate limiter. -/
structure Passes (d : Obj) : Prop where
  namespaced : d.namespace = "" ∨ env.faults.getNamespace = none ∧
    (s.get ⟨namespaceGVK, "", d.namespace⟩).isSome
  unlimited : r.rateLimiter = true → env.rateLimit = .ok false

/-- `d` is handed to `ReconcileResource`. -/
structure Offered (m : MatchedRules) (d : Obj) : Prop where
  desired : Desired x env r m d
  passes : Passes env r s d

/-- The calls of `ReconcileResource`, taken or refused. -/
def mainCalls (k : Key) (d : Obj) : List Call :=
  match s.get k with
  | none =>
    if shouldCreate env r d then
      match env.verdict with
      | .failed _ => []
      | _ => [.create k (x.merge.object none d)]
    else []
  | some cur =>
    if shouldUpdate env r cur then
      match x.serviceIPModifier cur d with
      | .error _ => []
      | .ok payload =>
        let o := replacement x cur d payload
        match env.verdict with
        | .inSync => []
        | .failed _ => []
        | .rejected _ => [.update k o]
        | .written => [.update k o]
        | .recreated _ atOnce => [.update k o, .delete k] ++ if atOnce then [.create k o] else []
    else []

/-- The status call, on the server that `ReconcileResource` leaves. -/
def statusCalls (m : MatchedRules) (k : Key) (d : Obj) : List Call :=
  match s.get k with
  | none => []
  | some cur =>
    if env.faults.getReconciled = none ∧ m.getMutationSyncStatus = true then
      [.updateStatus k { d with resourceVersion := cur.resourceVersion }]
    else []

end offered

variable {x : External} {env : Env} {r : SyncReconciler} {s : ApiServer} {st : SyncState}
  {m : MatchedRules} {d : Obj} {k : Key}

/-! ## From the request to the copy -/

theorem marked_of_copies {stored : Obj} (h : Copies x env r stored m d) :
    marked x env r = markMutated (sourceObj x r stored) d r := by
  rcases marked_cases x env r with ⟨-, hn⟩ | ⟨_, _, _, hc, e⟩
  · exact absurd h (hn _ _ _)
  · obtain ⟨rfl, -, rfl⟩ := h.unique hc
    exact e

theorem reconcile_live {stored : Obj} (hsrc : env.source = .ok stored)
    (hlive : stored.deletionTimestamp = none) (req : NamespacedName) :
    reconcile x env req st = reconcileFound x env req (sourceObj x st.r stored) st := by
  unfold reconcile
  rw [get_bind, hsrc]
  simp only [readInto, hlive, Option.isSome_none, Bool.false_eq_true, if_false]
  rfl

/-- A request for an object that is there and matches comes down to its copy. -/
theorem reconcile_desired (h : Desired x env st.r m d) (req : NamespacedName) :
    reconcile x env req st = writeLocal x env req m d { st with r := marked x env st.r } := by
  obtain ⟨stored, hc⟩ := h
  have hmut : mapError (·.wrapIf "could not mutate object")
      (mutateObject x env (sourceObj x st.r stored) m) st =
      (.ok d, { st with r := marked x env st.r }) := by
    unfold mapError
    rw [mutateObject_eq, hc.mutated, marked_of_copies hc]
  rw [reconcile_live hc.source hc.live]
  unfold reconcileFound
  rw [get_bind, hc.ruled]
  exact bind_of_ok hmut _

theorem localGet_eq (st : SyncState) {into : Obj} {gvk : GVK} (h : gvkForObject into = .ok gvk)
    (nn : NamespacedName) : localGet none into nn st =
      (.ok ((st.server.get ⟨gvk, nn.namespace, nn.name⟩).map (readInto into)), st) := by
  unfold localGet
  rw [h, lift_ok_bind]
  rfl

theorem localGet_fault (st : SyncState) {into : Obj} {gvk : GVK}
    (h : gvkForObject into = .ok gvk) (e : Err) (nn : NamespacedName) :
    localGet (some e) into nn st = (.error e, st) := by
  unfold localGet
  rw [h, lift_ok_bind]
  rfl

theorem getNamespace_eq (st : SyncState) (ns : String) :
    localGet none { name := "", «namespace» := "", gvk := namespaceGVK } ⟨"", ns⟩ st =
      (.ok ((st.server.get ⟨namespaceGVK, "", ns⟩).map
        (readInto { name := "", «namespace» := "", gvk := namespaceGVK })), st) :=
  localGet_eq st rfl _

theorem getNamespace_fault (st : SyncState) (e : Err) (ns : String) :
    localGet (some e) { name := "", «namespace» := "", gvk := namespaceGVK } ⟨"", ns⟩ st =
      (.error e, st) :=
  localGet_fault st rfl e _

theorem writeLimited_passes (h : st.r.rateLimiter = true → env.rateLimit = .ok false)
    (req : NamespacedName) :
    writeLimited x env req m d st = writeAllowed x env req m d st := by
  unfold writeLimited
  rw [get_bind]
  by_cases hl : st.r.rateLimiter = true
  · simp only [hl, if_true, h hl]
  · simp only [hl]
    rfl

theorem writeLocal_passes (h : Passes env st.r st.server d) (req : NamespacedName) :
    writeLocal x env req m d st = writeAllowed x env req m d st := by
  unfold writeLocal
  by_cases hns : d.namespace = ""
  · rw [if_pos hns]
    exact writeLimited_passes h.unlimited req
  · obtain ⟨hf, hsome⟩ := h.namespaced.resolve_left hns
    obtain ⟨o, ho⟩ := Option.isSome_iff_exists.mp hsome
    rw [if_neg hns, hf, bind_of_ok (getNamespace_eq st d.namespace), ho]
    exact writeLimited_passes h.unlimited req

/-- A copy that does not pass is not written. -/
theorem writeLocal_blocked (st : SyncState) (h : ¬Passes env st.r st.server d)
    (req : NamespacedName) : (writeLocal x env req m d st).2.calls = st.calls := by
  have limited : ¬(st.r.rateLimiter = true → env.rateLimit = .ok false) →
      (writeLimited x env req m d st).2.calls = st.calls := by
    intro hl
    obtain ⟨hon, hhit⟩ := Classical.not_imp.mp hl
    unfold writeLimited
    rw [get_bind]
    simp only [hon, if_true]
    rcases hr : env.rateLimit with e | _ | _
    · rfl
    · exact absurd hr hhit
    · rfl
  unfold writeLocal
  by_cases hns : d.namespace = ""
  · rw [if_pos hns]
    exact limited fun hu => h ⟨.inl hns, hu⟩
  · rw [if_neg hns]
    cases hf : env.faults.getNamespace with
    | some e => rw [bind_of_error (getNamespace_fault st e d.namespace)]
    | none =>
      rw [bind_of_ok (getNamespace_eq st d.namespace)]
      cases ho : st.server.get ⟨namespaceGVK, "", d.namespace⟩ with
      | none => rfl
      | some o => exact limited fun hu => h ⟨.inr ⟨hf, by rw [ho]; rfl⟩, hu⟩

/-! ## The calls for a copy -/

theorem issue_calls (fault : Option Err) (c : Call) :
    (issue fault c st).2.calls = st.calls ++ [c] := by
  have h : Ends (issue fault c) (fun _ st' => st'.calls = st.calls ++ [c]) st := by
    unfold issue
    simp only [ends_bind, ends_modify]
    cases fault with
    | some e => rfl
    | none =>
      simp only [ends_bind, ends_get]
      split <;> rfl
  exact h

theorem issue_taken {c : Call} {server : ApiServer} (h : c.apply st.server = .ok server) :
    issue none c st = (.ok (), { st with calls := st.calls ++ [c], server := server }) := by
  unfold issue
  rw [bind_of_ok (show modify _ st = (.ok (), _) from rfl)]
  simp only
  rw [get_bind, h]
  rfl

/-- An object that is there can be deleted, if only to wait for its finalizers. -/
theorem issue_delete (st : SyncState) {cur : Obj} (h : st.server.get k = some cur) :
    ∃ server, issue none (.delete k) st =
      (.ok (), { st with calls := st.calls ++ [.delete k], server := server }) := by
  have hok : ∃ server, st.server.delete k = .ok server := by
    unfold ApiServer.delete
    rw [h]
    simp only
    split
    · exact ⟨_, rfl⟩
    · exact ⟨_, rfl⟩
  obtain ⟨server, hs⟩ := hok
  exact ⟨server, issue_taken hs⟩

theorem reconcileResource_calls (hk : KeyOf d k) :
    (reconcileResource x env d st).2.calls =
      st.calls ++ mainCalls x env st.r st.server k d := by
  unfold reconcileResource mainCalls
  rw [hk.1, lift_ok_bind, get_bind]
  simp only [← hk.eq]
  cases hget : st.server.get k with
  | none =>
    simp only
    by_cases hc : shouldCreate env st.r d = true
    · simp only [hc, if_true]
      cases env.verdict with
      | failed e => exact (List.append_nil _).symm
      | inSync => exact issue_calls _ _
      | rejected e => exact issue_calls _ _
      | written => exact issue_calls _ _
      | recreated e now => exact issue_calls _ _
    · simp only [hc]
      exact (List.append_nil _).symm
  | some cur =>
    simp only
    by_cases hu : shouldUpdate env st.r cur = true
    · simp only [hu, if_true]
      cases x.serviceIPModifier cur d with
      | error e => exact (List.append_nil _).symm
      | ok payload =>
        rw [lift_ok_bind]
        cases env.verdict with
        | inSync => exact (List.append_nil _).symm
        | failed e => exact (List.append_nil _).symm
        | rejected e => exact issue_calls _ _
        | written => exact issue_calls _ _
        | recreated e now =>
          simp only
          generalize Call.update k _ = update
          obtain ⟨server, hs⟩ := issue_delete { st with calls := st.calls ++ [update] } hget
          rw [bind_of_ok (show attempt (issue (some e) update) st =
            (.ok (.error e), { st with calls := st.calls ++ [update] }) from rfl), bind_of_ok hs]
          cases now with
          | false => simp [pure, Eff.pure]
          | true => simp [issue_calls]
    · simp only [hu]
      exact (List.append_nil _).symm

/-- `ReconcileResource` does nothing with a copy that its gate refuses, and says so to nobody. -/
theorem reconcileResource_refused (hk : KeyOf d k)
    (h : (st.server.get k = none ∧ shouldCreate env st.r d = false) ∨
      ∃ cur, st.server.get k = some cur ∧ shouldUpdate env st.r cur = false) :
    reconcileResource x env d st = (.ok (), st) := by
  unfold reconcileResource
  rw [hk.1, lift_ok_bind, get_bind]
  simp only [← hk.eq]
  rcases h with ⟨hget, hc⟩ | ⟨cur, hget, hu⟩
  · simp only [hget, hc, Bool.false_eq_true, if_false]
    rfl
  · simp only [hget, hu, Bool.false_eq_true, if_false]
    rfl

theorem syncStatus_calls (hk : KeyOf d k) (req : NamespacedName) :
    (syncStatus env req m d st).2.calls = st.calls ++ statusCalls env st.server m k d := by
  unfold syncStatus statusCalls
  cases hf : env.faults.getReconciled with
  | some e =>
    have hread : mapError (·.wrapIf "could not get object") (localGet (some e) d d.nn) st =
        (.error (e.wrapIf "could not get object"), st) := by
      unfold mapError
      rw [localGet_fault st hk.1]
    rw [bind_of_error hread]
    cases st.server.get k <;> simp
  | none =>
    have hread : mapError (·.wrapIf "could not get object") (localGet none d d.nn) st =
        (.ok ((st.server.get k).map (readInto d)), st) := by
      unfold mapError
      rw [localGet_eq st hk.1, hk.eq]
      rfl
    rw [bind_of_ok hread]
    cases hget : st.server.get k with
    | none => exact (List.append_nil _).symm
    | some cur =>
      have tail : Keeps SyncState.calls (do
          if (← get).r.rule.uid != "" then
            record .normal "ObjectReconciled" ("object reconciled (resource: " ++ req.string ++ ")")
          return ({} : Result) : SyncM Result) :=
        .bind .get fun _ => .ite (.bind (.modify fun _ => rfl) fun _ => .pure _) (.pure _)
      by_cases hm : m.getMutationSyncStatus = true
      · simp only [Option.map_some, hm, if_true, and_self, hk.1]
        rw [Keeps.after (fun _ => tail), final_mapError, lift_ok_bind, ← hk.eq]
        exact issue_calls _ _
      · simp only [Option.map_some, hm]
        exact (tail st).trans (List.append_nil _).symm

/-! ## The calls of a request -/

section request

variable (x env r s)

/-- The status call of a request: there is none after a failed write. -/
def statusPart (m : MatchedRules) (k : Key) (d : Obj) : List Call :=
  match reconcileResource x env d ⟨marked x env r, s, [], []⟩ with
  | (.ok _, st) => statusCalls env st.server m k d
  | (.error _, _) => []

variable {x env r s}

theorem Passes.same {r' : SyncReconciler} (h : r.Same r') :
    Passes env r' s d ↔ Passes env r s d := by
  obtain ⟨_, _, rfl⟩ := h
  exact ⟨fun h => ⟨h.1, h.2⟩, fun h => ⟨h.1, h.2⟩⟩

theorem shouldCreate_same {r' : SyncReconciler} (h : r.Same r') (d : Obj) :
    shouldCreate env r' d = shouldCreate env r d := by
  obtain ⟨_, _, rfl⟩ := h
  rfl

theorem shouldUpdate_same {r' : SyncReconciler} (h : r.Same r') (cur : Obj) :
    shouldUpdate env r' cur = shouldUpdate env r cur := by
  obtain ⟨_, _, rfl⟩ := h
  rfl

theorem mainCalls_same {r' : SyncReconciler} (h : r.Same r') :
    mainCalls x env r' s k d = mainCalls x env r s k d := by
  obtain ⟨_, _, rfl⟩ := h
  rfl

theorem writeAllowed_calls (hk : KeyOf d k) (req : NamespacedName) :
    (writeAllowed x env req m d st).2.calls = st.calls ++ mainCalls x env st.r st.server k d ++
      match reconcileResource x env d st with
      | (.ok _, st') => statusCalls env st'.server m k d
      | (.error _, _) => [] := by
  rw [← reconcileResource_calls hk]
  unfold writeAllowed
  rw [bind_of_ok (show attempt (reconcileResource x env d) st = _ from rfl)]
  rcases reconcileResource x env d st with ⟨e | _, st'⟩
  · simp only [List.append_nil]
    split <;> rfl
  · exact syncStatus_calls hk req

/-- The calls of a request that comes down to writing `d` under `k`. -/
theorem offered_calls (h : Offered x env r s m d) (hk : KeyOf d k) (req : NamespacedName) :
    (reconciled x r s env req).calls = mainCalls x env r s k d ++ statusPart x env r s m k d := by
  obtain ⟨events, he⟩ := reconciled_eq x r s env req
  rw [he]
  simp only
  rw [reconcile_desired h.desired, writeLocal_passes ((Passes.same marked_same).mpr h.passes),
    writeAllowed_calls hk, List.nil_append, mainCalls_same marked_same]
  rfl

/-- Any other request only deletes, if anything. -/
theorem calls_cases (req : NamespacedName) :
    (∀ c ∈ (reconciled x r s env req).calls, ∃ k, c = .delete k) ∨
      ∃ m d k, Offered x env r s m d ∧ KeyOf d k := by
  by_cases hd : ∃ m d, Desired x env r m d
  · obtain ⟨m, d, hd⟩ := hd
    obtain ⟨events, he⟩ := reconciled_eq x r s env req
    rw [he, reconcile_desired hd]
    by_cases hp : Passes env r s d
    · cases hg : gvkForObject d with
      | ok gvk => exact .inr ⟨m, d, ⟨gvk, d.namespace, d.name⟩, ⟨hd, hp⟩, hg, rfl, rfl⟩
      | error e =>
        rw [writeLocal_passes ((Passes.same marked_same).mpr hp)]
        have hfail : reconcileResource x env d ⟨marked x env r, s, [], []⟩ =
            (.error e, ⟨marked x env r, s, [], []⟩) := by
          unfold reconcileResource
          rw [hg, lift_error_bind]
        have hnone : (writeAllowed x env req m d ⟨marked x env r, s, [], []⟩).2.calls = [] := by
          unfold writeAllowed
          rw [bind_of_ok (show attempt (reconcileResource x env d) _ = _ from rfl), hfail]
          simp only
          split <;> rfl
        simp only [hnone]
        exact .inl fun c hc => by cases hc
    · have hnone : (writeLocal x env req m d ⟨marked x env r, s, [], []⟩).2.calls = [] :=
        writeLocal_blocked _ (fun h => hp ((Passes.same marked_same).mp h)) req
      simp only [hnone]
      exact .inl fun c hc => by cases hc
  · refine .inl fun c hc => ?_
    obtain ⟨_, -, hg⟩ := reconciled_issued.allowed (P := fun _ => True) (fun _ _ _ _ _ _ => trivial)
      trivial c hc
    cases hg with
    | delete => exact ⟨_, rfl⟩
    | create h => exact absurd ⟨_, _, h⟩ hd
    | update _ h => exact absurd ⟨_, _, h⟩ hd
    | clear h => exact absurd ⟨_, _, h⟩ hd
    | recreate _ h => exact absurd ⟨_, _, h⟩ hd
    | status _ h => exact absurd ⟨_, _, h⟩ hd

end request

/-! ## Content of a live owner -/

/-- `ReconcileResource` writes. -/
def Verdict.writes : Verdict → Bool
  | .inSync => false
  | .failed _ => false
  | .rejected _ => true
  | .written => true
  | .recreated _ _ => true

section relays

variable (x env r s)

/-- The request writes under `k` a copy `d` that names a live cluster other than
the one it was read from. On creation this is checked, and only a copy without
an owner gets through. On an update it is the object to be replaced that is
checked. -/
structure Relays (m : MatchedRules) (d : Obj) (k : Key) : Prop where
  offered : Offered x env r s m d
  key : KeyOf d k
  other : d.owner ≠ r.clusterID
  alive : env.alive d.owner = true
  through : (s.get k = none ∧ d.owner = "" ∧ syncDisabled d = false ∧
      ∀ e, env.verdict ≠ .failed e) ∨
    ∃ cur, s.get k = some cur ∧ syncDisabled cur = false ∧ cur.owner ≠ "" ∧
      isOwnedByAnotherAliveCluster env r cur.owner = false ∧
      (∃ payload, x.serviceIPModifier cur d = .ok payload) ∧ env.verdict.writes = true

variable {x env r s}

/-- The call creates or updates an object with the content `o`. -/
def Call.brings (c : Call) (o : Obj) : Prop := ∃ k, c = .create k o ∨ c = .update k o

/-- The gate lets the copy through, and nothing fails before the write. -/
def Goes (x : External) (env : Env) (r : SyncReconciler) (s : ApiServer) (k : Key) (d : Obj) :
    Prop :=
  (s.get k = none ∧ shouldCreate env r d = true ∧ ∀ e, env.verdict ≠ .failed e) ∨
    ∃ cur, s.get k = some cur ∧ shouldUpdate env r cur = true ∧
      (∃ payload, x.serviceIPModifier cur d = .ok payload) ∧ env.verdict.writes = true

/-- There is a call only if the copy goes, and every write carries its owner. -/
theorem mem_mainCalls {c : Call} (hc : c ∈ mainCalls x env r s k d) :
    Goes x env r s k d ∧
      (c = .delete k ∨ ∃ o, (c = .create k o ∨ c = .update k o) ∧ Carries d o) := by
  unfold mainCalls at hc
  cases hget : s.get k with
  | none =>
    rw [hget] at hc
    simp only at hc
    split at hc
    · next hs =>
      split at hc
      · cases hc
      · next hv =>
        exact ⟨.inl ⟨hget, hs, hv⟩,
          .inr ⟨_, .inl (List.mem_singleton.mp hc), carries_merge _ _ _⟩⟩
    · cases hc
  | some cur =>
    rw [hget] at hc
    simp only at hc
    split at hc
    · next hs =>
      cases hp : x.serviceIPModifier cur d with
      | error e => rw [hp] at hc; cases hc
      | ok payload =>
        have hgoes : env.verdict.writes = true → Goes x env r s k d := fun hv =>
          .inr ⟨cur, hget, hs, ⟨payload, hp⟩, hv⟩
        have hcarries := carries_replacement x cur d payload
        rw [hp] at hc
        cases hv : env.verdict with
        | inSync => rw [hv] at hc; cases hc
        | failed e => rw [hv] at hc; cases hc
        | rejected e =>
          rw [hv] at hc hgoes
          exact ⟨hgoes rfl, .inr ⟨_, .inr (List.mem_singleton.mp hc), hcarries⟩⟩
        | written =>
          rw [hv] at hc hgoes
          exact ⟨hgoes rfl, .inr ⟨_, .inr (List.mem_singleton.mp hc), hcarries⟩⟩
        | recreated e now =>
          rw [hv] at hc hgoes
          refine ⟨hgoes rfl, ?_⟩
          rcases List.mem_append.mp hc with hc | hc
          · rcases List.mem_pair.mp hc with rfl | rfl
            · exact .inr ⟨_, .inr rfl, hcarries⟩
            · exact .inl rfl
          · split at hc
            · exact .inr ⟨_, .inl (List.mem_singleton.mp hc), hcarries⟩
            · cases hc
    · cases hc

theorem owner_of_brings {c : Call} {o : Obj} (hc : c ∈ mainCalls x env r s k d)
    (ho : c.brings o) : o.owner = d.owner := by
  obtain ⟨k', rfl | rfl⟩ := ho
  all_goals
    rcases (mem_mainCalls hc).2 with h | ⟨o', h | h, hcarries⟩ <;> cases h
    exact hcarries.owner_eq

/-- A copy that goes is written. -/
theorem brings_of_goes (h : Goes x env r s k d) :
    ∃ c ∈ mainCalls x env r s k d, ∃ o, c.brings o := by
  unfold mainCalls
  rcases h with ⟨hget, hs, hv⟩ | ⟨cur, hget, hs, ⟨payload, hp⟩, hv⟩
  · rw [hget]
    simp only [hs, if_true]
    cases hverdict : env.verdict with
    | failed e => exact absurd hverdict (hv e)
    | inSync => exact ⟨_, List.mem_singleton_self _, _, k, .inl rfl⟩
    | rejected e => exact ⟨_, List.mem_singleton_self _, _, k, .inl rfl⟩
    | written => exact ⟨_, List.mem_singleton_self _, _, k, .inl rfl⟩
    | recreated e now => exact ⟨_, List.mem_singleton_self _, _, k, .inl rfl⟩
  · rw [hget]
    simp only [hs, hp, if_true]
    cases hverdict : env.verdict with
    | failed e => rw [hverdict] at hv; cases hv
    | inSync => rw [hverdict] at hv; cases hv
    | rejected e => exact ⟨_, List.mem_singleton_self _, _, k, .inr rfl⟩
    | written => exact ⟨_, List.mem_singleton_self _, _, k, .inr rfl⟩
    | recreated e now => exact ⟨_, List.mem_cons_self, _, k, .inr rfl⟩

/-- A copy that names another live cluster is created only if it names none. -/
theorem shouldCreate_other (ho : d.owner ≠ r.clusterID) (ha : env.alive d.owner = true) :
    shouldCreate env r d = true ↔ d.owner = "" ∧ syncDisabled d = false := by
  unfold shouldCreate isOwnedByAnotherAliveCluster
  by_cases he : d.owner = "" <;> by_cases hs : syncDisabled d = true <;> simp [he, hs, ho, ha]

theorem relays_iff : Relays x env r s m d k ↔ Offered x env r s m d ∧ KeyOf d k ∧
    (d.owner ≠ r.clusterID ∧ env.alive d.owner = true) ∧ Goes x env r s k d := by
  unfold Goes
  constructor
  · rintro ⟨hoff, hk, ho, ha, hthrough⟩
    refine ⟨hoff, hk, ⟨ho, ha⟩, ?_⟩
    rcases hthrough with ⟨hget, he, hs, hv⟩ | ⟨cur, hget, hs, hne, hal, hp, hv⟩
    · exact .inl ⟨hget, (shouldCreate_other ho ha).mpr ⟨he, hs⟩, hv⟩
    · exact .inr ⟨cur, hget, shouldUpdate_iff.mpr ⟨hs, hne, hal⟩, hp, hv⟩
  · rintro ⟨hoff, hk, ⟨ho, ha⟩, hgoes⟩
    refine ⟨hoff, hk, ho, ha, ?_⟩
    rcases hgoes with ⟨hget, hc, hv⟩ | ⟨cur, hget, hu, hp, hv⟩
    · obtain ⟨he, hs⟩ := (shouldCreate_other ho ha).mp hc
      exact .inl ⟨hget, he, hs, hv⟩
    · obtain ⟨hs, hne, hal⟩ := shouldUpdate_iff.mp hu
      exact .inr ⟨cur, hget, hs, hne, hal, hp, hv⟩

theorem not_brings_status {c : Call} {o : Obj} (hc : c ∈ statusPart x env r s m k d) :
    ¬c.brings o := by
  rintro ⟨k', rfl | rfl⟩
  all_goals
    unfold statusPart at hc
    split at hc
    · unfold statusCalls at hc
      split at hc
      · cases hc
      · split at hc
        · cases List.mem_singleton.mp hc
        · cases hc
    · cases hc

/-- **Content of a live owner**: what a request creates or updates names the
cluster it was read from, or a cluster that is not alive, exactly if the request
does not replace an object of its own by a copy of another live cluster's. -/
theorem content_rightful_iff (x : External) (env : Env) (r : SyncReconciler) (s : ApiServer)
    (req : NamespacedName) :
    (∀ c ∈ (reconciled x r s env req).calls, ∀ o, c.brings o →
      o.owner = r.clusterID ∨ env.alive o.owner = false) ↔
      ¬∃ m d k, Relays x env r s m d k := by
  constructor
  · rintro h ⟨m, d, k, hrel⟩
    obtain ⟨hoff, hk, ⟨ho, ha⟩, hgoes⟩ := relays_iff.mp hrel
    obtain ⟨c, hc, o, hbrings⟩ := brings_of_goes hgoes
    have howner := owner_of_brings hc hbrings
    have hmem : c ∈ (reconciled x r s env req).calls := by
      rw [offered_calls hoff hk]
      exact List.mem_append_left _ hc
    rcases h c hmem o hbrings with h | h
    · exact ho (howner.symm.trans h)
    · rw [howner, ha] at h
      cases h
  · intro h c hc o ho
    rcases calls_cases (x := x) (r := r) (s := s) req with hdel | ⟨m, d, k, hoff, hk⟩
    · obtain ⟨k, rfl⟩ := hdel c hc
      obtain ⟨k', h | h⟩ := ho <;> cases h
    · rw [offered_calls hoff hk] at hc
      rcases List.mem_append.mp hc with hc | hc
      · by_contra hno
        obtain ⟨hne, hal⟩ := not_or.mp hno
        rw [owner_of_brings hc ho] at hne hal
        exact h ⟨m, d, k, relays_iff.mpr
          ⟨hoff, hk, ⟨hne, by simpa using hal⟩, (mem_mainCalls hc).1⟩⟩
      · exact absurd ho (not_brings_status hc)

end relays

namespace Sample

/-- The server with one object. -/
def holding (o : Obj) : ApiServer := ApiServer.empty.put key o

/-- The read of the source with the clusters `A` and `R` alive. -/
def bothAlive (source : Obj) : Env :=
  { source := .ok source, alive := fun id => id == "A" || id == "R" }

end Sample

open Sample in
/-- The copy that `R` has of an object of the live cluster `A` replaces a copy of
an object of `R`. -/
theorem content_relayed :
    ∃ o, (reconciled .bare (syncing "L" "R") (holding (copyOf "R")) (bothAlive (copyOf "A"))
        req).calls = [.update key o] ∧
      o.owner = "A" ∧ (bothAlive (copyOf "A")).alive "A" = true ∧
      ((reconciled .bare (syncing "L" "R") (holding (copyOf "R")) (bothAlive (copyOf "A"))
        req).server.get key).map Obj.owner = some "A" := by
  refine ⟨_, rfl, ?_, ?_, ?_⟩
  all_goals decide +kernel

/-! ## The status -/

section status

variable (x env r s)

/-- The gate refuses the copy because of the object that is there, and the status
of the object is written all the same: `ReconcileResource` reports nothing. -/
structure WritesRefused (m : MatchedRules) (d : Obj) (k : Key) (cur : Obj) : Prop where
  offered : Offered x env r s m d
  key : KeyOf d k
  present : s.get k = some cur
  refused : syncDisabled cur = true ∨ cur.owner = "" ∨
    isOwnedByAnotherAliveCluster env r cur.owner = true
  syncStatus : m.getMutationSyncStatus = true
  reread : env.faults.getReconciled = none

variable {x env r s}

theorem shouldUpdate_eq_false {cur : Obj} : shouldUpdate env r cur = false ↔
    syncDisabled cur = true ∨ cur.owner = "" ∨
      isOwnedByAnotherAliveCluster env r cur.owner = true := by
  rw [← Bool.not_eq_true, shouldUpdate_iff]
  simp only [not_and_or, Bool.not_eq_false, not_not, ne_eq]

/-- A write that is to fail before it is issued. -/
theorem reconcileResource_failed {e : Err} (hk : KeyOf d k) (hget : st.server.get k = none)
    (hs : shouldCreate env st.r d = true) (hv : env.verdict = .failed e) :
    reconcileResource x env d st = (.error e, st) := by
  unfold reconcileResource
  rw [hk.1, lift_ok_bind, get_bind]
  simp only [← hk.eq, hget, hs, hv, if_true]
  rfl

/-- The status call of a request is on an object that was there, or that the
request has created. -/
theorem mem_statusPart {c : Call} (hk : KeyOf d k) (hc : c ∈ statusPart x env r s m k d) :
    (∃ version, c = .updateStatus k { d with resourceVersion := version }) ∧
      env.faults.getReconciled = none ∧ m.getMutationSyncStatus = true ∧
      (s.get k = none → ∃ o, (∃ s', s.create k o = .ok s') ∧
        .create k o ∈ mainCalls x env r s k d) := by
  unfold statusPart at hc
  rcases hrec : reconcileResource x env d ⟨marked x env r, s, [], []⟩ with ⟨e | _, st⟩
  · rw [hrec] at hc
    cases hc
  · rw [hrec] at hc
    simp only [statusCalls] at hc
    cases hfound : st.server.get k with
    | none => rw [hfound] at hc; cases hc
    | some cur =>
      rw [hfound] at hc
      simp only at hc
      split_ifs at hc with hif
      · refine ⟨⟨_, List.mem_singleton.mp hc⟩, hif.1, hif.2, fun hget => ?_⟩
        have hgate : shouldCreate env (marked x env r) d = _ := shouldCreate_same marked_same d
        have hs : shouldCreate env r d = true := by
          by_contra hs
          have hnot : reconcileResource x env d ⟨marked x env r, s, [], []⟩ = _ :=
            reconcileResource_refused hk
              (.inl ⟨hget, hgate.trans (Bool.eq_false_iff.mpr hs)⟩)
          cases hnot.symm.trans hrec
          rw [hget] at hfound
          cases hfound
        refine ⟨x.merge.object none d, ⟨_, by unfold ApiServer.create; rw [hget]⟩, ?_⟩
        unfold mainCalls
        simp only [hget, hs, if_true]
        cases hv : env.verdict with
        | failed e =>
          have hfail : reconcileResource x env d ⟨marked x env r, s, [], []⟩ = _ :=
            reconcileResource_failed hk hget (hgate.trans hs) hv
          cases hfail.symm.trans hrec
        | inSync => exact List.mem_singleton_self _
        | rejected e => exact List.mem_singleton_self _
        | written => exact List.mem_singleton_self _
        | recreated e now => exact List.mem_singleton_self _
      · cases hc

/-- After a refusal the object is found by the second read. -/
theorem statusPart_refused {cur : Obj} (h : WritesRefused x env r s m d k cur) :
    statusPart x env r s m k d =
      [.updateStatus k { d with resourceVersion := cur.resourceVersion }] := by
  have hgate : shouldUpdate env (marked x env r) cur = _ := shouldUpdate_same marked_same cur
  have hnot : reconcileResource x env d ⟨marked x env r, s, [], []⟩ = _ :=
    reconcileResource_refused h.key
      (.inr ⟨cur, h.present, hgate.trans (shouldUpdate_eq_false.mpr h.refused)⟩)
  unfold statusPart
  rw [hnot]
  simp only [statusCalls, h.present, h.reread, h.syncStatus, and_self, if_true]

/-- A call that neither creates nor updates an object nor writes its status leaves
the status. -/
theorem status_apply {c : Call} {s' : ApiServer} {cur cur' : Obj} (ha : c.apply s = .ok s')
    (hmain : c.mainKey = some k → c = .delete k) (hstatus : ∀ o, c ≠ .updateStatus k o)
    (hcur' : s'.get k = some cur') (hcur : ∀ o, s.get k = some o → o.status = cur.status) :
    cur'.status = cur.status := by
  cases c with
  | create k' o =>
    obtain ⟨-, rfl⟩ := ApiServer.create_eq_ok ha
    rw [ApiServer.get_put, if_neg fun e => by cases hmain (congrArg some e.symm)] at hcur'
    exact hcur _ hcur'
  | update k' o =>
    have hne : ¬k = k' := fun e => by cases hmain (congrArg some e.symm)
    obtain ⟨_, -, rfl | rfl⟩ := ApiServer.update_eq_ok ha
    · rw [ApiServer.get_erase, if_neg hne] at hcur'
      exact hcur _ hcur'
    · rw [ApiServer.get_put, if_neg hne] at hcur'
      exact hcur _ hcur'
  | delete k' =>
    obtain ⟨o, ho, ⟨-, rfl⟩ | rfl⟩ := ApiServer.delete_eq_ok ha
    · rw [ApiServer.get_erase] at hcur'
      split_ifs at hcur'
      exact hcur _ hcur'
    · rw [ApiServer.get_put] at hcur'
      split_ifs at hcur' with e
      · subst e
        cases hcur'
        exact hcur o ho
      · exact hcur _ hcur'
  | updateStatus k' o =>
    obtain ⟨_, -, rfl⟩ := ApiServer.updateStatus_eq_ok ha
    rw [ApiServer.get_put, if_neg fun e => hstatus o (by rw [e])] at hcur'
    exact hcur _ hcur'

variable (x env r s) in
/-- The status of an object is written only if the request created the object, or
could update it, and the status of any other object stays. -/
def StatusGated (req : NamespacedName) : Prop :=
  (∀ k o, .updateStatus k o ∈ (reconciled x r s env req).calls →
    (∃ d s', s.create k d = .ok s' ∧ .create k d ∈ (reconciled x r s env req).calls) ∨
      ∃ cur, s.get k = some cur ∧ shouldUpdate env r cur = true) ∧
  ∀ k cur, s.get k = some cur → shouldUpdate env r cur = false →
    ∀ cur', (reconciled x r s env req).server.get k = some cur' → cur'.status = cur.status

/-- A main call on an object that the gate refuses is the deletion of a copy
whose source is gone. -/
theorem mainKey_refused {req : NamespacedName} {c : Call} {cur : Obj}
    (hc : c ∈ (reconciled x r s env req).calls) (hget : s.get k = some cur)
    (hu : shouldUpdate env r cur = false) (hk : c.mainKey = some k) : c = .delete k := by
  rcases calls_cases (x := x) (r := r) (s := s) req with hdel | ⟨m, d, k', hoff, hkey⟩
  · obtain ⟨k', rfl⟩ := hdel c hc
    cases hk
    rfl
  · rw [offered_calls hoff hkey] at hc
    rcases List.mem_append.mp hc with hc | hc
    · obtain ⟨hgoes, hform⟩ := mem_mainCalls hc
      have hk' : k' = k := by
        rcases hform with rfl | ⟨_, rfl | rfl, -⟩ <;> exact Option.some.inj hk
      subst hk'
      rcases hgoes with ⟨hnone, -⟩ | ⟨cur', hcur', hgate, -⟩
      · rw [hget] at hnone
        cases hnone
      · cases hget.symm.trans hcur'
        rw [hu] at hgate
        cases hgate
    · obtain ⟨⟨_, rfl⟩, -⟩ := mem_statusPart hkey hc
      cases hk

/-- **The status obeys the gate** exactly if no request writes the status of an
object for which the gate has refused the copy. -/
theorem status_gated_iff (x : External) (env : Env) (r : SyncReconciler) (s : ApiServer)
    (req : NamespacedName) :
    StatusGated x env r s req ↔ ¬∃ m d k cur, WritesRefused x env r s m d k cur := by
  constructor
  · rintro ⟨hcalls, -⟩ ⟨m, d, k, cur, h⟩
    have hmem : .updateStatus k { d with resourceVersion := cur.resourceVersion } ∈
        (reconciled x r s env req).calls := by
      rw [offered_calls h.offered h.key, statusPart_refused h]
      exact List.mem_append_right _ (List.mem_singleton_self _)
    rcases hcalls k _ hmem with ⟨_, _, hcreate, -⟩ | ⟨cur', hcur', hu⟩
    · cases h.present.symm.trans (ApiServer.create_eq_ok hcreate).1
    · cases h.present.symm.trans hcur'
      rw [shouldUpdate_eq_false.mpr h.refused] at hu
      cases hu
  · intro hno
    have hcalls : ∀ k o, .updateStatus k o ∈ (reconciled x r s env req).calls →
        (∃ d s', s.create k d = .ok s' ∧ .create k d ∈ (reconciled x r s env req).calls) ∨
          ∃ cur, s.get k = some cur ∧ shouldUpdate env r cur = true := by
      intro k o hc
      rcases calls_cases (x := x) (r := r) (s := s) req with hdel | ⟨m, d, k', hoff, hkey⟩
      · obtain ⟨_, h⟩ := hdel _ hc
        cases h
      · rw [offered_calls hoff hkey] at hc ⊢
        rcases List.mem_append.mp hc with hc | hc
        · rcases (mem_mainCalls hc).2 with h | ⟨_, h | h, -⟩ <;> cases h
        · obtain ⟨⟨_, h⟩, hread, hsync, hcreated⟩ := mem_statusPart hkey hc
          cases h
          cases hget : s.get k with
          | none =>
            obtain ⟨o, ⟨s', hs'⟩, hmem⟩ := hcreated hget
            exact .inl ⟨o, s', hs', List.mem_append_left _ hmem⟩
          | some cur =>
            refine .inr ⟨cur, rfl, ?_⟩
            by_contra hu
            exact hno ⟨m, d, k, cur, hoff, hkey, hget,
              shouldUpdate_eq_false.mp (Bool.eq_false_iff.mpr hu), hsync, hread⟩
    refine ⟨hcalls, fun k cur hget hu => ?_⟩
    refine Issued.keeps_mem reconciled_issued
      (P := fun t => ∀ o, t.get k = some o → o.status = cur.status)
      (fun t c t' hc ht ha o ho => ?_) (fun o ho => by cases hget.symm.trans ho; rfl)
    refine status_apply ha (mainKey_refused hc hget hu) (fun o' e => ?_) ho ht
    subst e
    rcases hcalls k o' hc with ⟨_, _, hcreate, -⟩ | ⟨cur', hcur', hgate⟩
    · cases hget.symm.trans (ApiServer.create_eq_ok hcreate).1
    · cases hget.symm.trans hcur'
      rw [hu] at hgate
      cases hgate

end status

namespace Sample

/-- A rule that copies every object of the kind with its status. -/
def statusRule : ResourceSyncRule :=
  ⟨"rule", "", ⟨none, gvk, some [{ mutations := { syncStatus := true } }]⟩⟩

end Sample

open Sample in
/-- A local object without an owner gets the status of the remote object of its name. -/
theorem status_overwritten :
    shouldUpdate (bothAlive { stored with status := "theirs" })
      ((newSyncReconciler statusRule "R" false).start "L")
      { stored with status := "ours" } = false ∧
    ((holding { stored with status := "ours" }).get key).map Obj.status = some "ours" ∧
    ((reconciled .bare ((newSyncReconciler statusRule "R" false).start "L")
      (holding { stored with status := "ours" }) (bothAlive { stored with status := "theirs" })
      req).server.get key).map Obj.status = some "theirs" := by
  refine ⟨?_, ?_, ?_⟩
  all_goals decide +kernel

/-! ## Errors of the rule -/

/-- With a rule that cannot be evaluated the request succeeds and does nothing:
the error comes with a no, and the no is looked at first. -/
theorem reconcile_of_fails {stored : Obj} (hsrc : env.source = .ok stored)
    (hlive : stored.deletionTimestamp = none)
    (hfail : st.r.rule.spec.Fails x (sourceObj x st.r stored)) (req : NamespacedName) :
    reconcile x env req st = (.ok {}, st) := by
  have hfalse : (st.r.rule.match x (sourceObj x st.r stored)).1 = false :=
    ResourceSyncRuleSpec.match_fails_iff.2 (ResourceSyncRuleSpec.match_fails_iff.1.mpr hfail)
  rw [reconcile_live hsrc hlive]
  unfold reconcileFound
  rw [get_bind]
  rcases hm : st.r.rule.match x (sourceObj x st.r stored) with ⟨ok, matched, e⟩
  rw [hm] at hfalse
  cases hfalse
  rfl

/-- **Errors of the rule surface** exactly if there are none. -/
theorem match_error_surfaces_iff (x : External) (env : Env) (st : SyncState)
    (req : NamespacedName) (stored : Obj) (hsrc : env.source = .ok stored)
    (hlive : stored.deletionTimestamp = none) :
    ((st.r.rule.match x (sourceObj x st.r stored)).2.2 ≠ none →
      ∃ e, (reconcile x env req st).1 = .error e) ↔
        ¬st.r.rule.spec.Fails x (sourceObj x st.r stored) := by
  have hiff : (st.r.rule.match x (sourceObj x st.r stored)).2.2 ≠ none ↔
      st.r.rule.spec.Fails x (sourceObj x st.r stored) :=
    ResourceSyncRuleSpec.match_fails_iff.1
  rw [hiff]
  constructor
  · intro h hfail
    obtain ⟨e, he⟩ := h hfail
    rw [reconcile_of_fails hsrc hlive hfail] at he
    cases he
  · exact fun hno hfail => absurd hfail hno

namespace Sample

/-- No selector can be converted. -/
def strict : External :=
  { External.bare with labelSelectorAsSelector := fun _ => .error (Err.new "invalid selector") }

def selectorRule : ResourceSyncRule :=
  ⟨"rule", "", ⟨none, gvk, some [{ «matches» := some [{ labels := some [⟨none, none⟩] }] }]⟩⟩

/-- A reconciler for the rule with nothing done yet. -/
def labelSyncer : SyncState where
  r := (newSyncReconciler selectorRule "R" false).start "L"
  server := .empty

end Sample

open Sample in
theorem match_error_surfaces_iff_plain :
    ¬rule.spec.Fails .bare (sourceObj .bare (syncing "L" "R") stored) ∧
      ((rule.match .bare (sourceObj .bare (syncing "L" "R") stored)).2.2 ≠ none →
        ∃ e, (reconcile .bare (bothAlive stored) req ⟨syncing "L" "R", .empty, [], []⟩).1 =
          .error e) := by
  have h := match_error_surfaces_iff .bare (bothAlive stored) ⟨syncing "L" "R", .empty, [], []⟩ req
    stored rfl rfl
  have hno : ¬rule.spec.Fails .bare (sourceObj .bare (syncing "L" "R") stored) := by
    rintro ⟨-, r, hr, before, m, after, hm, -⟩
    cases List.mem_singleton.mp hr
    cases before <;> cases hm
  exact ⟨hno, h.mpr hno⟩

open Sample in
/-- An invalid selector, and the request reports success. -/
theorem match_error_lost :
    (selectorRule.match strict (sourceObj strict labelSyncer.r stored)).2.2 =
        some (Err.new "invalid selector") ∧
      (reconcile strict (bothAlive stored) req labelSyncer).1 = .ok {} ∧
      (reconcile strict (bothAlive stored) req labelSyncer).2.calls = [] := by
  refine ⟨?_, ?_, rfl⟩
  · decide +kernel
  · rfl

end ClusterRegistry.Sync
