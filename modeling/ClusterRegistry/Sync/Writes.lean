import ClusterRegistry.Sync.Reconciler

/-!
# What a reconcile call may write

`Gate` lists the write calls a reconcile call can issue, each with what the
reconciler has checked by then; `reconcile_writes` says that there are no
others. Everything the sync system guarantees about stored objects is read off
this list.
-/

namespace ClusterRegistry.Sync

open Lib Lib.Eff

/-- Calls issued one after the other, each allowed by `G` where it is issued;
the API server takes or refuses it. -/
inductive Issued (G : ApiServer → Call → Prop) : ApiServer → List Call → ApiServer → Prop where
  | nil (s : ApiServer) : Issued G s [] s
  | taken {s s' t : ApiServer} {c : Call} {cs : List Call} : G s c → c.apply s = .ok s' →
      Issued G s' cs t → Issued G s (c :: cs) t
  | refused {s t : ApiServer} {c : Call} {cs : List Call} : G s c → Issued G s cs t →
      Issued G s (c :: cs) t

namespace Issued

variable {G H : ApiServer → Call → Prop} {s t u : ApiServer} {cs ds : List Call}

theorem trans (h1 : Issued G s cs t) (h2 : Issued G t ds u) : Issued G s (cs ++ ds) u := by
  induction h1 with
  | nil => exact h2
  | taken hg ha _ ih => exact .taken hg ha (ih h2)
  | refused hg _ ih => exact .refused hg (ih h2)

/-- What every call keeps, the sequence keeps. -/
theorem keeps {P : ApiServer → Prop} (hP : ∀ s c s', P s → G s c → c.apply s = .ok s' → P s')
    (h : Issued G s cs t) (h0 : P s) : P t := by
  induction h with
  | nil => exact h0
  | taken hg ha _ ih => exact ih (hP _ _ _ h0 hg ha)
  | refused _ _ ih => exact ih h0

/-- What every call of the sequence keeps, it keeps as a whole. -/
theorem keeps_mem {P : ApiServer → Prop} (h : Issued G s cs t)
    (hP : ∀ s c s', c ∈ cs → P s → c.apply s = .ok s' → P s') (h0 : P s) : P t := by
  induction h with
  | nil => exact h0
  | taken _ ha _ ih =>
    exact ih (fun s c s' hc => hP s c s' (List.mem_cons_of_mem _ hc))
      (hP _ _ _ List.mem_cons_self h0 ha)
  | refused _ _ ih => exact ih (fun s c s' hc => hP s c s' (List.mem_cons_of_mem _ hc)) h0

/-- Every call was allowed in a state that satisfies what all calls keep. -/
theorem allowed {P : ApiServer → Prop} (hP : ∀ s c s', P s → G s c → c.apply s = .ok s' → P s')
    (h : Issued G s cs t) (h0 : P s) : ∀ c ∈ cs, ∃ s', P s' ∧ G s' c := by
  induction h with
  | nil => intro c hc; cases hc
  | taken hg ha _ ih =>
    intro c hc
    rcases List.mem_cons.mp hc with rfl | hc
    · exact ⟨_, h0, hg⟩
    · exact ih (hP _ _ _ h0 hg ha) c hc
  | refused hg _ ih =>
    intro c hc
    rcases List.mem_cons.mp hc with rfl | hc
    · exact ⟨_, h0, hg⟩
    · exact ih h0 c hc

end Issued

/-- From `st`, the program issues only calls that `G` allows. -/
def Writes (G : ApiServer → Call → Prop) {α : Type} (m : SyncM α) (st : SyncState) : Prop :=
  Ends m (fun _ st' => ∃ cs, st'.calls = st.calls ++ cs ∧ Issued G st.server cs st'.server) st

namespace Writes

variable {G : ApiServer → Call → Prop} {α β : Type} {st : SyncState}

/-- A program that leaves server and record alone. -/
theorem quiet {m : SyncM α} (h : Ends m (fun _ st' => st'.calls = st.calls ∧
    st'.server = st.server) st) : Writes G m st :=
  h.mono fun _ _ ⟨hc, hs⟩ => ⟨[], by rw [hc, List.append_nil], hs ▸ .nil _⟩

/-- A program that changes nothing. -/
theorem still {m : SyncM α} (h : Ends m (fun _ st' => st' = st) st) : Writes G m st :=
  quiet (h.mono fun _ _ e => by rw [e]; exact ⟨rfl, rfl⟩)

theorem bind {m : SyncM α} {f : α → SyncM β} (hm : Writes G m st)
    (hf : ∀ a st', m st = (.ok a, st') → Writes G (f a) st') : Writes G (m >>= f) st := by
  unfold Writes at hm ⊢
  rw [ends_bind]
  unfold Ends at hm ⊢
  obtain ⟨cs, hc, hi⟩ := hm
  rcases hmst : m st with ⟨e | a, st'⟩
  · rw [hmst] at hc hi; exact ⟨cs, hc, hi⟩
  · rw [hmst] at hc hi
    obtain ⟨ds, hd, hj⟩ := hf a st' hmst
    exact ⟨cs ++ ds, by rw [hd, hc, List.append_assoc], hi.trans hj⟩

theorem pure (a : α) : Writes G (Pure.pure a) st := still rfl

theorem throw (e : Err) : Writes G (Eff.throw e : SyncM α) st := still rfl

theorem lift (r : Except Err α) : Writes G (Eff.lift r) st := still rfl

theorem get : Writes G (Eff.get : SyncM SyncState) st := still rfl

theorem bind_get {f : SyncState → SyncM β} (h : Writes G (f st) st) : Writes G (Eff.get >>= f) st :=
  .bind .get fun _ _ e => by cases e; exact h

theorem bind_lift {r : Except Err α} {f : α → SyncM β}
    (h : ∀ a, r = .ok a → Writes G (f a) st) : Writes G (Eff.lift r >>= f) st :=
  .bind (.lift r) fun a st' e => by
    obtain ⟨ha, rfl⟩ := Prod.mk.inj e
    exact h a ha

theorem mapError {f : Err → Err} {m : SyncM α} (h : Writes G m st) :
    Writes G (Eff.mapError f m) st := by
  unfold Writes at h ⊢
  rw [ends_mapError]
  exact h.mono fun r _ hr => by cases r <;> exact hr

theorem attempt {m : SyncM α} (h : Writes G m st) : Writes G (Eff.attempt m) st := h

theorem record (t : EventType) (reason msg : String) : Writes G (Sync.record t reason msg) st :=
  quiet ⟨rfl, rfl⟩

theorem issue {c : Call} (hg : G st.server c) (fault : Option Err) :
    Writes G (Sync.issue fault c) st := by
  unfold Writes Sync.issue
  simp only [ends_bind, ends_modify]
  cases fault with
  | some e => exact ⟨[c], rfl, .refused hg (.nil _)⟩
  | none =>
    simp only [ends_bind, ends_get]
    split
    · exact ⟨[c], rfl, .refused hg (.nil _)⟩
    · next ha => exact ⟨[c], rfl, .taken hg ha (.nil _)⟩

end Writes

/-! ## The gate -/

section gate

variable (x : External) (env : Env) (r : SyncReconciler)

/-- The client object a read of the source fills. -/
def sourceObj (stored : Obj) : Obj := readInto (initObjectFromGVK x r.gvk) stored

/-- The source was not found, or was found being deleted. -/
def SourceGone : Prop :=
  (∃ e, env.source = .error e ∧ e.reason = .notFound) ∨
    ∃ o, env.source = .ok o ∧ o.deletionTimestamp.isSome

/-- `d` is the copy wanted of the source object `stored`, which is there. -/
structure Copies (stored : Obj) (matched : MatchedRules) (d : Obj) : Prop where
  source : env.source = .ok stored
  live : stored.deletionTimestamp = none
  ruled : r.rule.match x (sourceObj x r stored) = (true, matched, none)
  mutated : mutated x env r (sourceObj x r stored) matched = .ok d

def Desired (matched : MatchedRules) (d : Obj) : Prop := ∃ stored, Copies x env r stored matched d

/-- `k` is where the client writes `d`. -/
def KeyOf (d : Obj) (k : Key) : Prop :=
  gvkForObject d = .ok k.gvk ∧ k.namespace = d.namespace ∧ k.name = d.name

theorem KeyOf.eq {d : Obj} {k : Key} (h : KeyOf d k) : k = ⟨k.gvk, d.namespace, d.name⟩ := by
  rw [← h.2.1, ← h.2.2]

/-- The write calls of a reconcile call that starts on the server `s₀`. Only a
recreation and the status follow another call. -/
inductive Gate (s₀ : ApiServer) : ApiServer → Call → Prop where
  /-- The source is gone, and the object is a copy that no other live cluster owns. -/
  | delete {k : Key} {cur : Obj} : SourceGone env → s₀.get k = some cur → cur.owner ≠ "" →
      isOwnedByAnotherAliveCluster env r cur.owner = false → Gate s₀ s₀ (.delete k)
  | create {k : Key} {m : MatchedRules} {d : Obj} : Desired x env r m d → KeyOf d k →
      s₀.get k = none → shouldCreate env r d = true →
      Gate s₀ s₀ (.create k (x.merge.object none d))
  | update {k : Key} {m : MatchedRules} {d cur : Obj} (payload : String) :
      Desired x env r m d → KeyOf d k → s₀.get k = some cur → shouldUpdate env r cur = true →
      Gate s₀ s₀ (.update k (replacement x cur d payload))
  /-- A recreation: the delete, and the create that may follow it. -/
  | clear {k : Key} {m : MatchedRules} {d cur : Obj} : Desired x env r m d → KeyOf d k →
      s₀.get k = some cur → shouldUpdate env r cur = true → Gate s₀ s₀ (.delete k)
  | recreate {s : ApiServer} {k : Key} {m : MatchedRules} {d cur : Obj} (payload : String) :
      Desired x env r m d → KeyOf d k → s₀.get k = some cur → shouldUpdate env r cur = true →
      Gate s₀ s (.create k (replacement x cur d payload))
  | status {s : ApiServer} {k : Key} {m : MatchedRules} {d : Obj} (version : String) :
      Desired x env r m d → KeyOf d k → m.getMutationSyncStatus = true →
      Gate s₀ s (.updateStatus k { d with resourceVersion := version })

end gate

variable {x : External} {env : Env} {st : SyncState}

/-! ## Reads -/

/-- `o` is a client's copy of what the server keeps under `k`, and further
calls with it go to `k`. -/
structure ReadAt (s : ApiServer) (k : Key) (o : Obj) : Prop where
  stored : ∃ stored, s.get k = some stored ∧ o = { stored with goType := o.goType }
  addr : ∀ gvk, gvkForObject o = .ok gvk → (⟨gvk, o.namespace, o.name⟩ : Key) = k

theorem ReadAt.get {s : ApiServer} {k : Key} {o : Obj} (h : ReadAt s k o) :
    ∃ stored, s.get k = some stored ∧ stored.annotations = o.annotations := by
  obtain ⟨stored, hs, ho⟩ := h.stored
  exact ⟨stored, hs, by rw [ho]⟩

theorem readAt_readInto {s : ApiServer} {into stored : Obj} {gvk : GVK} {ns name : String}
    (hg : gvkForObject into = .ok gvk) (hs : s.get ⟨gvk, ns, name⟩ = some stored) :
    ReadAt s ⟨gvk, ns, name⟩ (readInto into stored) := by
  have hk := ApiServer.key_of_get hs
  simp only [Obj.key, Key.mk.injEq] at hk
  obtain ⟨rfl, rfl, rfl⟩ := hk
  refine ⟨⟨stored, hs, rfl⟩, fun g h => ?_⟩
  have : g = stored.gvk := by
    unfold gvkForObject at hg h
    cases ht : into.goType with
    | some t =>
      simp only [readInto, ht, Except.ok.injEq] at hg h
      rw [← h, hg]
    | none =>
      simp only [readInto, ht] at h
      split_ifs at h
      exact (Except.ok.inj h).symm
  rw [this]; rfl

theorem readAt_unstructured {s : ApiServer} {o : Obj} (h : o ∈ s.objs.toList) :
    ReadAt s o.key { o with goType := none } := by
  refine ⟨⟨o, Table.mem_toList.mp h, rfl⟩, fun g hg => ?_⟩
  unfold gvkForObject at hg
  simp only at hg
  split_ifs at hg
  cases hg
  rfl

theorem localGet_ends (st : SyncState) (fault : Option Err) (into : Obj) (nn : NamespacedName) :
    Ends (localGet fault into nn) (fun res st' => st' = st ∧ ∀ o, res = .ok (some o) →
      ∃ k, ReadAt st.server k o) st := by
  unfold localGet
  simp only [ends_bind, ends_lift]
  cases hg : gvkForObject into with
  | error e => simp
  | ok gvk =>
    cases fault with
    | some e => simp
    | none =>
      simp only [ends_bind, ends_get, ends_pure, true_and]
      intro o ho
      simp only [Except.ok.injEq, Option.map_eq_some_iff] at ho
      obtain ⟨stored, hs, rfl⟩ := ho
      exact ⟨_, readAt_readInto hg hs⟩

theorem localGet_writes (G : ApiServer → Call → Prop) (fault : Option Err) (into : Obj)
    (nn : NamespacedName) : Writes G (localGet fault into nn) st :=
  .still ((localGet_ends _ fault into nn).mono fun _ _ h => h.1)

theorem getObjectByOriginalNamespaceAndName_ends (obj : Obj) (gvk : GVK) :
    Ends (getObjectByOriginalNamespaceAndName env obj gvk) (fun res st' => st' = st ∧
      ∀ o, res = .ok (some o) → ∃ k, ReadAt st.server k o) st := by
  unfold getObjectByOriginalNamespaceAndName
  simp only [ends_bind, ends_get]
  split
  · simp
  · split
    · simp
    · split
      · simp
      · next o hl =>
        refine ⟨rfl, fun o' ho => ?_⟩
        cases ho
        have : [o] ⊆ st.server.objs.toList := hl ▸ List.filter_subset_self _
        exact ⟨_, readAt_unstructured (this (List.mem_singleton_self o))⟩
      · simp

/-! ## Deletion -/

theorem findCurrent_ends (env : Env) (st : SyncState) (obj : Obj) :
    Ends (findCurrent env obj) (fun res st' => st' = st ∧ ∀ o, res = .ok (some o) →
      ∃ k, ReadAt st.server k o) st := by
  unfold findCurrent
  simp only [ends_bind, ends_get, ends_ite]
  split
  · exact getObjectByOriginalNamespaceAndName_ends obj _
  · exact localGet_ends _ _ _ _

/-- What `deleteTarget` settles on is a stored copy that no other live cluster owns. -/
theorem deleteTarget_ends (env : Env) (st : SyncState) (obj : Obj) :
    Ends (deleteTarget env obj) (fun res st' => st' = st ∧ ∀ o, res = .ok (some o) →
      o.owner ≠ "" ∧ isOwnedByAnotherAliveCluster env st.r o.owner = false ∧
        ∃ k, ReadAt st.server k o) st := by
  refine (findCurrent_ends env st obj).bind (fun e st' h => by simp [h.1]) fun found st' h => ?_
  obtain ⟨rfl, hread⟩ := h
  cases found with
  | none => simp
  | some o =>
    simp only [ends_bind, ends_get, ends_ite, ends_pure]
    split
    · simp
    · next ho =>
      split
      · simp
      · next ha =>
        refine ⟨trivial, fun o' e => ?_⟩
        cases e
        exact ⟨ho, by simpa using ha, hread o rfl⟩

theorem deleteObject_writes {G : ApiServer → Call → Prop} {k : Key} {o : Obj}
    (ho : ∀ gvk, gvkForObject o = .ok gvk → (⟨gvk, o.namespace, o.name⟩ : Key) = k)
    (hg : G st.server (.delete k)) : Writes G (deleteObject env o) st := by
  refine .bind_lift fun gvk h => ?_
  rw [ho gvk h]
  refine .bind (.attempt (.issue hg _)) fun res st' h => ?_
  cases res with
  | ok _ => exact .pure _
  | error e =>
    by_cases c : (e.reason != .notFound) = true
    · simp only [c, ↓reduceIte]; exact .throw e
    · simp only [c]; exact .pure _

theorem deleteResource_writes (hgone : SourceGone env) (obj : Obj) :
    Writes (Gate x env st.r st.server) (deleteResource env obj) st := by
  have ht := deleteTarget_ends env st obj
  unfold deleteResource
  refine .bind (.still (ht.mono fun _ _ h => h.1)) fun found st' h => ?_
  unfold Ends at ht
  rw [h] at ht
  obtain ⟨rfl, hread⟩ := ht
  cases found with
  | none => exact .pure _
  | some o =>
    obtain ⟨hne, hal, k, hk⟩ := hread o rfl
    obtain ⟨stored, hs, ha⟩ := hk.get
    have ho : stored.owner = o.owner := by unfold Obj.owner; rw [ha]
    exact deleteObject_writes hk.addr (.delete hgone hs (by rwa [ho]) (by rwa [ho]))

/-! ## Creation and update -/

theorem mutateObject_eq (x : External) (env : Env) (st : SyncState) (current : Obj)
    (matched : MatchedRules) :
    mutateObject x env current matched st =
      match mutated x env st.r current matched with
      | .error e => (.error e, st)
      | .ok obj => (.ok obj, { st with r := markMutated current obj st.r }) := by
  show Eff.bind _ _ st = _
  cases mutated x env st.r current matched <;> rfl

section write

variable {r : SyncReconciler} {m : MatchedRules} {d : Obj} {s₀ : ApiServer}

theorem reconcileResource_writes (hd : Desired x env r m d)
    (hc : shouldCreate env st.r = shouldCreate env r)
    (hu : shouldUpdate env st.r = shouldUpdate env r) :
    Writes (Gate x env r st.server) (reconcileResource x env d) st := by
  refine .bind_lift fun gvk hg => ?_
  have hk : KeyOf d ⟨gvk, d.namespace, d.name⟩ := ⟨hg, rfl, rfl⟩
  refine .bind_get ?_
  rw [hc, hu]
  cases hget : st.server.get ⟨gvk, d.namespace, d.name⟩ with
  | none =>
    simp only [hget]
    by_cases c : shouldCreate env r d = true
    · simp only [c, ↓reduceIte]
      have hgate : Gate x env r st.server st.server (.create _ (x.merge.object none d)) :=
        .create hd hk hget c
      cases env.verdict with
      | failed e => exact .throw e
      | rejected e => exact .issue hgate _
      | inSync => exact .issue hgate _
      | written => exact .issue hgate _
      | recreated e now => exact .issue hgate _
    · simp only [c]; exact .pure _
  | some cur =>
    simp only [hget]
    by_cases c : shouldUpdate env r cur = true
    · simp only [c, ↓reduceIte]
      refine .bind_lift fun payload _ => ?_
      have hgate : Gate x env r st.server st.server (.update _ (replacement x cur d payload)) :=
        .update payload hd hk hget c
      cases env.verdict with
      | failed e => exact .throw e
      | rejected e => exact .issue hgate _
      | inSync => exact .pure _
      | written => exact .issue hgate _
      | recreated e now =>
        refine .bind (.attempt (.issue hgate _)) fun _ st' h => ?_
        have hst : st'.server = st.server := by cases h; rfl
        refine .bind (.issue (by rw [hst]; exact .clear hd hk hget c) _) fun _ st'' _ => ?_
        cases now with
        | false => exact .pure _
        | true =>
          simp only [↓reduceIte]
          exact .issue (.recreate payload hd hk hget c) _
    · simp only [c]; exact .pure _

theorem syncStatus_writes (hd : Desired x env r m d) (req : NamespacedName) :
    Writes (Gate x env r s₀) (syncStatus env req m d) st := by
  unfold syncStatus
  refine .bind (.mapError (localGet_writes _ _ _ _)) fun found st' _ => ?_
  cases found with
  | none => exact .pure _
  | some obj =>
    have tail : ∀ st, Writes (Gate x env r s₀) (do
        if (← get).r.rule.uid != "" then
          record .normal "ObjectReconciled" ("object reconciled (resource: " ++ req.string ++ ")")
        return ({} : Result)) st := by
      intro st
      refine .bind_get ?_
      split
      · exact .bind (.record _ _ _) fun _ _ _ => .pure _
      · exact .pure _
    by_cases c : m.getMutationSyncStatus = true
    · simp only [c, ↓reduceIte]
      refine .bind (.mapError (.bind_lift fun gvk hg => ?_)) fun _ _ _ => tail _
      exact .issue (.status _ hd ⟨hg, rfl, rfl⟩ c) _
    · simp only [c]; exact tail _

theorem writeLimited_writes (hd : Desired x env r m d)
    (hc : shouldCreate env st.r = shouldCreate env r)
    (hu : shouldUpdate env st.r = shouldUpdate env r) (req : NamespacedName) :
    Writes (Gate x env r st.server) (writeLimited x env req m d) st := by
  have write : Writes (Gate x env r st.server) (writeAllowed x env req m d) st := by
    refine .bind (.attempt (reconcileResource_writes hd hc hu)) fun res st' _ => ?_
    cases res with
    | ok _ => exact syncStatus_writes hd req
    | error e =>
      by_cases c : e.reason = .alreadyExists
      · simp only [c, ↓reduceIte]; exact .pure _
      · simp only [c]; exact .throw _
  refine .bind_get ?_
  split
  · cases env.rateLimit with
    | error e => exact .throw _
    | ok limited =>
      cases limited with
      | true => exact .bind (.record _ _ _) fun _ _ _ => .pure _
      | false => exact write
  · exact write

theorem writeLocal_writes (hd : Desired x env r m d)
    (hc : shouldCreate env st.r = shouldCreate env r)
    (hu : shouldUpdate env st.r = shouldUpdate env r) (req : NamespacedName) :
    Writes (Gate x env r st.server) (writeLocal x env req m d) st := by
  unfold writeLocal
  split
  · exact writeLimited_writes hd hc hu req
  · refine .bind (localGet_writes _ _ _ _) fun found st' h => ?_
    have hl := localGet_ends st env.faults.getNamespace
      { name := "", «namespace» := "", gvk := namespaceGVK } ⟨"", d.namespace⟩
    unfold Ends at hl
    rw [h] at hl
    obtain ⟨rfl, -⟩ := hl
    cases found with
    | some _ => exact writeLimited_writes hd hc hu req
    | none => exact .bind (.record _ _ _) fun _ _ _ => .pure _

end write

theorem reconcileFound_writes {stored : Obj} (hsrc : env.source = .ok stored)
    (hdel : stored.deletionTimestamp = none) (req : NamespacedName) :
    Writes (Gate x env st.r st.server) (reconcileFound x env req (sourceObj x st.r stored)) st := by
  refine .bind_get ?_
  rcases hm : st.r.rule.match x (sourceObj x st.r stored) with ⟨_ | _, matched, _ | e⟩
  · exact .pure _
  · exact .pure _
  · simp only
    have hmut := mutateObject_eq x env st (sourceObj x st.r stored) matched
    cases hd : mutated x env st.r (sourceObj x st.r stored) matched with
    | error e =>
      rw [hd] at hmut
      refine .bind (.mapError (.still ?_)) fun d st' h => ?_
      · unfold Ends; rw [hmut]
      · unfold mapError at h; rw [hmut] at h; cases h
    | ok d =>
      rw [hd] at hmut
      refine .bind (.mapError (.quiet ?_)) fun d' st' h => ?_
      · unfold Ends; rw [hmut]; exact ⟨rfl, rfl⟩
      · unfold mapError at h
        rw [hmut] at h
        cases h
        refine writeLocal_writes (r := st.r) ⟨stored, hsrc, hdel, hm, hd⟩ ?_ ?_ req <;> rfl
  · exact .throw _

/-- **What a reconcile call writes**: every call it issues passes the gate. -/
theorem reconcile_writes (req : NamespacedName) :
    Writes (Gate x env st.r st.server) (reconcile x env req) st := by
  refine .bind_get ?_
  have gone : SourceGone env → ∀ obj, Writes (Gate x env st.r st.server)
      (do deleteResource env obj; return ({} : Result)) st := fun hgone obj =>
    .bind (deleteResource_writes hgone obj) fun _ _ _ => .pure _
  cases hsrc : env.source with
  | error e =>
    simp only
    by_cases c : e.reason = .notFound
    · simp only [c, ↓reduceIte]
      exact gone (.inl ⟨e, hsrc, c⟩) _
    · simp only [c]; exact .throw _
  | ok stored =>
    change Writes _ (if stored.deletionTimestamp.isSome = true then
        (do deleteResource env (sourceObj x st.r stored); return ({} : Result))
      else reconcileFound x env req (sourceObj x st.r stored)) st
    by_cases c : stored.deletionTimestamp.isSome = true
    · rw [if_pos c]
      exact gone (.inr ⟨stored, hsrc, c⟩) _
    · rw [if_neg c]
      exact reconcileFound_writes hsrc (by simpa using c) req

theorem reconcileRequest_writes (x : External) (env : Env) (st : SyncState)
    (req : NamespacedName) :
    Writes (Gate x env st.r st.server) (reconcileRequest x env req) st := by
  refine .bind (.attempt (reconcile_writes req)) fun res _ _ => ?_
  cases res with
  | ok result => exact .pure _
  | error e => exact .bind (.record _ _ _) fun _ _ _ => .throw _

/-! ## What the calls leave alone -/

/-- The key of a call on a main object; the status is not one. -/
def Call.mainKey : Call → Option Key
  | .create k _ => some k
  | .update k _ => some k
  | .delete k => some k
  | .updateStatus _ _ => none

theorem shouldUpdate_iff {r : SyncReconciler} {cur : Obj} : shouldUpdate env r cur = true ↔
    syncDisabled cur = false ∧ cur.owner ≠ "" ∧
      isOwnedByAnotherAliveCluster env r cur.owner = false := by
  unfold shouldUpdate
  by_cases hd : syncDisabled cur = true
  · simp [hd]
  · by_cases ho : cur.owner = ""
    · simp [hd, ho]
    · by_cases ha : isOwnedByAnotherAliveCluster env r cur.owner = true <;> simp [hd, ho, ha]

/-- A call on a main object that was there is a call on a copy that no other
live cluster owns. -/
theorem Gate.owned {r : SyncReconciler} {s₀ s : ApiServer} {call : Call} {k : Key} {o : Obj}
    (h : Gate x env r s₀ s call) (hk : call.mainKey = some k) (ho : s₀.get k = some o) :
    o.owner ≠ "" ∧ isOwnedByAnotherAliveCluster env r o.owner = false := by
  cases h with
  | delete _ hc hne hal => cases hk; rw [ho] at hc; cases hc; exact ⟨hne, hal⟩
  | create _ _ hn _ => cases hk; rw [ho] at hn; cases hn
  | update _ _ _ hc hu => cases hk; rw [ho] at hc; cases hc; exact (shouldUpdate_iff.mp hu).2
  | clear _ _ hc hu => cases hk; rw [ho] at hc; cases hc; exact (shouldUpdate_iff.mp hu).2
  | recreate _ _ _ hc hu => cases hk; rw [ho] at hc; cases hc; exact (shouldUpdate_iff.mp hu).2
  | status => cases hk

/-- What a call makes of the object under a key: a main call its own key only,
and the status call the status only. -/
theorem Call.get_apply {call : Call} {s s' : ApiServer} (h : call.apply s = .ok s') {k : Key}
    (hk : call.mainKey ≠ some k) : s'.get k = s.get k ∨
      ∃ cur status version, s.get k = some cur ∧
        s'.get k = some { cur with status := status, resourceVersion := version } := by
  cases call with
  | create k' o =>
    obtain ⟨-, rfl⟩ := ApiServer.create_eq_ok h
    refine .inl ?_
    rw [ApiServer.get_put, if_neg fun e => hk (by rw [e]; rfl)]
  | update k' o =>
    obtain ⟨cur, -, rfl | rfl⟩ := ApiServer.update_eq_ok h
    · refine .inl ?_; rw [ApiServer.get_erase, if_neg fun e => hk (by rw [e]; rfl)]
    · refine .inl ?_; rw [ApiServer.get_put, if_neg fun e => hk (by rw [e]; rfl)]
  | delete k' =>
    obtain ⟨cur, -, ⟨-, rfl⟩ | rfl⟩ := ApiServer.delete_eq_ok h
    · refine .inl ?_; rw [ApiServer.get_erase, if_neg fun e => hk (by rw [e]; rfl)]
    · refine .inl ?_; rw [ApiServer.get_put, if_neg fun e => hk (by rw [e]; rfl)]
  | updateStatus k' o =>
    obtain ⟨cur, hc, rfl⟩ := ApiServer.updateStatus_eq_ok h
    by_cases e : k = k'
    · subst e
      refine .inr ⟨cur, o.status, toString (s.rev + 1), hc, ?_⟩
      rw [ApiServer.get_put, if_pos rfl,
        ApiServer.stamp_stored (o := { cur with status := o.status }) hc rfl rfl]
    · refine .inl ?_; rw [ApiServer.get_put, if_neg e]

/-! ## What the calls write -/

/-- Same labels, annotations and finalizers. -/
structure SameMarks (o o' : Obj) : Prop where
  annotations : o'.annotations = o.annotations
  labels : o'.labels = o.labels
  finalizers : o'.finalizers = o.finalizers

theorem SameMarks.refl (o : Obj) : SameMarks o o := ⟨rfl, rfl, rfl⟩

theorem SameMarks.trans {o o' o'' : Obj} (h : SameMarks o o') (h' : SameMarks o' o'') :
    SameMarks o o'' :=
  ⟨h'.annotations.trans h.annotations, h'.labels.trans h.labels,
    h'.finalizers.trans h.finalizers⟩

theorem SameMarks.owner {o o' : Obj} (h : SameMarks o o') : o'.owner = o.owner := by
  unfold Obj.owner; rw [h.annotations]

/-- The object has the owner of the copy that was wanted, in annotation and label, and its
finalizers. -/
structure Carries (d o : Obj) : Prop where
  owner : o.annotations.lookup ownershipAnnotation = d.annotations.lookup ownershipAnnotation
  ownerLabel : o.labels.lookup ownershipAnnotation = d.labels.lookup ownershipAnnotation
  finalizers : o.finalizers = d.finalizers

theorem Carries.same {d o o' : Obj} (h : Carries d o) (hm : SameMarks o o') : Carries d o' :=
  ⟨hm.annotations ▸ h.owner, hm.labels ▸ h.ownerLabel, hm.finalizers.trans h.finalizers⟩

theorem Carries.owner_eq {d o : Obj} (h : Carries d o) : o.owner = d.owner := by
  unfold Obj.owner StringMap.val
  rw [h.owner]

theorem carries_merge (x : External) (current : Option Obj) (d : Obj) :
    Carries d (x.merge.object current d) :=
  ⟨x.merge.owner _ _, x.merge.ownerLabel _ _, x.merge.finalizers _ _⟩

theorem carries_replacement (x : External) (current d : Obj) (payload : String) :
    Carries d (replacement x current d payload) :=
  ⟨x.merge.owner _ _, x.merge.ownerLabel _ _, x.merge.finalizers _ _⟩

/-- The object under a key has the marks it had, or those of the object that the
call brings. -/
theorem Call.marks_apply {call : Call} {s s' : ApiServer} (h : call.apply s = .ok s') {k : Key}
    {o' : Obj} (ho : s'.get k = some o') : (∃ o, s.get k = some o ∧ SameMarks o o') ∨
      (∃ o, call = .create k o ∧ SameMarks o o') ∨
      ∃ cur o, call = .update k o ∧ s.get k = some cur ∧ SameMarks o o' := by
  by_cases hk : call.mainKey = some k
  · cases call with
    | create k' o =>
      cases hk
      obtain ⟨-, rfl⟩ := ApiServer.create_eq_ok h
      rw [ApiServer.get_put, if_pos rfl] at ho
      cases ho
      exact .inr (.inl ⟨o, rfl, rfl, rfl, rfl⟩)
    | update k' o =>
      cases hk
      obtain ⟨cur, hc, rfl | rfl⟩ := ApiServer.update_eq_ok h
      · rw [ApiServer.get_erase, if_pos rfl] at ho; cases ho
      · rw [ApiServer.get_put, if_pos rfl] at ho
        cases ho
        exact .inr (.inr ⟨cur, o, rfl, hc, rfl, rfl, rfl⟩)
    | delete k' =>
      cases hk
      obtain ⟨cur, hc, ⟨-, rfl⟩ | rfl⟩ := ApiServer.delete_eq_ok h
      · rw [ApiServer.get_erase, if_pos rfl] at ho; cases ho
      · rw [ApiServer.get_put, if_pos rfl] at ho
        cases ho
        exact .inl ⟨cur, hc, rfl, rfl, rfl⟩
    | updateStatus k' o => cases hk
  · rcases Call.get_apply h hk with e | ⟨cur, status, version, hc, e⟩
    · exact .inl ⟨o', e ▸ ho, .refl o'⟩
    · rw [ho] at e; cases e; exact .inl ⟨cur, hc, rfl, rfl, rfl⟩

/-- `d` is wanted under `k` by a reconcile call that starts on `s₀`, and may be written. -/
def Synced (x : External) (env : Env) (r : SyncReconciler) (s₀ : ApiServer) (k : Key) (d : Obj) :
    Prop :=
  ∃ m, Desired x env r m d ∧ KeyOf d k ∧ ((s₀.get k = none ∧ shouldCreate env r d = true) ∨
    ∃ cur, s₀.get k = some cur ∧ shouldUpdate env r cur = true)

/-- The object has the marks of the one that was under the key, or the owner of a copy
written there since. -/
def Marked (x : External) (env : Env) (r : SyncReconciler) (s₀ : ApiServer) (k : Key) (o : Obj) :
    Prop :=
  (∃ o₀, s₀.get k = some o₀ ∧ SameMarks o₀ o) ∨ ∃ d, Synced x env r s₀ k d ∧ Carries d o

theorem Marked.same {r : SyncReconciler} {s₀ : ApiServer} {k : Key} {o o' : Obj}
    (h : Marked x env r s₀ k o) (hm : SameMarks o o') : Marked x env r s₀ k o' := by
  rcases h with ⟨o₀, h₀, hm₀⟩ | ⟨d, hd, hm₀⟩
  · exact .inl ⟨o₀, h₀, hm₀.trans hm⟩
  · exact .inr ⟨d, hd, hm₀.same hm⟩

/-- **What a reconcile call makes of the objects**: each has the labels and
annotations it had, or the owner of a desired copy that passed its gate. -/
theorem Issued.marks {r : SyncReconciler} {s₀ t : ApiServer} {cs : List Call}
    (h : Issued (Gate x env r s₀) s₀ cs t) {k : Key} {o : Obj} (ho : t.get k = some o) :
    Marked x env r s₀ k o := by
  refine h.keeps (P := fun s => ∀ o, s.get k = some o → Marked x env r s₀ k o)
    (fun s call s' hs hg ha o ho => ?_) (fun o ho => .inl ⟨o, ho, .refl o⟩) o ho
  rcases Call.marks_apply ha ho with ⟨o₁, ho₁, hm⟩ | ⟨o₁, rfl, hm⟩ | ⟨_, o₁, rfl, -, hm⟩
  · exact (hs o₁ ho₁).same hm
  · cases hg with
    | create hd hk hn hc =>
      exact .inr ⟨_, ⟨_, hd, hk, .inl ⟨hn, hc⟩⟩, (carries_merge _ _ _).same hm⟩
    | recreate payload hd hk hc hu =>
      exact .inr ⟨_, ⟨_, hd, hk, .inr ⟨_, hc, hu⟩⟩, (carries_replacement _ _ _ _).same hm⟩
  · cases hg with
    | update payload hd hk hc hu =>
      exact .inr ⟨_, ⟨_, hd, hk, .inr ⟨_, hc, hu⟩⟩, (carries_replacement _ _ _ _).same hm⟩

end ClusterRegistry.Sync
