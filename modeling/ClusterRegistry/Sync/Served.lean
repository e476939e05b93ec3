import ClusterRegistry.Sync.Orphans
import ClusterRegistry.Sync.Outcome

/-!
# What a request leaves behind

One call of `Reconcile` for a rule that keeps names and kinds (`Plain.served`).
Whatever happens on the way, the call writes to the place of the copy and nowhere
else. A call that ends without an error and without asking to be called again
leaves the copy as it should be, or away: it is away if the object is to be
created anew because of an immutable field, or if the copy was being deleted and
the update has let it go.
-/

namespace ClusterRegistry.Sync

open Lib Lib.Eff

/-! ## A copy that fits its source -/

section fits

variable (x : External) (decode : String → String → Option String)

/-- The labels, the annotations and the fields that are wanted are there. -/
structure Covers (current wanted : Obj) : Prop where
  labels : ∀ k v, wanted.labels.lookup k = some v → current.labels.lookup k = some v
  annotations : ∀ k v, wanted.annotations.lookup k = some v → current.annotations.lookup k = some v
  payload : ∀ path v, decode wanted.payload path = some v → decode current.payload path = some v

/-- The object has what the copy has, up to the IPs of a local service. -/
def Reflects (current d : Obj) : Prop :=
  ∃ payload, (payload = d.payload ∨ ∃ base, x.serviceIPModifier base d = .ok payload) ∧
    Covers decode current { d with payload := payload }

variable (r : SyncReconciler) (env : Env)

/-- The object in the place of the copy fits, or the gates are closed. -/
def Fits (d : Obj) : Option Obj → Prop
  | none => shouldCreate env r d = false
  | some current => shouldUpdate env r current = true → Reflects x decode current d

/-- Nothing is left that a deletion would take. -/
def Cleared (current : Option Obj) : Prop :=
  ∀ o, current = some o → o.owner ≠ "" → isOwnedByAnotherAliveCluster env r o.owner = false →
    o.deletionTimestamp.isSome = true

/-- What the call aims at, by what it has read of the source. -/
def Settled (source current : Option Obj) : Prop :=
  match source with
  | none => Cleared r env current
  | some stored =>
    if stored.deletionTimestamp.isSome then Cleared r env current
    else ∀ m, r.rule.match x (sourceObj x r stored) = (true, m, none) →
      Fits x decode r env (mutateMeta r (sourceObj x r stored) m) current

end fits

variable {x : External} {decode : String → String → Option String} {env : Env}
  {r : SyncReconciler} {s : ApiServer} {st : SyncState} {req : NamespacedName}

/-- Only the labels, the annotations and the payload matter. -/
theorem Reflects.congr {d o o' : Obj} (h : Reflects x decode o d) (hl : o'.labels = o.labels)
    (ha : o'.annotations = o.annotations) (hp : o'.payload = o.payload) :
    Reflects x decode o' d := by
  obtain ⟨payload, hbase, hcovers⟩ := h
  refine ⟨payload, hbase, ?_, ?_, ?_⟩
  · rw [hl]
    exact hcovers.labels
  · rw [ha]
    exact hcovers.annotations
  · rw [hp]
    exact hcovers.payload

theorem Fits.congr {d o o' : Obj} (h : Fits x decode r env d (some o)) (hl : o'.labels = o.labels)
    (ha : o'.annotations = o.annotations) (hp : o'.payload = o.payload) :
    Fits x decode r env d (some o') := by
  intro hu
  have hu : shouldUpdate env r o = true := by
    unfold shouldUpdate syncDisabled Obj.owner at hu ⊢
    rwa [ha] at hu
  exact (h hu).congr hl ha hp

/-- What is written has what is wanted, unless a note of an earlier write is wanted. -/
theorem covers_merge {d : Obj} (hnote : d.annotations.lookup lastAppliedAnnotation = none)
    (current : Option Obj) : Covers decode (x.merge.object current d) d where
  labels k v h := x.merge.labels current d k v h
  annotations k v h := by
    refine x.merge.annotations current d k v (fun e => ?_) h
    rw [e, hnote] at h
    cases h
  payload path v h := by
    rw [x.merge.payload]
    exact h

theorem reflects_created {d : Obj} (hnote : d.annotations.lookup lastAppliedAnnotation = none)
    (current : Option Obj) : Reflects x decode (x.merge.object current d) d := by
  have hcovers : Covers decode (x.merge.object current d) d := covers_merge hnote current
  exact ⟨d.payload, .inl rfl, hcovers.labels, hcovers.annotations, hcovers.payload⟩

theorem reflects_replacement {d current : Obj} {payload : String}
    (hnote : d.annotations.lookup lastAppliedAnnotation = none)
    (hp : x.serviceIPModifier current d = .ok payload) :
    Reflects x decode (replacement x current d payload) d := by
  have hcovers : Covers decode (x.merge.object (some current) { d with payload := payload })
      { d with payload := payload } := covers_merge (d := { d with payload := payload }) hnote _
  exact ⟨payload, .inr ⟨current, hp⟩, hcovers.labels, hcovers.annotations, hcovers.payload⟩

/-! ## Keys -/

variable (r) in
/-- The kind of the rule has a name and a version. -/
structure Kinded : Prop where
  kind : r.gvk.kind ≠ ""
  version : r.gvk.version ≠ ""

theorem Kinded.gvk (h : Kinded r) {stored : Obj} (hkey : stored.key = mirrorKey r req) :
    gvkForObject (sourceObj x r stored) = .ok r.gvk := by
  have hgvk : stored.gvk = r.gvk := congrArg Key.gvk hkey
  unfold sourceObj readInto initObjectFromGVK
  split
  · rfl
  · exact (gvkForObject_unstructured rfl).mpr ⟨hgvk ▸ h.kind, hgvk ▸ h.version, hgvk⟩

theorem nn_of_key {o : Obj} (hkey : o.key = mirrorKey r req) : o.nn = req := by
  have hns : o.namespace = req.namespace := congrArg Key.namespace hkey
  have hname : o.name = req.name := congrArg Key.name hkey
  unfold Obj.nn
  rw [hns, hname]

theorem Plain.gvk_copy (hr : Plain r) {stored : Obj} {m : MatchedRules}
    (hm : ∀ s ∈ m, s ∈ elems r.rule.spec.rules) :
    (mutateMeta r (sourceObj x r stored) m).gvk = stored.gvk := by
  have hempty := getMutatedGVK_of_empty (fun s hs => (hr.keepsKey s (hm s hs)).2)
    (sourceObj x r stored).gvk
  unfold mutateMeta
  rw [hempty]
  rfl

theorem gvkForObject_congr {o o' : Obj} (ht : o.goType = o'.goType) (hg : o.gvk = o'.gvk) :
    gvkForObject o = gvkForObject o' := by
  unfold gvkForObject
  rw [ht, hg]

theorem Plain.keyOf (hr : Plain r) (hkind : Kinded r) {stored : Obj}
    (hkey : stored.key = mirrorKey r req) {m : MatchedRules}
    (hm : ∀ s ∈ m, s ∈ elems r.rule.spec.rules) :
    KeyOf (mutateMeta r (sourceObj x r stored) m) (mirrorKey r req) := by
  have hns : stored.namespace = req.namespace := congrArg Key.namespace hkey
  have hname : stored.name = req.name := congrArg Key.name hkey
  have hgvk : gvkForObject (mutateMeta r (sourceObj x r stored) m) =
      gvkForObject (sourceObj x r stored) := gvkForObject_congr rfl (hr.gvk_copy hm)
  exact ⟨hgvk.trans (hkind.gvk hkey), hns.symm, hname.symm⟩

/-! ## Calls that stay in one place -/

def Call.key : Call → Key
  | .create k _ => k
  | .update k _ => k
  | .delete k => k
  | .updateStatus k _ => k

theorem Call.get_apply_ne {c : Call} {s' : ApiServer} (h : c.apply s = .ok s') {k : Key}
    (hk : k ≠ c.key) : s'.get k = s.get k := by
  cases c with
  | create k' o =>
    obtain ⟨-, rfl⟩ := ApiServer.create_eq_ok h
    exact (ApiServer.get_put ..).trans (if_neg hk)
  | update k' o =>
    obtain ⟨cur, -, rfl | rfl⟩ := ApiServer.update_eq_ok h
    · exact (ApiServer.get_erase ..).trans (if_neg hk)
    · exact (ApiServer.get_put ..).trans (if_neg hk)
  | delete k' =>
    obtain ⟨cur, -, ⟨-, rfl⟩ | rfl⟩ := ApiServer.delete_eq_ok h
    · exact (ApiServer.get_erase ..).trans (if_neg hk)
    · exact (ApiServer.get_put ..).trans (if_neg hk)
  | updateStatus k' o =>
    obtain ⟨cur, -, rfl⟩ := ApiServer.updateStatus_eq_ok h
    exact (ApiServer.get_put ..).trans (if_neg hk)

/-- The call writes to `k` only, and if it ends with a value, `Q` holds of that value and
of the object that is there then. -/
def Leaves {α : Type} (k : Key) (Q : α → Option Obj → Prop) (m : SyncM α) (st : SyncState) : Prop :=
  Ends m (fun res st' => (∀ k', k' ≠ k → st'.server.get k' = st.server.get k') ∧
    ∀ a, res = .ok a → Q a (st'.server.get k)) st

namespace Leaves

variable {α β : Type} {k : Key} {Q : α → Option Obj → Prop}

theorem pure {a : α} (h : Q a (st.server.get k)) : Leaves k Q (Pure.pure a) st :=
  ⟨fun _ _ => rfl, fun b hb => by cases hb; exact h⟩

theorem throw (e : Err) : Leaves k Q (Eff.throw e) st := ⟨fun _ _ => rfl, fun _ h => nomatch h⟩

theorem lift {res : Except Err α} (h : ∀ a, res = .ok a → Q a (st.server.get k)) :
    Leaves k Q (Eff.lift res) st := ⟨fun _ _ => rfl, h⟩

theorem mono {Q' : α → Option Obj → Prop} {m : SyncM α} (h : Leaves k Q m st)
    (hQ : ∀ a cur, Q a cur → Q' a cur) : Leaves k Q' m st :=
  ⟨h.1, fun a ha => hQ a _ (h.2 a ha)⟩

/-- What a call that leaves the server alone has to show. -/
theorem still {m : SyncM α} (hs : (m st).2.server = st.server)
    (h : ∀ a, (m st).1 = .ok a → Q a (st.server.get k)) : Leaves k Q m st :=
  ⟨fun k' _ => congrArg (ApiServer.get · k') hs, fun a ha => hs ▸ h a ha⟩

theorem bind {Q' : β → Option Obj → Prop} {m : SyncM α} {f : α → SyncM β} (hm : Leaves k Q m st)
    (hf : ∀ a st', m st = (.ok a, st') → Q a (st'.server.get k) → Leaves k Q' (f a) st') :
    Leaves k Q' (m >>= f) st := by
  unfold Leaves
  rw [ends_bind]
  unfold Ends
  rcases hres : m st with ⟨e | a, st'⟩
  · have hframe := hm.1
    rw [hres] at hframe
    exact ⟨hframe, fun _ h => nomatch h⟩
  · have hframe := hm.1
    have hq := hm.2 a (by rw [hres])
    rw [hres] at hframe hq
    obtain ⟨hf₁, hf₂⟩ := hf a st' hres hq
    exact ⟨fun k' hk' => (hf₁ k' hk').trans (hframe k' hk'), hf₂⟩

theorem bind_get {m : SyncState → SyncM α} (h : Leaves k Q (m st) st) :
    Leaves k Q (Eff.get >>= m) st := h

theorem attempt {m : SyncM α} (h : Leaves k Q m st) :
    Leaves k (fun res cur => ∀ a, res = .ok a → Q a cur) (Eff.attempt m) st := by
  refine ⟨h.1, fun res hres a ha => ?_⟩
  cases hres
  exact h.2 a ha

theorem mapError {m : SyncM α} (h : Leaves k Q m st) (f : Err → Err) :
    Leaves k Q (Eff.mapError f m) st := by
  unfold Leaves
  rw [ends_mapError]
  unfold Ends
  have h₁ := h.1
  have h₂ := h.2
  rcases hres : m st with ⟨e | a, st'⟩ <;> rw [hres] at h₁ h₂
  · exact ⟨h₁, fun _ h => nomatch h⟩
  · exact ⟨h₁, fun b hb => h₂ b hb⟩

theorem ite {c : Prop} [Decidable c] {m₁ m₂ : SyncM α} (h₁ : c → Leaves k Q m₁ st)
    (h₂ : ¬c → Leaves k Q m₂ st) : Leaves k Q (if c then m₁ else m₂) st := by
  split
  · next h => exact h₁ h
  · next h => exact h₂ h

theorem issue {Q : Unit → Option Obj → Prop} {c : Call} (hc : c.key = k) (fault : Option Err)
    (h : ∀ s', fault = none → c.apply st.server = .ok s' → Q () (s'.get k)) :
    Leaves k Q (Sync.issue fault c) st := by
  cases fault with
  | some e => exact ⟨fun _ _ => rfl, fun _ h => nomatch h⟩
  | none =>
    cases hs : c.apply st.server with
    | ok s' =>
      unfold Leaves Ends
      rw [issue_taken hs]
      exact ⟨fun k' hk' => Call.get_apply_ne hs (hc ▸ hk'), fun _ _ => h s' rfl hs⟩
    | error e =>
      have hres : Sync.issue none c st = (.error e, { st with calls := st.calls ++ [c] }) := by
        unfold Sync.issue
        rw [bind_of_ok (show modify _ st = (.ok (), _) from rfl)]
        simp only
        rw [get_bind, hs]
        rfl
      unfold Leaves Ends
      rw [hres]
      exact ⟨fun _ _ => rfl, fun _ h => nomatch h⟩

theorem fault {Q : Unit → Option Obj → Prop} (e : Err) (c : Call) :
    Leaves k Q (Sync.issue (some e) c) st := ⟨fun _ _ => rfl, fun _ h => nomatch h⟩

end Leaves

/-! ## Deletion -/

theorem Plain.findCurrent (hr : Plain st.r) (obj : Obj) :
    Sync.findCurrent env obj st = localGet env.faults.getCurrent obj obj.nn st := by
  unfold Sync.findCurrent
  rw [get_bind]
  have hkind : (st.r.gvk != st.r.localGVK) = false := by rw [hr.kind]; exact bne_self_eq_false _
  have hmut : (st.r.resourceNamespaceMutated || st.r.resourceNameMutated) = false := hr.unmarked
  simp only [hkind, hmut, Bool.false_eq_true, if_false]

/-- Without a fault that pretends the object to be away. -/
def Env.DeleteHonest (env : Env) : Prop := ∀ e, env.faults.delete = some e → e.reason ≠ .notFound

theorem deleteObject_leaves (hf : env.DeleteHonest) {obj cur : Obj} {k : Key}
    (hg : gvkForObject obj = .ok k.gvk) (hnn : obj.nn = ⟨k.namespace, k.name⟩)
    (hcur : st.server.get k = some cur) :
    Leaves k (fun _ o => Cleared st.r env o) (deleteObject env obj) st := by
  have hkey : (⟨k.gvk, obj.namespace, obj.name⟩ : Key) = k := by
    have hns : obj.namespace = k.namespace := congrArg NamespacedName.namespace hnn
    have hname : obj.name = k.name := congrArg NamespacedName.name hnn
    rw [hns, hname]
  have hissue :
      Leaves k (fun _ o => Cleared st.r env o) (issue env.faults.delete (.delete k)) st := by
    refine .issue (k := k) rfl _ fun s' _ hs o ho _ _ => ?_
    obtain ⟨c, -, ⟨-, rfl⟩ | rfl⟩ := ApiServer.delete_eq_ok hs
    · rw [ApiServer.get_erase, if_pos rfl] at ho
      cases ho
    · rw [ApiServer.get_put, if_pos rfl] at ho
      cases ho
      rfl
  unfold deleteObject
  rw [hg]
  refine .bind (Q := fun gvk _ => gvk = k.gvk) (.lift fun a ha => by cases ha; rfl) ?_
  rintro gvk st' hst rfl
  cases hst
  rw [hkey]
  refine .bind hissue.attempt fun res st' hst hres => ?_
  cases res with
  | ok u => exact .pure (hres u rfl)
  | error e =>
    have he : e.reason ≠ .notFound := by
      have hst := congrArg Prod.fst hst
      cases hfault : env.faults.delete with
      | some e' =>
        rw [hfault] at hst
        cases hst
        exact hf e hfault
      | none =>
        obtain ⟨server, hs⟩ := issue_delete st hcur
        rw [hfault] at hst
        unfold attempt at hst
        rw [hs] at hst
        cases hst
    simp only [bne_iff_ne, ne_eq, he, not_false_eq_true, if_true]
    exact .throw e

theorem Plain.findCurrent_eq_ok (hr : Plain st.r) {obj : Obj} (hg : gvkForObject obj = .ok st.r.gvk)
    (hnn : obj.nn = req) {found : Option Obj}
    (h : Sync.findCurrent env obj st = (.ok found, st)) :
    found = (st.server.get (mirrorKey st.r req)).map (readInto obj) := by
  rw [hr.findCurrent] at h
  cases hfault : env.faults.getCurrent with
  | some e =>
    rw [hfault, localGet_fault st hg] at h
    cases h
  | none =>
    rw [hfault, localGet_eq st hg, hnn] at h
    cases h
    rfl

/-- A deletion clears the place, or there was nothing to clear. -/
theorem Plain.deleteResource_leaves (hr : Plain st.r) (hf : env.DeleteHonest) {obj : Obj}
    (hg : gvkForObject obj = .ok st.r.gvk) (hnn : obj.nn = req) :
    Leaves (mirrorKey st.r req) (fun _ o => Cleared st.r env o) (deleteResource env obj) st := by
  have htarget : Leaves (mirrorKey st.r req) (fun found cur =>
      (found = none → Cleared st.r env cur) ∧
        ∀ o, found = some o → ∃ c, cur = some c ∧ o = readInto obj c)
      (deleteTarget env obj) st := by
    refine .bind (Q := fun found cur => found = cur.map (readInto obj)) ?_ ?_
    · have hstill := findCurrent_ends env st obj
      refine .still (congrArg SyncState.server hstill.1) fun found hfound => ?_
      exact hr.findCurrent_eq_ok hg hnn (Prod.ext hfound hstill.1)
    · rintro found st' hst rfl
      have hst' : st' = st := by
        have := (findCurrent_ends env st obj).1
        rwa [hst] at this
      subst hst'
      cases hcur : st'.server.get (mirrorKey st'.r req) with
      | none =>
        refine .pure ⟨fun _ o ho => ?_, nofun⟩
        rw [hcur] at ho
        cases ho
      | some c =>
        refine .ite (fun howner => .pure ⟨fun _ o ho hne => ?_, nofun⟩) fun howner => ?_
        · rw [hcur] at ho
          cases ho
          exact absurd howner hne
        · refine .bind_get (.ite (fun hother => .pure ⟨fun _ o ho _ hno => ?_, nofun⟩) fun _ => ?_)
          · rw [hcur] at ho
            cases ho
            exact absurd (hother.symm.trans hno) nofun
          · refine .pure ⟨nofun, fun o ho => ⟨c, hcur, ?_⟩⟩
            cases ho
            rfl
  unfold deleteResource
  refine .bind htarget fun found st' hst hfound => ?_
  have hst' : st' = st := by
    have := (deleteTarget_ends env st obj).1
    rwa [hst] at this
  subst hst'
  cases found with
  | none => exact .pure (hfound.1 rfl)
  | some o =>
    obtain ⟨c, hcur, rfl⟩ := hfound.2 o rfl
    have hkey : c.key = mirrorKey st'.r req := ApiServer.key_of_get hcur
    refine deleteObject_leaves hf ?_ ?_ hcur
    · have hgvk : c.gvk = st'.r.gvk := congrArg Key.gvk hkey
      exact (gvkForObject_readInto (hgvk ▸ hg)).trans (congrArg _ hgvk)
    · have hns : c.namespace = req.namespace := congrArg Key.namespace hkey
      have hname : c.name = req.name := congrArg Key.name hkey
      show (⟨c.namespace, c.name⟩ : NamespacedName) = ⟨req.namespace, req.name⟩
      rw [hns, hname]

/-! ## Creation and update -/

/-- The object is away, or on its way out. -/
def Away (current : Option Obj) : Prop :=
  ∀ o, current = some o → o.deletionTimestamp.isSome = true

variable (x decode) in
/-- What is found to be in sync has what is wanted. -/
def InSyncHonest (env : Env) (s : ApiServer) (k : Key) (d : Obj) : Prop :=
  env.verdict = .inSync → ∀ cur payload, s.get k = some cur →
    x.serviceIPModifier cur d = .ok payload → Covers decode cur { d with payload := payload }

variable {d : Obj} {k : Key}

theorem create_leaves {o : Obj} (ho : Reflects x decode o d) (s₀ : SyncState) :
    Leaves k (fun _ cur => Fits x decode r env d cur ∨ Away cur) (issue none (.create k o)) s₀ := by
  refine Leaves.issue (k := k) (c := .create k o) rfl none fun s' _ hs => .inl ?_
  obtain ⟨-, rfl⟩ := ApiServer.create_eq_ok hs
  rw [ApiServer.get_put, if_pos rfl]
  exact fun _ => ho.congr rfl rfl rfl

theorem update_leaves {o : Obj} (ho : Reflects x decode o d) (s₀ : SyncState) :
    Leaves k (fun _ cur => Fits x decode r env d cur ∨ Away cur) (issue none (.update k o)) s₀ := by
  refine Leaves.issue (k := k) (c := .update k o) rfl none fun s' _ hs => ?_
  obtain ⟨old, -, rfl | rfl⟩ := ApiServer.update_eq_ok hs
  · refine .inr fun o ho => ?_
    rw [ApiServer.get_erase, if_pos rfl] at ho
    cases ho
  · rw [ApiServer.get_put, if_pos rfl]
    exact .inl fun _ => ho.congr rfl rfl rfl

theorem delete_leaves (s₀ : SyncState) :
    Leaves k (fun _ => Away) (issue none (.delete k)) s₀ := by
  refine Leaves.issue (k := k) (c := .delete k) rfl none fun s' _ hs o ho => ?_
  obtain ⟨c, -, ⟨-, rfl⟩ | rfl⟩ := ApiServer.delete_eq_ok hs
  · rw [ApiServer.get_erase, if_pos rfl] at ho
    cases ho
  · rw [ApiServer.get_put, if_pos rfl] at ho
    cases ho
    rfl

theorem reconcileResource_leaves (hk : KeyOf d k)
    (hnote : d.annotations.lookup lastAppliedAnnotation = none)
    (hsync : InSyncHonest x decode env st.server k d) :
    Leaves k (fun _ cur => Fits x decode st.r env d cur ∨ Away cur) (reconcileResource x env d)
      st := by
  unfold reconcileResource
  rw [hk.1]
  refine .bind (Q := fun gvk _ => gvk = k.gvk) (.lift fun a ha => by cases ha; rfl) ?_
  rintro gvk st' hst rfl
  cases hst
  refine .bind_get ?_
  simp only [← hk.eq]
  cases hcur : st.server.get k with
  | none =>
    refine .ite (fun hcreate => ?_) fun hclosed => .pure (.inl ?_)
    · cases env.verdict with
      | failed e => exact .throw e
      | rejected e => exact Leaves.fault e _
      | inSync | written | recreated => exact create_leaves (reflects_created hnote none) st
    · rw [hcur]
      exact Bool.eq_false_iff.mpr hclosed
  | some cur =>
    refine .ite (fun hopen => ?_) fun hclosed => .pure (.inl ?_)
    · refine .bind (Q := fun payload _ => x.serviceIPModifier cur d = .ok payload)
        (.lift fun a ha => ha) ?_
      rintro payload st' hst hpayload
      have hst' : st' = st := by
        have := congrArg Prod.snd hst
        exact this.symm
      subst hst'
      have hreflects : Reflects x decode (replacement x cur d payload) d :=
        reflects_replacement hnote hpayload
      cases hv : env.verdict with
      | inSync =>
        refine .pure (.inl ?_)
        rw [hcur]
        exact fun _ => ⟨payload, .inr ⟨cur, hpayload⟩, hsync hv cur payload hcur hpayload⟩
      | failed e => exact .throw e
      | rejected e => exact Leaves.fault e _
      | written => exact update_leaves hreflects st'
      | recreated e atOnce =>
        refine .bind (Q := fun _ _ => True) ?_ fun _ st₁ _ _ => ?_
        · exact (Leaves.fault (Q := fun _ _ => True) e _).attempt.mono fun _ _ _ => trivial
        · refine .bind (Q := fun _ => Away) (delete_leaves st₁) fun _ st₂ _ haway => ?_
          exact .ite (fun _ => create_leaves hreflects st₂) fun _ => .pure (.inr haway)
    · rw [hcur]
      exact fun hopen => absurd hopen hclosed

/-- The status is all that changes. -/
theorem syncStatus_leaves (hk : KeyOf d k) (m : MatchedRules) (req : NamespacedName)
    (h : Fits x decode r env d (st.server.get k) ∨ Away (st.server.get k)) :
    Leaves k (fun _ cur => Fits x decode r env d cur ∨ Away cur) (syncStatus env req m d) st := by
  unfold syncStatus
  refine .bind (Q := fun _ cur => Fits x decode r env d cur ∨ Away cur) (.mapError ?_ _) ?_
  · exact .still (congrArg SyncState.server (localGet_ends st _ d d.nn).1) fun _ _ => h
  · intro found st₁ _ h₁
    have tail : ∀ st₂ : SyncState,
        (Fits x decode r env d (st₂.server.get k) ∨ Away (st₂.server.get k)) →
        Leaves k (fun _ cur => Fits x decode r env d cur ∨ Away cur) (do
          if (← get).r.rule.uid != "" then
            record .normal "ObjectReconciled" ("object reconciled (resource: " ++ req.string ++ ")")
          return ({} : Result) : SyncM Result) st₂ := by
      intro st₂ h₂
      refine .bind_get (.ite (fun _ => ?_) fun _ => .pure h₂)
      exact .bind (Q := fun _ cur => Fits x decode r env d cur ∨ Away cur)
        (.still rfl fun _ _ => h₂) fun _ st₃ _ h₃ => .pure h₃
    cases found with
    | none => exact .pure h₁
    | some obj =>
      refine .ite (fun _ => ?_) fun _ => tail st₁ h₁
      refine .bind (Q := fun _ cur => Fits x decode r env d cur ∨ Away cur) (.mapError ?_ _)
        fun _ st₂ _ h₂ => tail st₂ h₂
      rw [hk.1]
      refine .bind (Q := fun gvk _ => gvk = k.gvk) (.lift fun a ha => by cases ha; rfl) ?_
      rintro gvk st₂ hst rfl
      cases hst
      rw [← hk.eq]
      refine Leaves.issue (k := k) rfl _ fun s' _ hs => ?_
      obtain ⟨cur, hcur, rfl⟩ := ApiServer.updateStatus_eq_ok hs
      rw [ApiServer.get_put, if_pos rfl]
      rw [hcur] at h₁
      refine h₁.imp (fun hfit => hfit.congr rfl rfl rfl) fun haway o ho => ?_
      cases ho
      exact haway cur rfl

theorem writeAllowed_leaves (hk : KeyOf d k)
    (hnote : d.annotations.lookup lastAppliedAnnotation = none)
    (hsync : InSyncHonest x decode env st.server k d) (m : MatchedRules) (req : NamespacedName) :
    Leaves k (fun result cur => result = {} → Fits x decode st.r env d cur ∨ Away cur)
      (writeAllowed x env req m d) st := by
  unfold writeAllowed
  refine .bind (reconcileResource_leaves hk hnote hsync).attempt fun res st₁ _ h₁ => ?_
  cases res with
  | error e => exact .ite (fun _ => .pure nofun) fun _ => .throw _
  | ok u => exact (syncStatus_leaves hk m req (h₁ u rfl)).mono fun _ _ h _ => h

theorem writeLocal_leaves (hk : KeyOf d k)
    (hnote : d.annotations.lookup lastAppliedAnnotation = none)
    (hsync : InSyncHonest x decode env st.server k d) (m : MatchedRules) (req : NamespacedName) :
    Leaves k (fun result cur => result = {} → Fits x decode st.r env d cur ∨ Away cur)
      (writeLocal x env req m d) st := by
  have hlimited : ∀ st₁ : SyncState, st₁ = st →
      Leaves k (fun result cur => result = {} → Fits x decode st.r env d cur ∨ Away cur)
        (writeLimited x env req m d) st₁ := by
    rintro _ rfl
    unfold writeLimited
    refine .bind_get (.ite (fun _ => ?_) fun _ => writeAllowed_leaves hk hnote hsync m req)
    rcases env.rateLimit with e | _ | _
    · exact .throw _
    · exact writeAllowed_leaves hk hnote hsync m req
    · exact .bind (Q := fun _ _ => True) (.still rfl fun _ _ => trivial) fun _ _ _ _ => .pure nofun
  unfold writeLocal
  refine .ite (fun _ => hlimited st rfl) fun _ => ?_
  refine .bind (Q := fun _ _ => True) (.still ?_ fun _ _ => trivial) fun found st₁ hst _ => ?_
  · exact congrArg SyncState.server (localGet_ends st _ _ _).1
  · have hst' : st₁ = st := by
      have := (localGet_ends st env.faults.getNamespace
        { name := "", «namespace» := "", gvk := namespaceGVK } ⟨"", d.namespace⟩).1
      rwa [hst] at this
    cases found with
    | some o => exact hlimited st₁ hst'
    | none =>
      exact .bind (Q := fun _ _ => True) (.still rfl fun _ _ => trivial) fun _ _ _ _ => .pure nofun

/-! ## The call -/

/-- A copy comes without the note of what was applied to its source. -/
theorem lastApplied_mutateMeta (r : SyncReconciler) (current : Obj) (m : MatchedRules) :
    (mutateMeta r current m).annotations.lookup lastAppliedAnnotation = none :=
  (Map.lookup_eraseAll _ _ _).trans (if_pos (by decide))

/-- A reconciler of such a rule never marks anything. -/
theorem Plain.marked_eq (hr : Plain r) : Sync.marked x env r = r := by
  have hmarked : (Sync.marked x env r).hasMutated = false := hr.marked.unmarked
  obtain ⟨name, ns, e⟩ : r.Same (Sync.marked x env r) := marked_same
  rw [e] at hmarked ⊢
  obtain ⟨hns, hname⟩ := Bool.or_eq_false_iff.mp hmarked
  obtain ⟨hns', hname'⟩ := Bool.or_eq_false_iff.mp hr.unmarked
  have h₁ : ns = r.resourceNamespaceMutated := hns.trans hns'.symm
  have h₂ : name = r.resourceNameMutated := hname.trans hname'.symm
  rw [h₁, h₂]

variable (x decode r req) in
/-- A call for the object that the cache has, if it can be read. -/
structure Serves (source : Option Obj) (s : ApiServer) (env : Env) : Prop where
  read : env.source = readSource source ∨ ∃ e, env.source = .error e ∧ e.reason ≠ .notFound
  asked : ∀ stored, source = some stored → stored.key = mirrorKey r req
  delete : env.DeleteHonest
  inSync : ∀ m d, Desired x env r m d → InSyncHonest x decode env s (mirrorKey r req) d

theorem settled_live {stored : Obj} (hlive : stored.deletionTimestamp = none)
    {current : Option Obj} : Settled x decode r env (some stored) current ↔
      ∀ m, r.rule.match x (sourceObj x r stored) = (true, m, none) →
        Fits x decode r env (mutateMeta r (sourceObj x r stored) m) current := by
  show (if stored.deletionTimestamp.isSome = true then _ else _) ↔ _
  rw [hlive]
  exact Iff.rfl

theorem Plain.live_leaves (hr : Plain r) (hkind : Kinded r) {stored : Obj}
    (hkey : stored.key = mirrorKey r req) (hread : env.source = .ok stored)
    (hlive : stored.deletionTimestamp = none)
    (hsync : ∀ m d, Desired x env r m d → InSyncHonest x decode env s (mirrorKey r req) d) :
    Leaves (mirrorKey r req)
      (fun result cur => result = {} → Settled x decode r env (some stored) cur ∨ Away cur)
      (reconcile x env req) ⟨r, s, [], []⟩ := by
  simp only [settled_live hlive]
  rcases hmatch : r.rule.match x (sourceObj x r stored) with ⟨_ | _, m, e⟩
  · have hrun : reconcile x env req ⟨r, s, [], []⟩ = (.ok {}, ⟨r, s, [], []⟩) := by
      rw [reconcile_live hread hlive]
      unfold reconcileFound
      rw [get_bind, hmatch]
      rfl
    refine .still (by rw [hrun]) fun _ _ _ => .inl fun m' hm' => ?_
    cases hm'
  · cases e with
    | some e =>
      have hrun : reconcile x env req ⟨r, s, [], []⟩ =
          (.error (e.wrapIf "could not match object"), ⟨r, s, [], []⟩) := by
        rw [reconcile_live hread hlive]
        unfold reconcileFound
        rw [get_bind, hmatch]
        rfl
      refine .still (by rw [hrun]) fun a ha => ?_
      rw [hrun] at ha
      cases ha
    | none =>
      have hsub := ResourceSyncRule.match_subset hmatch
      have hcopies : Copies x env r stored m (mutateMeta r (sourceObj x r stored) m) :=
        ⟨hread, hlive, hmatch, mutated_eq fun s hs => (hr.keepsKey s (hsub s hs)).1⟩
      have hrun : reconcile x env req ⟨r, s, [], []⟩ = _ := reconcile_desired ⟨stored, hcopies⟩ req
      have hwrite : Leaves (mirrorKey r req) _ _ ⟨r, s, [], []⟩ := writeLocal_leaves
        (hr.keyOf hkind hkey hsub) (lastApplied_mutateMeta r _ m) (hsync m _ ⟨stored, hcopies⟩) m
        req
      unfold Leaves Ends at hwrite ⊢
      rw [hrun, hr.marked_eq]
      refine ⟨hwrite.1, fun a ha hempty => (hwrite.2 a ha hempty).imp_left fun hfit m' hm' => ?_⟩
      cases hm'
      exact hfit

/-- **What a request leaves behind**: a call writes to the place of the copy only, and if
it need not be repeated, the copy is as it should be, or away. -/
theorem Plain.reconcile_leaves (hr : Plain r) (hkind : Kinded r) {source : Option Obj}
    (h : Serves x decode r req source s env) :
    Leaves (mirrorKey r req)
      (fun result cur => result = {} → Settled x decode r env source cur ∨ Away cur)
      (reconcile x env req) ⟨r, s, [], []⟩ := by
  have hdelete : ∀ obj, gvkForObject obj = .ok r.gvk → obj.nn = req →
      (∀ cur, Cleared r env cur → Settled x decode r env source cur) →
      Leaves (mirrorKey r req)
        (fun result cur => result = {} → Settled x decode r env source cur ∨ Away cur)
        (do deleteResource env obj; return ({} : Result)) ⟨r, s, [], []⟩ := by
    intro obj hg hnn hsettled
    have hleaves := @Plain.deleteResource_leaves env ⟨r, s, [], []⟩ req hr h.delete obj hg hnn
    exact .bind hleaves fun _ _ _ hclear => .pure fun _ => .inl (hsettled _ hclear)
  rcases h.read with hread | ⟨e, hread, he⟩
  · cases source with
    | none =>
      unfold reconcile
      rw [hread]
      refine .bind_get (.ite (fun _ => ?_) fun hne => absurd rfl hne)
      exact hdelete _ (gvkForObject_requestObj hkind.kind hkind.version) rfl fun _ hc => hc
    | some stored =>
      have hkey := h.asked stored rfl
      cases hdel : stored.deletionTimestamp with
      | none => exact hr.live_leaves hkind hkey hread hdel h.inSync
      | some time =>
        have hsome : stored.deletionTimestamp.isSome = true := by rw [hdel]; rfl
        unfold reconcile
        rw [hread]
        refine .bind_get (.ite (fun _ => ?_) fun hne => absurd hsome hne)
        refine hdelete _ (hkind.gvk hkey) (nn_of_key hkey) fun cur hc => ?_
        show if _ then _ else _
        rw [if_pos hsome]
        exact hc
  · unfold reconcile
    rw [hread]
    exact .bind_get (.ite (fun hnf => absurd hnf he) fun _ => .throw _)

/-- The same of `Reconcile`, which records an event besides. -/
theorem Plain.served (hr : Plain r) (hkind : Kinded r) {source : Option Obj}
    (h : Serves x decode r req source s env) :
    (∀ k, k ≠ mirrorKey r req → (reconciled x r s env req).server.get k = s.get k) ∧
      ((reconcileRequest x env req ⟨r, s, [], []⟩).1 = .ok {} →
        Settled x decode r env source ((reconciled x r s env req).server.get (mirrorKey r req)) ∨
          Away ((reconciled x r s env req).server.get (mirrorKey r req))) := by
  obtain ⟨events, hfinal⟩ := reconciled_eq x r s env req
  obtain ⟨hframe, hresult⟩ := hr.reconcile_leaves hkind h
  rw [hfinal]
  refine ⟨hframe, fun hok => hresult {} ?_ rfl⟩
  unfold reconcileRequest at hok
  rw [bind_of_ok (show attempt (reconcile x env req) ⟨r, s, [], []⟩ = _ from rfl)] at hok
  cases hres : (reconcile x env req ⟨r, s, [], []⟩).1 with
  | ok result =>
    rw [hres] at hok
    exact hok
  | error e =>
    rw [hres] at hok
    cases hok

end ClusterRegistry.Sync
