import ClusterRegistry.Sync.Deletion

/-!
# Copies whose source is gone

One source object on the remote cluster goes through any history of versions.
Each change is an event; the watch predicates admit it or not, and an admitted
event is followed by one reconcile call that reads the version just written.
The rule keeps names and kinds, so that the copy is under the key of its
source.

A copy is orphaned when the event that tells of the deletion is not admitted;
`no_orphans_iff` says that there is no other way.
-/

namespace ClusterRegistry.Sync

open Lib Lib.Eff

/-- No overrides, and no mutation of the kind. -/
def KeepsKey (rule : ResourceSyncRule) : Prop :=
  ∀ r ∈ elems rule.spec.rules, elems r.mutations.overrides = [] ∧ r.mutations.getGVK.empty = true

instance (rule : ResourceSyncRule) : Decidable (KeepsKey rule) :=
  inferInstanceAs (Decidable (∀ r ∈ _, _))

/-- A reconciler for such a rule that has renamed or moved nothing. -/
structure Plain (r : SyncReconciler) : Prop where
  keepsKey : KeepsKey r.rule
  kind : r.gvk = r.localGVK
  unmarked : r.hasMutated = false
  known : r.clusterID ≠ ""

theorem getMutatedGVK_of_empty {m : MatchedRules} (h : ∀ r ∈ m, r.mutations.getGVK.empty = true)
    (gvk : GVK) : m.getMutatedGVK gvk = (false, gvk) := by
  unfold MatchedRules.getMutatedGVK
  induction m with
  | nil => rfl
  | cons r m ih =>
    obtain ⟨hr, hm⟩ := List.forall_mem_cons.mp h
    have hstep : MatchedRules.mutateGVK (false, gvk) r = (false, gvk) := if_pos hr
    rw [List.foldl_cons, hstep]
    exact ih hm

theorem plain_start {rule : ResourceSyncRule} {clusterID : String} (hrule : KeepsKey rule)
    (hid : clusterID ≠ "") (localClusterID : String) (limited : Bool) :
    Plain ((newSyncReconciler rule clusterID limited).start localClusterID) := by
  have hsame : (newSyncReconciler rule clusterID limited).localGVK = rule.spec.gvk := by
    unfold newSyncReconciler
    rw [getMutatedGVK_of_empty fun r hr => (hrule r hr).2]
  exact ⟨hrule, hsame.symm, rfl, hid⟩

section

variable {x : External} {env : Env} {r : SyncReconciler} {s : ApiServer} {req : NamespacedName}

theorem Plain.copy (hr : Plain r) {stored : Obj} {m : MatchedRules} {d : Obj}
    (h : Copies x env r stored m d) : d = mutateMeta r (sourceObj x r stored) m := by
  have hm : ∀ s ∈ m, elems s.mutations.overrides = [] := fun s hs =>
    (hr.keepsKey s (ResourceSyncRule.match_subset h.ruled s hs)).1
  exact Except.ok.inj (h.mutated.symm.trans (mutated_eq hm))

theorem Plain.marked (hr : Plain r) : Plain (Sync.marked x env r) := by
  have hsame : r.Same (Sync.marked x env r) := marked_same
  refine ⟨hsame.rule ▸ hr.keepsKey, by rw [hsame.gvk, hsame.localGVK, hr.kind], ?_,
    hsame.clusterID ▸ hr.known⟩
  refine Bool.eq_false_iff.mpr fun hmut => ?_
  rcases hasMutated_marked.mp hmut with ⟨stored, m, d, hc, hne⟩ | hmut
  · rw [hr.copy hc] at hne
    rcases hne with h | h <;> exact h rfl
  · rw [hr.unmarked] at hmut; cases hmut

variable (r req) in
/-- Where source and copy are kept. -/
def mirrorKey : Key := ⟨r.gvk, req.namespace, req.name⟩

variable (r s req) in
/-- A local copy that the remote cluster owns. -/
def HasCopy : Prop := ∃ o, s.get (mirrorKey r req) = some o ∧ o.owner = r.clusterID

variable (r s req) in
/-- Nothing keeps the copy from being deleted. -/
def Deletable : Prop :=
  ∀ o, s.get (mirrorKey r req) = some o → o.owner = r.clusterID → o.finalizers = []

/-- A reconcile call writes copies without finalizers. -/
theorem Plain.deletable (hr : Plain r) (hd : Deletable r s req) :
    Deletable r (reconciled x r s env req).server req := by
  intro o ho hown
  rcases reconciled_issued.marks ho with ⟨o₀, h₀, hm⟩ | ⟨d, ⟨m, ⟨stored, hc⟩, -⟩, hm⟩
  · rw [hm.finalizers]
    exact hd o₀ h₀ (hm.owner.symm.trans hown)
  · rw [hm.finalizers, hr.copy hc]
    rfl

theorem gvkForObject_requestObj {gvk : GVK} (hk : gvk.kind ≠ "") (hv : gvk.version ≠ "") :
    gvkForObject (requestObj x gvk req) = .ok gvk := by
  unfold requestObj initObjectFromGVK
  split
  · rfl
  · exact (gvkForObject_unstructured rfl).mpr ⟨hk, hv, rfl⟩

/-- The lookup for a source that was not found is by the key of the copy. -/
theorem Plain.finds (hr : Plain r) (hk : r.gvk.kind ≠ "") (hv : r.gvk.version ≠ "") {c : Obj}
    (hc : c.key = mirrorKey r req) :
    FindsCopy r (r.hasMutated = true) s (requestObj x r.gvk req) c := by
  have hsought : sought r (requestObj x r.gvk req) = requestObj x r.gvk req := by
    unfold sought
    rw [← hr.kind]
    exact if_neg (by simp)
  refine ⟨fun h => absurd h (by rw [hr.unmarked]; exact nofun), fun _ => ?_⟩
  rw [hsought, gvkForObject_requestObj hk hv]
  unfold Obj.key mirrorKey at hc
  simp only [Key.mk.injEq] at hc
  unfold Obj.nn
  rw [hc.1, hc.2.1, hc.2.2]
  exact ⟨rfl, rfl⟩

/-- **A deletion that gets through** leaves no copy of the remote cluster. -/
theorem Plain.not_hasCopy (hr : Plain r) (hk : r.gvk.kind ≠ "") (hv : r.gvk.version ≠ "")
    (hd : Deletable r s req) {e : Err} (hsrc : env.source = .error e) (he : e.reason = .notFound)
    (hf : env.faults = {}) : ¬HasCopy r (reconciled x r s env req).server req := by
  have hgone : SourceGone env := .inl ⟨e, hsrc, he⟩
  rintro ⟨o, ho, hown⟩
  have hold : ∃ c, s.get (mirrorKey r req) = some c ∧ c.owner = r.clusterID := by
    rcases reconciled_issued.marks ho with ⟨c, hc, hm⟩ | ⟨d, ⟨m, ⟨stored, hc⟩, -⟩, -⟩
    · exact ⟨c, hc, hm.owner.symm.trans hown⟩
    · cases hsrc.symm.trans hc.source
  obtain ⟨c, hc, hcown⟩ := hold
  have hkey : c.key = mirrorKey r req := ApiServer.key_of_get hc
  have hal := not_ownedByAnother env hcown
  obtain ⟨events, heq⟩ := reconciled_gone x r s req hgone
  rw [heq] at ho
  have hview : sourceView x r env req = requestObj x r.gvk req := by
    unfold sourceView; rw [hsrc]
  have hget : (deleteResource env (requestObj x r.gvk req) ⟨r, s, [], []⟩).2.server.get c.key =
      none :=
    deleteResource_get hf rfl (hkey ▸ hc) (hcown ▸ hr.known) hal (hd c hc hcown)
      (hr.finds hk hv hkey)
  rw [hview, ← hkey] at ho
  cases hget.symm.trans ho

end

/-! ## Histories of the source -/

/-- The source object on the remote cluster, if it is there, and the local side. -/
structure Mirror where
  source : Option Obj
  r : SyncReconciler
  server : ApiServer

/-- The source is created, updated or deleted; a call that follows runs in `env`. -/
structure Change where
  new : Option Obj
  env : Env

/-- The event that the remote watch delivers. -/
def eventOf : Option Obj → Option Obj → Option WatchEvent
  | none, none => none
  | none, some new => some (.create new)
  | some old, some new => some (.update old new)
  | some old, none => some (.delete old)

/-- A fresh read of the source. -/
def readSource : Option Obj → Except Err Obj
  | some o => .ok o
  | none => .error ⟨.notFound, "not found"⟩

section

variable (x : External) (r₀ : SyncReconciler) (req : NamespacedName)

/-- The watch predicate lets the event through. -/
def admitted (s : Mirror) (a : Change) : Bool :=
  (eventOf s.source a.new).any (remotePredicate x s.r)

/-- The reconcile call after an event that counts. -/
def handled (s : Mirror) (a : Change) : SyncState :=
  reconciled x s.r s.server { a.env with source := readSource a.new } req

def Mirror.step (s : Mirror) (a : Change) : Mirror :=
  if admitted x s a then ⟨a.new, (handled x req s a).r, (handled x req s a).server⟩
  else { s with source := a.new }

/-- All versions of the source are of the kind and name requested; local API
calls go through. -/
def mirror : System Mirror Change where
  init s := s.source = none ∧ s.r = r₀ ∧ ¬HasCopy r₀ s.server req
  ok _ s a := (s.source = none → a.new ≠ none) ∧ a.env.faults = {} ∧
    ∀ o, a.new = some o → o.key = mirrorKey r₀ req ∧ o.gvk.kind ≠ "" ∧ o.gvk.version ≠ ""
  step := Mirror.step x req

/-- A copy that the remote cluster owns is there only if its source is. -/
def NoOrphan (s : Mirror) : Prop := s.source = none → ¬HasCopy s.r s.server req

/-- A deletion counts for the watch, or finds no copy. -/
def DeletionSeen (s : Mirror) (a : Change) : Prop :=
  a.new = none → admitted x s a = true ∨ ¬HasCopy s.r s.server req

variable {x r₀ req}

/-- What every state of a history has. -/
structure Tidy (req : NamespacedName) (s : Mirror) : Prop where
  plain : Plain s.r
  named : s.source ≠ none → s.r.gvk.kind ≠ "" ∧ s.r.gvk.version ≠ ""
  deletable : Deletable s.r s.server req

theorem Mirror.step_r (s : Mirror) (a : Change) : s.r.Same (s.step x req a).r := by
  unfold Mirror.step
  split
  · exact reconciled_same
  · exact .refl s.r

theorem Tidy.step {s : Mirror} {a : Change} (h : Tidy req s)
    (hnew : a.new ≠ none → s.r.gvk.kind ≠ "" ∧ s.r.gvk.version ≠ "") :
    Tidy req (s.step x req a) := by
  unfold Mirror.step
  split
  · have hr : (handled x req s a).r = marked x { a.env with source := readSource a.new } s.r :=
      reconcileRequest_r _ req
    have hsame : s.r.Same (handled x req s a).r := reconciled_same
    refine ⟨hr ▸ h.plain.marked, hsame.gvk ▸ hnew, ?_⟩
    have hd : Deletable s.r (handled x req s a).server req := h.plain.deletable h.deletable
    unfold Deletable mirrorKey at hd ⊢
    rwa [hsame.gvk, hsame.clusterID]
  · exact ⟨h.plain, hnew, h.deletable⟩

theorem tidy_of_run (hr₀ : Plain r₀) {tr : List (Mirror × Change)} {s : Mirror}
    (h : Run (mirror x r₀ req) tr s) : Tidy req s ∧ r₀.Same s.r := by
  refine h.invariant (P := fun s => Tidy req s ∧ r₀.Same s.r) ?_ ?_
  · rintro s ⟨hsrc, rfl, hcopy⟩
    exact ⟨⟨hr₀, fun h => absurd hsrc h, fun o ho hown => absurd ⟨o, ho, hown⟩ hcopy⟩, .refl _⟩
  · rintro tr s a _ ⟨ih, hsame⟩ ⟨-, -, hnew⟩
    refine ⟨ih.step fun hne => ?_, hsame.trans (s.step_r a)⟩
    obtain ⟨o, ho⟩ := Option.ne_none_iff_exists'.mp hne
    obtain ⟨hkey, hkind⟩ := hnew o ho
    have hgvk : o.gvk = s.r.gvk := (congrArg Key.gvk hkey).trans hsame.gvk.symm
    rwa [hgvk] at hkind

/-- **One event**: the copy is orphaned exactly by a deletion that does not count. -/
theorem noOrphan_step_iff {s : Mirror} {a : Change} (h : Tidy req s) (hf : a.env.faults = {})
    (hsrc : s.source = none → a.new ≠ none) :
    NoOrphan req (s.step x req a) ↔ DeletionSeen x req s a := by
  unfold NoOrphan DeletionSeen Mirror.step
  by_cases hadm : admitted x s a = true
  · rw [if_pos hadm]
    refine ⟨fun _ _ => .inl hadm, fun _ hnone => ?_⟩
    have hgone : readSource a.new = .error ⟨.notFound, "not found"⟩ := by
      rw [show a.new = none from hnone]; rfl
    obtain ⟨hk, hv⟩ := h.named fun e => hsrc e hnone
    have hsame : s.r.Same (handled x req s a).r := reconciled_same
    have hno : ¬HasCopy s.r (handled x req s a).server req :=
      h.plain.not_hasCopy hk hv h.deletable hgone rfl hf
    unfold HasCopy mirrorKey at hno ⊢
    rwa [hsame.gvk, hsame.clusterID]
  · rw [if_neg hadm]
    exact ⟨fun h hnone => .inr (h hnone), fun h hnone => (h hnone).resolve_left hadm⟩

end

/-- **No orphaned copies**, over any history of a source object: all states are
free of them if and only if every deletion in the history is admitted by the
watch predicate or comes when there is no copy. -/
theorem no_orphans_iff (x : External) (rule : ResourceSyncRule) (hrule : KeepsKey rule)
    (clusterID localClusterID : String) (hid : clusterID ≠ "") (limited : Bool)
    (req : NamespacedName) (tr : List (Mirror × Change)) (s : Mirror)
    (h : Run (mirror x ((newSyncReconciler rule clusterID limited).start localClusterID) req) tr
      s) :
    (∀ t ∈ states tr s, NoOrphan req t) ↔ ∀ p ∈ tr, DeletionSeen x req p.1 p.2 := by
  have hplain := plain_start hrule hid localClusterID limited
  refine h.good_iff (C := DeletionSeen x req) ?_ ?_
  · rintro s ⟨-, hr, hcopy⟩ -
    rw [hr]
    exact hcopy
  · rintro tr s a hrun - ⟨hsrc, hf, -⟩
    exact noOrphan_step_iff (tidy_of_run hplain hrun).1 hf hsrc

section

open Sample

/-- The source changes, with nothing going wrong. -/
def becomes (new : Option Obj) : Change :=
  ⟨new, { source := readSource new, alive := fun _ => true }⟩

def nothingYet : Mirror := ⟨none, syncing "L" "R", .empty⟩

/-- The object is copied under the plain rule. -/
def came : Mirror := nothingYet.step .bare req (becomes (some stored))

/-- And then deleted. -/
def went : Mirror := came.step .bare req (becomes none)

theorem run_went : Run (mirror .bare (syncing "L" "R") req)
    [(came, becomes none), (nothingYet, becomes (some stored))] went := by
  have hstart : Run (mirror .bare (syncing "L" "R") req) [] nothingYet :=
    .init ⟨rfl, rfl, fun ⟨_, h, _⟩ => by cases h⟩
  refine (hstart.step (becomes (some stored)) ⟨fun _ => Option.some_ne_none stored, rfl, ?_⟩).step
    (becomes none) ⟨fun h => absurd h (Option.some_ne_none stored), rfl, fun _ h => nomatch h⟩
  rintro o ⟨⟩
  exact ⟨rfl, by decide, by decide⟩

theorem no_orphans_iff_went : NoOrphan req went := by
  have hadm : admitted .bare came (becomes none) = true := by decide +kernel
  refine (no_orphans_iff .bare rule (by decide) "R" "L" (by decide) false req
    [(came, becomes none), (nothingYet, becomes (some stored))] went run_went).mpr ?_ went
    List.mem_cons_self
  exact List.forall_mem_cons.mpr ⟨fun _ => .inl hadm,
    List.forall_mem_singleton.mpr fun h => absurd h (Option.some_ne_none stored)⟩

/-- A rule for objects with a label. -/
def labelRule : ResourceSyncRule :=
  let selector : LabelSelector := ⟨some ((∅ : StringMap).insert "sync" "yes"), none⟩
  ⟨"rule", "", ⟨none, gvk, some [{ «matches» := some [{ labels := some [selector] }] }]⟩⟩

def selecting : SyncReconciler := (newSyncReconciler labelRule "R" false).start "L"

def labelledStored : Obj := { stored with labels := (∅ : StringMap).insert "sync" "yes" }

/-- The object is copied, loses its label, and is deleted. -/
def labelLost : List (Mirror × Change) × Mirror :=
  played (mirror .bare selecting req) [] ⟨none, selecting, .empty⟩
    [becomes (some labelledStored), becomes (some stored), becomes none]

theorem orphan_labelLost : KeepsKey labelRule ∧
    Run (mirror .bare selecting req) labelLost.1 labelLost.2 ∧ ¬NoOrphan req labelLost.2 := by
  have hcopy : (labelLost.2.server.get key).map Obj.owner = some "R" := by decide +kernel
  refine ⟨by decide, ?_, fun h => ?_⟩
  · refine .plays (.init ⟨rfl, rfl, fun ⟨_, h, _⟩ => by cases h⟩) ?_
    refine ⟨⟨fun _ => Option.some_ne_none _, rfl, ?_⟩, ⟨fun _ => Option.some_ne_none _, rfl, ?_⟩,
      ⟨fun h => absurd h (Option.some_ne_none stored), rfl, fun _ h => nomatch h⟩, trivial⟩ <;>
    · rintro o ⟨⟩
      exact ⟨rfl, by decide, by decide⟩
  · obtain ⟨o, ho, hown⟩ := Option.map_eq_some_iff.mp hcopy
    exact h rfl ⟨o, ho, hown⟩

end

end ClusterRegistry.Sync
