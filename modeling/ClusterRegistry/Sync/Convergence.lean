import ClusterRegistry.Lib.Level
import ClusterRegistry.Sync.Served

/-!
# Copies come to fit their sources

The controller of one rule and one remote cluster as a whole, for a rule that
keeps names and kinds. The remote watch follows the source objects with a delay,
and the local informer the copies; each has its predicate, and both fill one
queue. Calls fail, are limited or find no namespace, and are then repeated. Others
write to both clusters at any time, and clusters come alive and die. A call reads
the local cluster as it is at that time; the client of the code reads from a cache,
which may be behind.

`copy_wrong_iff` says when all this comes to rest with a copy that does not fit.
What single calls do wrong is put right by later ones: a copy that a call takes
away is reported by the local informer. What is left are the changes that the
predicates drop and those that no watch sees.
-/

namespace ClusterRegistry.Sync

open Lib

/-- What the gates look at. -/
def gates (alive : String → Bool) : Env := { source := .error (.new ""), alive := alive }

structure Syncing where
  remote : Watched NamespacedName Obj
  server : ApiServer := .empty
  /-- The copies as the local informer has seen them. -/
  seen : Map NamespacedName Obj := ∅
  alive : String → Bool

namespace Syncing

inductive Act where
  /-- Others write to the remote cluster. -/
  | source (q : NamespacedName) (version : Option Obj)
  | refresh (q : NamespacedName) (version : Option Obj)
  | handle
  /-- Others write to the local cluster. -/
  | others (server : ApiServer)
  /-- The local informer learns of a version of the copy. -/
  | observe (q : NamespacedName) (version : Option Obj)
  | liveness (alive : String → Bool)
  | serve (q : NamespacedName) (env : Env)

variable (x : External) (decode : String → String → Option String) (r : SyncReconciler)

def passes (n : Notice NamespacedName Obj) : Bool :=
  (eventOf n.old n.new).any (remotePredicate x r)

/-- The call need not be repeated. -/
def done : Except Err Result → Bool
  | .ok result => result = {}
  | .error _ => false

variable (s : Syncing)

/-- What the local informer asks for when it learns of this version. -/
def requests (q : NamespacedName) (version : Option Obj) : List NamespacedName :=
  match eventOf (s.seen.lookup q) version with
  | some e => if localPredicate x e then e.objects.map localRequest else []
  | none => []

def step : Act → Syncing
  | .source q version => { s with remote := s.remote.edit q version }
  | .refresh q version => { s with remote := s.remote.refresh q version }
  | .handle => { s with remote := s.remote.handle (passes x r) }
  | .others server => { s with server := server }
  | .observe q version =>
    { s with
      seen := s.seen.set q version
      remote := s.remote.enqueue (s.requests x q version).toFinset }
  | .liveness alive => { s with alive := alive }
  | .serve q env =>
    { s with
      server := (reconciled x r s.server env q).server
      remote := if done (reconcileRequest x env q ⟨r, s.server, [], []⟩).1 then s.remote.serve q
        else s.remote }

/-- A call is for a queued request, reads the cache and sees who is alive. -/
def Allowed : Act → Prop
  | .serve q env => q ∈ s.remote.queue ∧ env.alive = s.alive ∧
      Serves x decode r q (s.remote.cache.lookup q) s.server env
  | _ => True

end Syncing

/-- Nothing has been seen yet. -/
def convergence (x : External) (decode : String → String → Option String) (r : SyncReconciler) :
    System Syncing Syncing.Act where
  init s := s.remote.cache = ∅ ∧ s.remote.notices = [] ∧ s.remote.queue = ∅ ∧
    s.server = .empty ∧ s.seen = ∅
  ok _ s a := s.Allowed x decode r a
  step s a := s.step x r a

namespace Syncing

section

variable (x : External) (decode : String → String → Option String) (r : SyncReconciler)
  (q : NamespacedName)

/-- The copy fits what is known of the source, or the gates are closed. -/
def Right (s : Syncing) : Prop :=
  Settled x decode r (gates s.alive) (s.remote.cache.lookup q) (s.server.get (mirrorKey r q))

def Due (s : Syncing) : Prop := s.remote.Due (passes x r) q

/-- The local informer has seen the copy that is there. -/
def Seen (s : Syncing) : Prop := s.seen.lookup q = s.server.get (mirrorKey r q)

/-- The copy does not fit, and no call is on its way. -/
def Wrong (s : Syncing) : Prop := ¬s.Due x r q ∧ s.Seen r q ∧ ¬s.Right x decode r q

/-- A notice is ahead that will ask for a call. -/
def Ahead (s : Syncing) : Prop := ∃ n ∈ s.remote.notices, n.key = q ∧ passes x r n = true

/-- The copy does not fit after the step, and nothing will come of it: the watch drops a
change of the source or of the copy, the copy becomes what the informer has seen
already, who is alive changes, or a call changes nothing about a copy that is away. -/
def Breaks (s : Syncing) : Act → Prop
  | .refresh q' version => q' = q ∧ ¬s.Due x r q ∧
      passes x r ⟨q, s.remote.cache.lookup q, version⟩ = false ∧ s.Seen r q ∧
      ¬Settled x decode r (gates s.alive) version (s.server.get (mirrorKey r q))
  | .others server => ¬s.Due x r q ∧ s.seen.lookup q = server.get (mirrorKey r q) ∧
      ¬Settled x decode r (gates s.alive) (s.remote.cache.lookup q) (server.get (mirrorKey r q))
  | .liveness alive => ¬s.Due x r q ∧ s.Seen r q ∧ ¬Settled x decode r (gates alive)
      (s.remote.cache.lookup q) (s.server.get (mirrorKey r q))
  | .observe q' version => q' = q ∧ ¬s.Due x r q ∧ q ∉ s.requests x q version ∧
      version = s.server.get (mirrorKey r q) ∧ ¬s.Right x decode r q
  | .serve q' env => q' = q ∧ ¬s.Ahead x r q ∧
      done (reconcileRequest x env q ⟨r, s.server, [], []⟩).1 = true ∧
      Away ((reconciled x r s.server env q).server.get (mirrorKey r q)) ∧
      (s.step x r (.serve q env)).Seen r q ∧ ¬(s.step x r (.serve q env)).Right x decode r q
  | _ => False

/-- The step changes what the copy is measured by, or asks for a call. -/
def Looks (s : Syncing) : Act → Prop
  | .refresh q' _ => q' = q
  | .others _ => True
  | .liveness _ => True
  | .observe q' version => q' = q ∨ q ∈ s.requests x q' version
  | .serve q' _ => q' = q
  | _ => False

end

variable {x : External} {decode : String → String → Option String} {r : SyncReconciler}
  {q : NamespacedName} {s : Syncing}

theorem mirrorKey_injective {q q' : NamespacedName} (h : mirrorKey r q = mirrorKey r q') :
    q = q' := by
  obtain ⟨ns, name⟩ := q
  obtain ⟨ns', name'⟩ := q'
  cases h
  rfl

theorem due_refresh {q' : NamespacedName} {version : Option Obj} :
    (s.step x r (.refresh q' version)).Due x r q ↔ s.Due x r q ∨
      q = q' ∧ passes x r ⟨q', s.remote.cache.lookup q', version⟩ = true := Watched.due_refresh

theorem right_refresh {q' : NamespacedName} {version : Option Obj} :
    (s.step x r (.refresh q' version)).Right x decode r q ↔
      Settled x decode r (gates s.alive) (if q = q' then version else s.remote.cache.lookup q)
        (s.server.get (mirrorKey r q)) := by
  have hcache : (s.step x r (.refresh q' version)).remote.cache.lookup q =
      if q = q' then version else s.remote.cache.lookup q := Watched.lookup_cache_refresh
  unfold Right
  rw [hcache]
  exact Iff.rfl

theorem due_handle : (s.step x r .handle).Due x r q ↔ s.Due x r q := Watched.due_handle

theorem right_handle : (s.step x r .handle).Right x decode r q ↔ s.Right x decode r q := by
  have hcache : (s.step x r .handle).remote.cache = s.remote.cache := Watched.cache_handle
  unfold Right
  rw [hcache]
  exact Iff.rfl

theorem wrong_refresh (q' : NamespacedName) (version : Option Obj) :
    (s.step x r (.refresh q' version)).Wrong x decode r q ↔
      s.Breaks x decode r q (.refresh q' version) ∨
        ¬s.Looks x q (.refresh q' version) ∧ s.Wrong x decode r q := by
  have hseen : (s.step x r (.refresh q' version)).Seen r q ↔ s.Seen r q := Iff.rfl
  unfold Wrong
  rw [due_refresh, hseen, right_refresh]
  by_cases hq : q = q'
  · subst hq
    simp only [Breaks, Looks, true_and, not_true_eq_false, false_and, or_false, if_true, not_or,
      Bool.not_eq_true, and_assoc]
  · simp only [Breaks, Looks, hq, Ne.symm hq, false_and, or_false, if_false, not_false_eq_true,
      true_and, false_or]
    exact Iff.rfl

theorem wrong_observe (q' : NamespacedName) (version : Option Obj) :
    (s.step x r (.observe q' version)).Wrong x decode r q ↔
      s.Breaks x decode r q (.observe q' version) ∨
        ¬s.Looks x q (.observe q' version) ∧ s.Wrong x decode r q := by
  have hdue : (s.step x r (.observe q' version)).Due x r q ↔
      s.Due x r q ∨ q ∈ (s.requests x q' version).toFinset := Watched.due_enqueue
  have hright : (s.step x r (.observe q' version)).Right x decode r q ↔ s.Right x decode r q :=
    Iff.rfl
  have hseen : (s.step x r (.observe q' version)).Seen r q ↔
      (if q = q' then version else s.seen.lookup q) = s.server.get (mirrorKey r q) :=
    (Map.lookup_set s.seen q' version q).congr_left
  unfold Wrong
  rw [hdue, hseen, hright, List.mem_toFinset]
  by_cases hq : q = q'
  · subst hq
    simp only [Breaks, Looks, true_and, true_or, not_true_eq_false, false_and, or_false, if_true,
      not_or, and_assoc]
  · simp only [Breaks, Looks, hq, Ne.symm hq, false_and, false_or, if_false, not_or, and_assoc]
    exact and_left_comm

theorem done_eq_true {res : Except Err Result} : done res = true ↔ res = .ok {} := by
  cases res with
  | ok result => exact decide_eq_true_iff.trans (Except.ok.injEq ..).to_iff.symm
  | error e => exact iff_of_false Bool.false_ne_true nofun

theorem due_serve_self {q : NamespacedName} {env : Env} (hq : q ∈ s.remote.queue) :
    (s.step x r (.serve q env)).Due x r q ↔
      (done (reconcileRequest x env q ⟨r, s.server, [], []⟩).1 = true → s.Ahead x r q) := by
  unfold Due step
  simp only
  split
  · next h =>
    rw [forall_prop_of_true h]
    unfold Watched.Due Watched.serve
    simp only [Finset.notMem_erase, false_or]
    exact Iff.rfl
  · next h => exact iff_of_true (.inl hq) fun h' => absurd h' h

/-- A call for another object makes no difference. -/
theorem due_serve_ne {q' : NamespacedName} {env : Env} (hq : q' ≠ q) :
    (s.step x r (.serve q' env)).Due x r q ↔ s.Due x r q := by
  unfold Due step
  simp only
  split
  · exact Watched.due_serve_ne (Ne.symm hq)
  · exact Iff.rfl

theorem cache_serve {q' : NamespacedName} {env : Env} :
    (s.step x r (.serve q' env)).remote.cache = s.remote.cache := by
  unfold step
  simp only
  split <;> rfl

section

variable (hr : Plain r) (hkind : Kinded r) {q' : NamespacedName} {env : Env}
  (hok : s.Allowed x decode r (.serve q' env))

include hr hkind hok

theorem server_serve_ne (hq : q' ≠ q) :
    (s.step x r (.serve q' env)).server.get (mirrorKey r q) = s.server.get (mirrorKey r q) :=
  (hr.served hkind hok.2.2).1 _ fun h => hq (mirrorKey_injective h).symm

theorem right_serve_ne (hq : q' ≠ q) :
    (s.step x r (.serve q' env)).Right x decode r q ↔ s.Right x decode r q := by
  unfold Right
  rw [server_serve_ne hr hkind hok hq, cache_serve]
  exact Iff.rfl

/-- A call that need not be repeated settles the copy or takes it away. -/
theorem away_of_done (hdone : done (reconcileRequest x env q' ⟨r, s.server, [], []⟩).1 = true)
    (hwrong : ¬(s.step x r (.serve q' env)).Right x decode r q') :
    Away ((reconciled x r s.server env q').server.get (mirrorKey r q')) := by
  refine ((hr.served hkind hok.2.2).2 (done_eq_true.mp hdone)).resolve_left fun h => hwrong ?_
  unfold Right
  rw [cache_serve, show (s.step x r (.serve q' env)).alive = env.alive from hok.2.1.symm]
  exact h

theorem wrong_serve : (s.step x r (.serve q' env)).Wrong x decode r q ↔
    s.Breaks x decode r q (.serve q' env) ∨
      ¬s.Looks x q (.serve q' env) ∧ s.Wrong x decode r q := by
  unfold Wrong
  by_cases hq : q' = q
  · subst hq
    rw [due_serve_self hok.1, Classical.not_imp]
    simp only [Breaks, Looks, true_and, not_true_eq_false, false_and, or_false]
    constructor
    · rintro ⟨⟨hdone, hahead⟩, hseen, hwrong⟩
      exact ⟨hahead, hdone, away_of_done hr hkind hok hdone hwrong, hseen, hwrong⟩
    · rintro ⟨hahead, hdone, -, hseen, hwrong⟩
      exact ⟨⟨hdone, hahead⟩, hseen, hwrong⟩
  · rw [due_serve_ne hq, right_serve_ne hr hkind hok hq]
    unfold Seen
    rw [server_serve_ne hr hkind hok hq]
    simp only [Breaks, Looks, hq, false_and, not_false_eq_true, true_and, false_or]
    exact Iff.rfl

end

theorem wrong_step (hr : Plain r) (hkind : Kinded r) (a : Act) (hok : s.Allowed x decode r a) :
    (s.step x r a).Wrong x decode r q ↔
      s.Breaks x decode r q a ∨ ¬s.Looks x q a ∧ s.Wrong x decode r q := by
  cases a with
  | refresh q' version => exact wrong_refresh q' version
  | serve q' env => exact wrong_serve hr hkind hok
  | observe q' version => exact wrong_observe q' version
  | source q' version =>
    simp only [Breaks, Looks, not_false_eq_true, true_and, false_or]
    exact Iff.rfl
  | handle =>
    unfold Wrong
    rw [due_handle, right_handle]
    simp only [Breaks, Looks, not_false_eq_true, true_and, false_or]
    exact Iff.rfl
  | others server | liveness alive =>
    simp only [Breaks, Looks, not_true_eq_false, false_and, or_false]
    exact Iff.rfl

theorem right_of_new (hcache : s.remote.cache = ∅) (hserver : s.server = .empty) :
    s.Right x decode r q := by
  unfold Right
  rw [hcache, hserver]
  intro o ho
  cases ho

theorem wrong_iff (hr : Plain r) (hkind : Kinded r) {tr : List (Syncing × Act)}
    (h : Run (convergence x decode r) tr s) (q : NamespacedName) :
    s.Wrong x decode r q ↔
      Since (Breaks x decode r q) (Looks x q) tr := by
  refine h.since_iff (fun s hi hwrong => hwrong.2.2 ?_) fun _ _ a _ hok =>
    wrong_step hr hkind a hok
  obtain ⟨hcache, -, -, hserver, -⟩ := hi
  exact right_of_new hcache hserver

/-- **Which copies do not fit**: whatever others do to the two clusters and whatever the
calls run into, when both watches and the queue have come to rest, the copy of an
object is not as the rule wants it exactly if something has broken it that no watch
reports, and nothing has looked at it since. -/
theorem copy_wrong_iff (hr : Plain r) (hkind : Kinded r) {tr : List (Syncing × Act)}
    (h : Run (convergence x decode r) tr s) (hrest : s.remote.AtRest) (q : NamespacedName)
    (hseen : s.Seen r q) :
    ¬Settled x decode r (gates s.alive) (s.remote.store.lookup q) (s.server.get (mirrorKey r q)) ↔
      Since (Breaks x decode r q) (Looks x q) tr := by
  rw [← wrong_iff hr hkind h q]
  unfold Wrong Due Right
  rw [hrest.cache, and_iff_right (hrest.not_due q), and_iff_right hseen]

section

open Sample

/-- The object is there, and so is a copy that another cluster owns; then its owner dies. -/
def ownerGone : List (Syncing × Act) × Syncing :=
  played (convergence .bare (fun _ _ => none) (syncing "L" "R")) []
    { remote := { store := ∅ }, alive := fun _ => true }
    [.others (ApiServer.empty.put key (copyOf "O")), .observe req (some (copyOf "O")),
      .source req (some stored), .refresh req (some stored), .handle,
      .serve req { source := .ok stored, alive := fun _ => true }, .liveness fun _ => false]

theorem copy_wrong_iff_ownerGone :
    Since (Breaks .bare (fun _ _ => none) (syncing "L" "R") req) (Looks .bare req)
      ownerGone.1 := by
  have hr : Plain (syncing "L" "R") := plain_start (by decide) (by decide) "L" false
  have hcopy : ownerGone.2.server.get key = some (copyOf "O") := by decide +kernel
  have hsource : ownerGone.2.remote.store.lookup req = some stored := by decide +kernel
  have hwrong : ¬Settled .bare (fun _ _ => none) (syncing "L" "R") (gates ownerGone.2.alive)
      (ownerGone.2.remote.store.lookup req) (ownerGone.2.server.get key) := by
    rw [hsource, hcopy]
    intro h
    obtain ⟨_, -, hcovers⟩ := (settled_live rfl).mp h [{}] (by decide +kernel) (by decide +kernel)
    have hwanted : (mutateMeta (syncing "L" "R") (sourceObj .bare (syncing "L" "R") stored)
        [{}]).annotations.lookup ownershipAnnotation = some "R" := by decide +kernel
    have howner := hcovers.annotations ownershipAnnotation "R" hwanted
    revert howner
    decide +kernel
  refine (copy_wrong_iff hr ⟨by decide, by decide⟩ (.plays (.init ⟨rfl, rfl, rfl, rfl, rfl⟩) ?_) ?_
    req ?_).mp hwrong
  · refine ⟨trivial, trivial, trivial, trivial, trivial,
      ⟨by decide +kernel, rfl, .inl ?_, ?_, nofun, fun _ _ _ => nofun⟩, trivial, trivial⟩
    · exact congrArg readSource (show _ = some stored by decide +kernel).symm
    · intro o ho
      have ho : some stored = some o := ho
      cases ho
      rfl
  · exact ⟨by decide +kernel, by decide +kernel, by decide +kernel⟩
  · show ownerGone.2.seen.lookup req = ownerGone.2.server.get key
    decide +kernel

end

end Syncing

end ClusterRegistry.Sync
