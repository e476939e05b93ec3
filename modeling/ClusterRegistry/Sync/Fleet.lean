import ClusterRegistry.Clusters.Cluster
import ClusterRegistry.Lib.Run
import ClusterRegistry.Sync.Marks
import ClusterRegistry.Sync.Watch

/-!
# Fleets of clusters

Any number of clusters by their IDs, each with an API server, the manager of
the clusters it knows, and one sync reconciler for each rule and remote
cluster. Users write to any cluster, clusters come and go in the managers,
reconcilers start and stop, watches enqueue requests, and a reconcile call is
one step. It reads the source object as the remote server has it or had it at
some point of the run.

A `Setting` fixes what users write, which reconcilers run, and whether a
request must have been enqueued by an event. `written` says what a step can
make of the objects stored; every property of the stored objects is proved
from it.
-/

namespace ClusterRegistry.Sync

open Lib Clusters

/-- A reconciler serves one rule and reads one remote cluster. -/
structure RecID where
  rule : String
  remote : String
  deriving DecidableEq

structure Node where
  server : ApiServer := .empty
  manager : Manager Unit := ∅
  reconcilers : Map RecID SyncReconciler := ∅
  /-- The requests enqueued so far; a request may be retried at any time. -/
  queue : List (RecID × NamespacedName) := []

abbrev Fleet : Type := String → Node

inductive Act where
  | userCreate (c : String) (k : Key) (o : Obj)
  | userUpdate (c : String) (k : Key) (o : Obj)
  | userDelete (c : String) (k : Key)
  /-- Clusters are registered, removed, found alive or dead. -/
  | manage (c : String) (m : Manager Unit)
  | start (c : String) (id : RecID) (r : SyncReconciler)
  | stop (c : String) (id : RecID)
  | remoteEvent (c : String) (id : RecID) (e : WatchEvent)
  | localEvent (c : String) (id : RecID) (e : WatchEvent)
  | reconcile (c : String) (id : RecID) (req : NamespacedName) (env : Env)

/-- The server after a call, taken or refused. -/
def attempted (s : ApiServer) (res : Except Err ApiServer) : ApiServer :=
  match res with
  | .ok s' => s'
  | .error _ => s

/-- What a reconcile call of `r` leaves behind. -/
def reconciled (x : External) (r : SyncReconciler) (s : ApiServer) (env : Env)
    (req : NamespacedName) : SyncState :=
  (reconcileRequest x env req).final ⟨r, s, [], []⟩

namespace Node

def enqueue (n : Node) (id : RecID) (reqs : List NamespacedName) : Node :=
  { n with queue := n.queue ++ reqs.map (id, ·) }

/-- What an action on the cluster makes of it. -/
def step (x : External) (n : Node) : Act → Node
  | .userCreate _ k o => { n with server := attempted n.server (n.server.create k o) }
  | .userUpdate _ k o => { n with server := attempted n.server (n.server.update k o) }
  | .userDelete _ k => { n with server := attempted n.server (n.server.delete k) }
  | .manage _ m => { n with manager := m }
  | .start _ id r => { n with reconcilers := n.reconcilers.insert id r }
  | .stop _ id => { n with reconcilers := n.reconcilers.erase id }
  | .remoteEvent _ id e => n.enqueue id (e.objects.map Obj.nn)
  | .localEvent _ id e => n.enqueue id (e.objects.map localRequest)
  | .reconcile _ id req env =>
    match n.reconcilers.lookup id with
    | none => n
    | some r =>
      let st := reconciled x r n.server env req
      { n with server := st.server, reconcilers := n.reconcilers.insert id st.r }

end Node

def Act.cluster : Act → String
  | userCreate c _ _ => c
  | userUpdate c _ _ => c
  | userDelete c _ => c
  | manage c _ => c
  | start c _ _ => c
  | stop c _ => c
  | remoteEvent c _ _ => c
  | localEvent c _ _ => c
  | reconcile c _ _ _ => c

def Fleet.step (x : External) (f : Fleet) (a : Act) : Fleet :=
  Function.update f a.cluster ((f a.cluster).step x a)

theorem Fleet.step_self (x : External) (f : Fleet) (a : Act) :
    f.step x a a.cluster = (f a.cluster).step x a := Function.update_self ..

theorem Fleet.step_ne {x : External} {f : Fleet} {a : Act} {c : String} (h : c ≠ a.cluster) :
    f.step x a c = f c := Function.update_of_ne h ..

theorem Node.step_reconcile {x : External} {n : Node} {id : RecID} {r : SyncReconciler}
    (h : n.reconcilers.lookup id = some r) (c : String) (req : NamespacedName) (env : Env) :
    n.step x (.reconcile c id req env) =
      { n with
        server := (reconciled x r n.server env req).server
        reconcilers := n.reconcilers.insert id (reconciled x r n.server env req).r } := by
  simp only [Node.step, h]

structure Setting where
  x : External
  init : Fleet → Prop := fun _ => True
  userCreate : Obj → Prop := fun _ => True
  /-- The object stored, and what a user makes of it. -/
  userUpdate : Obj → Obj → Prop := fun _ _ => True
  /-- The reconcilers that a cluster runs. -/
  reconciler : String → RecID → SyncReconciler → Prop := fun _ _ _ => True
  /-- Reconcile calls answer enqueued requests only. -/
  driven : Bool := false

/-- What a read of a key returns when the server went through `l`. -/
def Reads (l : List ApiServer) (k : Key) : Except Err Obj → Prop
  | .ok o => ∃ s ∈ l, s.get k = some o
  | .error e => e.reason = .notFound → ∃ s ∈ l, s.get k = none

/-- The API server of a cluster along a run. -/
def servers (c : String) (tr : List (Fleet × Act)) (f : Fleet) : List ApiServer :=
  (states tr f).map fun t => (t c).server

/-- What a read returns was there in a state of the run. -/
theorem Reads.state {c : String} {tr : List (Fleet × Act)} {f : Fleet} {k : Key}
    {source : Except Err Obj} (h : Reads (servers c tr f) k source) (o : Obj)
    (ho : source = .ok o) : ∃ t ∈ states tr f, (t c).server.get k = some o := by
  subst ho
  obtain ⟨s, hs, hget⟩ := h
  obtain ⟨t, ht, rfl⟩ := List.mem_map.mp hs
  exact ⟨t, ht, hget⟩

/-- The reconciler runs, and the event is about objects of a kind that the server held. -/
def Delivers (l : List ApiServer) (gvk : GVK) (e : WatchEvent) : Prop :=
  ∀ o ∈ e.objects, o.gvk = gvk ∧ ∃ s ∈ l, s.get o.key = some o

def Setting.Allowed (P : Setting) (tr : List (Fleet × Act)) (f : Fleet) : Act → Prop
  | .userCreate _ _ o => P.userCreate o
  | .userUpdate c k o => ∀ cur, (f c).server.get k = some cur → P.userUpdate cur o
  | .userDelete _ _ => True
  | .manage _ _ => True
  | .start c id r => P.reconciler c id r
  | .stop _ _ => True
  | .remoteEvent c id e => ∃ r, (f c).reconcilers.lookup id = some r ∧
      remotePredicate P.x r e = true ∧ Delivers (servers id.remote tr f) r.gvk e
  | .localEvent c id e => ∃ r, (f c).reconcilers.lookup id = some r ∧
      localPredicate P.x e = true ∧ Delivers (servers c tr f) r.localGVK e
  | .reconcile c id req env => (P.driven = true → (id, req) ∈ (f c).queue) ∧
      env.alive = (f c).manager.aliveByID ∧ ∃ r, (f c).reconcilers.lookup id = some r ∧
        Reads (servers id.remote tr f) ⟨r.gvk, req.namespace, req.name⟩ env.source

def fleet (P : Setting) : System Fleet Act where
  init f := P.init f ∧ ∀ c, (f c).reconcilers = ∅ ∧ (f c).queue = []
  ok := P.Allowed
  step := Fleet.step P.x

theorem fleet_step (P : Setting) (f : Fleet) (a : Act) : (fleet P).step f a = f.step P.x a := rfl

/-! ## What a step can do -/

section

variable {x : External} {r : SyncReconciler} {s : ApiServer} {env : Env} {req : NamespacedName}

/-- The calls of a reconcile call, one by one. -/
theorem reconciled_issued : Issued (Gate x env r s) s (reconciled x r s env req).calls
    (reconciled x r s env req).server := by
  obtain ⟨cs, hc, hi⟩ := reconcileRequest_writes x env ⟨r, s, [], []⟩ req
  rw [List.nil_append] at hc
  unfold reconciled Lib.Eff.final
  rw [hc]
  exact hi

variable (x r s env req) in
/-- To what `reconcile` does, `Reconcile` adds at most an event. -/
theorem reconciled_eq : ∃ events, reconciled x r s env req =
    { (reconcile x env req ⟨r, s, [], []⟩).2 with events := events } := by
  unfold reconciled Lib.Eff.final reconcileRequest
  rw [Lib.Eff.bind_of_ok (show Lib.Eff.attempt (reconcile x env req) ⟨r, s, [], []⟩ = _ from rfl)]
  cases (reconcile x env req ⟨r, s, [], []⟩).1 with
  | ok result => exact ⟨_, rfl⟩
  | error e => exact ⟨_, rfl⟩

theorem reconciled_same : r.Same (reconciled x r s env req).r := by
  have h : (reconciled x r s env req).r = marked x env r := reconcileRequest_r _ req
  rw [h]
  exact marked_same

end

theorem Node.step_reconcilers {x : External} {n : Node} {a : Act} {id : RecID}
    {r : SyncReconciler} (h : (n.step x a).reconcilers.lookup id = some r) :
    (∃ r', n.reconcilers.lookup id = some r' ∧ r'.Same r) ∨ ∃ c, a = .start c id r := by
  have old : n.reconcilers.lookup id = some r →
      ∃ r', n.reconcilers.lookup id = some r' ∧ r'.Same r := fun h => ⟨r, h, .refl r⟩
  cases a with
  | start c id' r' =>
    simp only [step, Map.lookup_insert_if] at h
    split at h
    · next e => cases h; exact .inr ⟨c, by rw [e]⟩
    · exact .inl (old h)
  | stop c id' =>
    simp only [step, Map.lookup_erase_if] at h
    split at h
    · cases h
    · exact .inl (old h)
  | reconcile c id' req env =>
    cases hl : n.reconcilers.lookup id' with
    | none => simp only [step, hl] at h; exact .inl (old h)
    | some r' =>
      rw [step_reconcile hl] at h
      simp only [Map.lookup_insert_if] at h
      split at h
      · next e => cases h; exact .inl ⟨r', by rw [e]; exact hl, reconciled_same⟩
      · exact .inl (old h)
  | userCreate c k o => exact .inl (old h)
  | userUpdate c k o => exact .inl (old h)
  | userDelete c k => exact .inl (old h)
  | manage c m => exact .inl (old h)
  | remoteEvent c id' e => exact .inl (old h)
  | localEvent c id' e => exact .inl (old h)

/-- The reconcilers that run are those that were started, up to their marks. -/
theorem reconcilers_of_run {P : Setting} {tr : List (Fleet × Act)} {f : Fleet}
    (h : Run (fleet P) tr f) : ∀ {c id r}, (f c).reconcilers.lookup id = some r →
      ∃ r₀, P.reconciler c id r₀ ∧ r₀.Same r := by
  refine h.invariant (P := fun f => ∀ {c id r}, (f c).reconcilers.lookup id = some r →
      ∃ r₀, P.reconciler c id r₀ ∧ r₀.Same r) ?_ ?_
  · rintro f ⟨-, hf⟩ c id r hr
    rw [(hf c).1] at hr
    cases hr
  · intro tr f a _ ih ha c id r hr
    by_cases e : c = a.cluster
    · subst e
      rw [fleet_step, Fleet.step_self] at hr
      rcases Node.step_reconcilers hr with ⟨r', hr', hs⟩ | ⟨c, rfl⟩
      · obtain ⟨r₀, h0, hs0⟩ := ih hr'
        exact ⟨r₀, h0, hs0.trans hs⟩
      · exact ⟨r, ha, .refl r⟩
    · rw [fleet_step, Fleet.step_ne e] at hr
      exact ih hr

theorem attempted_get {s : ApiServer} (call : Call) {k : Key} {o' : Obj}
    (h : (attempted s (call.apply s)).get k = some o') : (∃ o, s.get k = some o ∧ SameMarks o o') ∨
      (∃ o, call = .create k o ∧ SameMarks o o') ∨
      ∃ cur o, call = .update k o ∧ s.get k = some cur ∧ SameMarks o o' := by
  unfold attempted at h
  split at h
  · next s' ha => exact Call.marks_apply ha h
  · exact .inl ⟨o', h, .refl o'⟩

/-- **Where the labels and annotations of a stored object come from**: it had
them before the step, a user wrote them, or a reconcile call wrote a copy. -/
theorem written {P : Setting} {tr : List (Fleet × Act)} {f : Fleet} {a : Act}
    (hok : P.Allowed tr f a) {c : String} {k : Key} {o' : Obj}
    (h : (f.step P.x a c).server.get k = some o') :
    (∃ o, (f c).server.get k = some o ∧ SameMarks o o') ∨
    (∃ o, P.userCreate o ∧ SameMarks o o') ∨
    (∃ cur o, (f c).server.get k = some cur ∧ P.userUpdate cur o ∧ SameMarks o o') ∨
    ∃ id req env r d, a = .reconcile c id req env ∧ (f c).reconcilers.lookup id = some r ∧
      Synced P.x env r (f c).server k d ∧ Carries d o' := by
  by_cases e : c = a.cluster
  swap
  · rw [Fleet.step_ne e] at h; exact .inl ⟨o', h, .refl o'⟩
  subst e
  rw [Fleet.step_self] at h
  cases a with
  | userCreate c k' o =>
    rcases attempted_get (.create k' o) h with h | ⟨_, e, hm⟩ | ⟨_, _, e, -⟩
    · exact .inl h
    · cases e; exact .inr (.inl ⟨o, hok, hm⟩)
    · cases e
  | userUpdate c k' o =>
    rcases attempted_get (.update k' o) h with h | ⟨_, e, -⟩ | ⟨cur, _, e, hc, hm⟩
    · exact .inl h
    · cases e
    · cases e; exact .inr (.inr (.inl ⟨cur, o, hc, hok cur hc, hm⟩))
  | userDelete c k' =>
    rcases attempted_get (.delete k') h with h | ⟨_, e, -⟩ | ⟨_, _, e, -⟩
    · exact .inl h
    · cases e
    · cases e
  | reconcile c id req env =>
    obtain ⟨-, -, r, hr, -⟩ := hok
    rw [show (Act.reconcile c id req env).cluster = c from rfl, Node.step_reconcile hr] at h
    rcases reconciled_issued.marks h with h | ⟨d, hd, hm⟩
    · exact .inl h
    · exact .inr (.inr (.inr ⟨id, req, env, r, d, rfl, hr, hd, hm⟩))
  | start c id r => exact .inl ⟨o', h, .refl o'⟩
  | stop c id => exact .inl ⟨o', h, .refl o'⟩
  | manage c m => exact .inl ⟨o', h, .refl o'⟩
  | remoteEvent c id e => exact .inl ⟨o', h, .refl o'⟩
  | localEvent c id e => exact .inl ⟨o', h, .refl o'⟩

/-! ## A small fleet -/

namespace Sample

def gvk : GVK := ⟨"", "v1", "ConfigMap"⟩

/-- A rule that copies every object of the kind as it is. -/
def rule : ResourceSyncRule := ⟨"rule", "", ⟨none, gvk, some [{}]⟩⟩

/-- The reconciler for the rule that cluster `here` runs for `remote`. -/
def syncing (here remote : String) : SyncReconciler :=
  (newSyncReconciler rule remote false).start here

def key : Key := ⟨gvk, "", "cm"⟩

def req : NamespacedName := ⟨"", "cm"⟩

def obj : Obj := { name := "cm", «namespace» := "", gvk := gvk }

/-- The object as the first write on a server stores it. -/
def stored : Obj := ApiServer.empty.stamp key (ApiServer.empty.created obj)

/-- A first copy of it, with its owner. -/
def copyOf (owner : String) : Obj :=
  { stored with
    annotations := (∅ : StringMap).insert ownershipAnnotation owner
    labels := (∅ : StringMap).insert ownershipAnnotation owner }

/-- A manager that knows the clusters, alive or dead. -/
def knows (l : List (String × Bool)) : Manager Unit :=
  l.foldl (fun m c => m.insert c.1 { name := c.1, clusterID := c.1, alive := c.2 }) ∅

/-- A call on the cluster with this read of the source, with nothing going wrong. -/
def reading (f : Fleet) (c : String) (source : Except Err Obj) : Env :=
  { source := source, alive := (f c).manager.aliveByID }

def notFound : Except Err Obj := .error ⟨.notFound, "not found"⟩

/-- The source is gone, with all clusters alive. -/
def gone : Env := { source := notFound, alive := fun _ => true }

end Sample

end ClusterRegistry.Sync
