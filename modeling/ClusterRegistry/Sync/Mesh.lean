import ClusterRegistry.Sync.Convergence
import ClusterRegistry.Sync.Copy

/-!
# Clusters that sync with each other

Any number of clusters, and on each of them a controller for every rule and remote
cluster, with a queue and caches of its own; the rules keep names and kinds. What a
controller writes to its cluster is what the controllers of other clusters read there: a
copy is a source in its turn, and clusters may sync both ways or in a circle.

To one controller the writes of all others are writes to its source or by others to its
own cluster, so that its part of a run is a run of its own (`run_part`). What is known
of one controller then holds in the mesh.

`mesh_agrees` is what the sync is for. At rest every copy that belongs to a remote cluster
is a copy of an object of that cluster itself, and every such object has its copy, unless
sync is disabled for it or a change was missed.
`rivals_apart` is about two controllers that want different things in one place.
-/

namespace ClusterRegistry.Sync

open Lib

/-- Who syncs what, and where, by rules that keep names and kinds. A controller runs
`here` and reads the cluster `home`. -/
structure Layout (ι κ : Type) where
  reconciler : ι → SyncReconciler
  here : ι → κ
  home : ι → κ
  apart : ∀ i, here i ≠ home i
  plain : ∀ i, Plain (reconciler i)
  kinded : ∀ i, Kinded (reconciler i)
  foreign : ∀ i, (reconciler i).localClusterID ≠ (reconciler i).clusterID

structure Mesh (ι κ : Type) where
  servers : κ → ApiServer := fun _ => .empty
  /-- The remote clusters that are alive, to each cluster. -/
  alive : κ → String → Bool
  remote : ι → Watched NamespacedName Obj := fun _ => { store := ∅ }
  seen : ι → Map NamespacedName Obj := fun _ => ∅

namespace Mesh

variable {ι κ : Type}

inductive Act (ι κ : Type) where
  /-- Users, or anything else but the controllers, write an object on a cluster. -/
  | write (k : κ) (key : Key) (version : Option Obj)
  | liveness (k : κ) (alive : String → Bool)
  /-- A step of one controller. -/
  | own (i : ι) (a : Syncing.Act)

/-- The steps that a controller makes by itself. -/
def Own : Syncing.Act → Prop
  | .refresh .. | .handle | .observe .. | .serve .. => True
  | .source .. | .others _ | .liveness _ => False

def written (s : ApiServer) (key : Key) : Option Obj → ApiServer
  | some o => s.put key o
  | none => s.erase key

variable [DecidableEq ι] [DecidableEq κ] (x : External)
  (decode : String → String → Option String) (l : Layout ι κ)

/-- The mesh as one of the controllers has it. -/
def part (m : Mesh ι κ) (i : ι) : Syncing where
  remote := m.remote i
  server := m.servers (l.here i)
  seen := m.seen i
  alive := m.alive (l.here i)

/-- The cluster's server after a write to the object, which those that read it will see. -/
def wrote (m : Mesh ι κ) (k : κ) (key : Key) (server : ApiServer) : Mesh ι κ :=
  { m with
    servers := Function.update m.servers k server
    remote := fun j =>
      if l.home j = k ∧ key.gvk = (l.reconciler j).gvk then
        (m.remote j).edit ⟨key.namespace, key.name⟩ (server.get key)
      else m.remote j }

def put (m : Mesh ι κ) (i : ι) (s : Syncing) : Mesh ι κ :=
  { m with
    remote := Function.update m.remote i s.remote
    seen := Function.update m.seen i s.seen }

/-- The mesh once the step has made `s` of the controller's part: only its calls write. -/
def after (m : Mesh ι κ) (i : ι) (s : Syncing) : Syncing.Act → Mesh ι κ
  | .serve q _ => (m.put i s).wrote l (l.here i) (mirrorKey (l.reconciler i) q) s.server
  | _ => m.put i s

def step (m : Mesh ι κ) : Act ι κ → Mesh ι κ
  | .write k key version => m.wrote l k key (written (m.servers k) key version)
  | .liveness k alive => { m with alive := Function.update m.alive k alive }
  | .own i a => m.after l i ((m.part l i).step x (l.reconciler i) a) a

def Allowed (m : Mesh ι κ) : Act ι κ → Prop
  | .own i a => Own a ∧ (m.part l i).Allowed x decode (l.reconciler i) a
  | _ => True

/-- What a write on a cluster is to a controller. -/
def felt (i : ι) (k : κ) (key : Key) (server : ApiServer) : Option Syncing.Act :=
  if l.here i = k then some (.others server)
  else if l.home i = k ∧ key.gvk = (l.reconciler i).gvk then
    some (.source ⟨key.namespace, key.name⟩ (server.get key))
  else none

def overheard (i j : ι) (s : Syncing) : Syncing.Act → Option Syncing.Act
  | .serve q _ => felt l i (l.here j) (mirrorKey (l.reconciler j) q) s.server
  | _ => none

/-- The step as one of the controllers takes part in it. -/
def move (i : ι) (m : Mesh ι κ) : Act ι κ → Option Syncing.Act
  | .write k key version => felt l i k key (written (m.servers k) key version)
  | .liveness k alive => if l.here i = k then some (.liveness alive) else none
  | .own j a =>
    if i = j then some a else overheard l i j ((m.part l j).step x (l.reconciler j) a) a

end Mesh

/-- The mesh in any interleaving, from empty clusters. -/
def mesh {ι κ : Type} [DecidableEq ι] [DecidableEq κ] (x : External)
    (decode : String → String → Option String) (l : Layout ι κ) :
    System (Mesh ι κ) (Mesh.Act ι κ) where
  init m := (∀ k, m.servers k = .empty) ∧ ∀ i, m.remote i = { store := ∅ } ∧ m.seen i = ∅
  ok _ m a := m.Allowed x decode l a
  step m a := m.step x l a

/-! ## An owner and its copies -/

section

variable {x : External} {decode : String → String → Option String} {r : SyncReconciler} {env : Env}

theorem lookup_owner_mutateMeta {current : Obj} {matched : MatchedRules} :
    (mutateMeta r current matched).annotations.lookup ownershipAnnotation =
      some (mutateMeta r current matched).owner := by
  have hkeys : ownershipAnnotation ∉ managedAnnotations := by decide
  have hgvk : ownershipAnnotation ≠ originalGVKAnnotation := by decide
  unfold Obj.owner StringMap.val
  rw [annotations_mutateMeta, if_neg hkeys, if_neg fun h => hgvk h.1]
  unfold ownedValue
  split
  · rfl
  · next hset =>
    cases hvalue : mutatedValue Mutations.getAnnotations matched current.annotations
        ownershipAnnotation with
    | some v => rfl
    | none => exact absurd ⟨rfl, by rw [hvalue]; rfl⟩ hset

end

namespace Mesh

variable {ι κ : Type} {x : External} {decode : String → String → Option String}
  {l : Layout ι κ} {m : Mesh ι κ} {i j : ι} {q : NamespacedName}

section

variable (x : External) (decode : String → String → Option String) (l : Layout ι κ)

/-- What is in the place on the cluster that the controller reads. -/
def source (m : Mesh ι κ) (i : ι) (q : NamespacedName) : Option Obj :=
  (m.servers (l.home i)).get (mirrorKey (l.reconciler i) q)

/-- What is in the place on the cluster that the controller writes to. -/
def copy (m : Mesh ι κ) (i : ι) (q : NamespacedName) : Option Obj :=
  (m.servers (l.here i)).get (mirrorKey (l.reconciler i) q)

/-- The copy that the controller is to make of the object as the other cluster has it. -/
def Wants (m : Mesh ι κ) (i : ι) (q : NamespacedName) (d : Obj) : Prop :=
  ∃ stored matched, m.source l i q = some stored ∧ stored.deletionTimestamp = none ∧
    (l.reconciler i).rule.match x (sourceObj x (l.reconciler i) stored) = (true, matched, none) ∧
    d = mutateMeta (l.reconciler i) (sourceObj x (l.reconciler i) stored) matched

/-- The two clusters agree on the object: a copy that belongs to the other cluster is one
of an object that is there and belongs to it too, and such an object has a copy. -/
structure Agrees (m : Mesh ι κ) (i : ι) (q : NamespacedName) : Prop where
  sourced : ∀ o, m.copy l i q = some o → o.owner = (l.reconciler i).clusterID →
    o.deletionTimestamp = none →
      ∃ stored, m.source l i q = some stored ∧ stored.deletionTimestamp = none
  reflects : ∀ o d, m.copy l i q = some o → o.owner = (l.reconciler i).clusterID →
    syncDisabled o = false → m.Wants x l i q d → d.owner = o.owner ∧ Reflects x decode o d
  copied : ∀ d, m.Wants x l i q d → d.owner = (l.reconciler i).clusterID →
    syncDisabled d = false → ∃ o, m.copy l i q = some o

end

/-- What is wanted names its owner. -/
theorem Wants.owner {d : Obj} (hd : m.Wants x l i q d) :
    d.annotations.lookup ownershipAnnotation = some d.owner := by
  obtain ⟨_, matched, -, -, -, rfl⟩ := hd
  exact lookup_owner_mutateMeta

theorem Wants.owner_eq {d o : Obj} (hd : m.Wants x l i q d) (ho : Reflects x decode o d) :
    d.owner = o.owner := by
  obtain ⟨_, -, hcovers⟩ := ho
  have howner := hcovers.annotations _ _ hd.owner
  exact (congrArg (·.getD "") howner).symm

/-! ## One controller among many -/

section

variable [DecidableEq κ] {k : κ} {key : Key} {server : ApiServer}

theorem part_wrote_here (h : l.here i = k) :
    (m.wrote l k key server).part l i = { m.part l i with server := server } := by
  have hhome : ¬(l.home i = k ∧ key.gvk = (l.reconciler i).gvk) := fun hk =>
    l.apart i (h.trans hk.1.symm)
  unfold part wrote
  simp only [h, Function.update_self, if_neg hhome]

theorem part_wrote_home (hhere : l.here i ≠ k)
    (hhome : l.home i = k ∧ key.gvk = (l.reconciler i).gvk) :
    (m.wrote l k key server).part l i = { m.part l i with
      remote := (m.remote i).edit ⟨key.namespace, key.name⟩ (server.get key) } := by
  unfold part wrote
  simp only [Function.update_of_ne hhere, if_pos hhome]

/-- A write on a cluster is to a controller what it feels of it. -/
theorem takes_wrote {tr : List (Syncing × Syncing.Act)} :
    (convergence x decode (l.reconciler i)).Takes tr (m.part l i) (felt l i k key server)
      ((m.wrote l k key server).part l i) := by
  unfold felt
  split
  · next hhere => exact ⟨trivial, part_wrote_here hhere⟩
  next hhere =>
  split
  · next hhome => exact ⟨trivial, part_wrote_home hhere hhome⟩
  · next hhome =>
    show _ = m.part l i
    unfold part wrote
    simp only [Function.update_of_ne hhere, if_neg hhome]

end

section

variable [DecidableEq ι]

theorem part_put_ne {s : Syncing} (h : i ≠ j) : (m.put j s).part l i = m.part l i := by
  unfold part put
  simp only [Function.update_of_ne h]

theorem part_put_self {s : Syncing} (hserver : s.server = (m.part l i).server)
    (halive : s.alive = (m.part l i).alive) : (m.put i s).part l i = s := by
  unfold part put
  simp only [Function.update_self]
  exact congrArg₂ (fun server alive => (⟨s.remote, server, s.seen, alive⟩ : Syncing))
    hserver.symm halive.symm

end

variable [DecidableEq ι] [DecidableEq κ]

/-- A controller's own step is the step of its part. -/
theorem part_after_self {a : Syncing.Act} (ha : Own a) :
    (m.after l i ((m.part l i).step x (l.reconciler i) a) a).part l i =
      (m.part l i).step x (l.reconciler i) a := by
  cases a with
  | source | others | liveness => exact ha.elim
  | refresh | handle | observe => exact part_put_self rfl rfl
  | serve q env =>
    refine (part_wrote_here rfl).trans ?_
    unfold part put
    simp only [Function.update_self]
    rfl

variable {tr : List (Syncing × Syncing.Act)}

theorem takes_after {s : Syncing} {a : Syncing.Act} (hne : i ≠ j) :
    (convergence x decode (l.reconciler i)).Takes tr (m.part l i) (overheard l i j s a)
      ((m.after l j s a).part l i) := by
  cases a with
  | serve q env =>
    rw [← part_put_ne (m := m) (s := s) hne]
    exact takes_wrote
  | source | others | liveness | refresh | handle | observe => exact part_put_ne hne

theorem takes_step {a : Act ι κ} (hok : m.Allowed x decode l a) :
    (convergence x decode (l.reconciler i)).Takes tr (m.part l i) (m.move x l i a)
      ((m.step x l a).part l i) := by
  cases a with
  | write k key version => exact takes_wrote
  | liveness k alive =>
    by_cases he : l.here i = k
    · have hpart : (m.step x l (.liveness k alive)).part l i =
          { m.part l i with alive := alive } := by
        unfold part step
        simp only [he, Function.update_self]
      rw [move, if_pos he]
      exact ⟨trivial, hpart⟩
    · rw [move, if_neg he]
      show _ = m.part l i
      unfold part step
      simp only [Function.update_of_ne he]
  | own j a =>
    by_cases he : i = j
    · subst he
      rw [move, if_pos rfl]
      exact ⟨hok.2, part_after_self hok.1⟩
    · rw [move, if_neg he]
      exact takes_after he

/-- The run as one controller has it. -/
theorem run_part {tr : List (Mesh ι κ × Act ι κ)} (h : Run (mesh x decode l) tr m) (i : ι) :
    Run (convergence x decode (l.reconciler i)) (projected (part l · i) (move x l i) tr)
      (m.part l i) := by
  refine h.project (fun m hinit => ?_) fun _ _ _ hok => takes_step hok
  obtain ⟨hservers, hparts⟩ := hinit
  obtain ⟨hremote, hseen⟩ := hparts i
  have hwatch : (m.part l i).remote = { store := ∅ } := hremote
  exact ⟨congrArg Watched.cache hwatch, congrArg Watched.notices hwatch,
    congrArg Watched.queue hwatch, hservers _, hseen⟩

/-! ## What the controllers watch is what the clusters store -/

/-- Each watch follows the objects of its kind on the cluster that it reads. -/
def Mirrored (l : Layout ι κ) (m : Mesh ι κ) : Prop :=
  ∀ i q, (m.remote i).store.lookup q = (m.servers (l.home i)).get (mirrorKey (l.reconciler i) q)

omit [DecidableEq ι] in
theorem Mirrored.wrote (h : m.Mirrored l) {k : κ} {key : Key} {server : ApiServer}
    (hframe : ∀ key', key' ≠ key → server.get key' = (m.servers k).get key') :
    (m.wrote l k key server).Mirrored l := by
  intro i q
  unfold Mesh.wrote
  by_cases hhome : l.home i = k
  · subst hhome
    simp only [true_and, Function.update_self]
    by_cases hplace : mirrorKey (l.reconciler i) q = key
    · subst hplace
      have hgvk : (mirrorKey (l.reconciler i) q).gvk = (l.reconciler i).gvk := rfl
      rw [if_pos hgvk]
      exact (Map.lookup_set ..).trans (if_pos rfl)
    · rw [hframe _ hplace, ← h i q]
      split
      · next hgvk =>
        refine (Map.lookup_set ..).trans (if_neg fun hq => hplace ?_)
        subst hq
        unfold mirrorKey
        rw [← hgvk]
      · rfl
  · simp only [hhome, false_and, if_false, Function.update_of_ne hhome]
    exact h i q

omit [DecidableEq κ] in
theorem Mirrored.put (h : m.Mirrored l) {s : Syncing}
    (hstore : s.remote.store = (m.remote i).store) : (m.put i s).Mirrored l := by
  intro j q
  unfold Mesh.put
  by_cases hj : j = i
  · subst hj
    simp only [Function.update_self, hstore]
    exact h j q
  · simp only [Function.update_of_ne hj]
    exact h j q

theorem store_step {s : Syncing} {r : SyncReconciler} {a : Syncing.Act} (ha : Own a) :
    (s.step x r a).remote.store = s.remote.store := by
  cases a with
  | source | others | liveness => exact ha.elim
  | refresh | observe => rfl
  | handle =>
    unfold Syncing.step Watched.handle
    simp only
    split <;> rfl
  | serve q env =>
    unfold Syncing.step
    simp only
    split <;> rfl

theorem get_written_ne {s : ApiServer} {key key' : Key} (h : key' ≠ key) (version : Option Obj) :
    (written s key version).get key' = s.get key' := by
  cases version with
  | some o => exact (ApiServer.get_put ..).trans (if_neg h)
  | none => exact (ApiServer.get_erase ..).trans (if_neg h)

theorem Mirrored.step (h : m.Mirrored l) {a : Act ι κ} (hok : m.Allowed x decode l a) :
    (m.step x l a).Mirrored l := by
  cases a with
  | write k key version => exact h.wrote fun key' hne => get_written_ne hne version
  | liveness k alive => exact h
  | own i a =>
    obtain ⟨hown, hallowed⟩ := hok
    have hput := h.put (store_step (x := x) (r := l.reconciler i) (s := m.part l i) hown)
    cases a with
    | source | others | liveness => exact hown.elim
    | refresh | handle | observe => exact hput
    | serve q env =>
      exact hput.wrote ((l.plain i).served (l.kinded i) hallowed.2.2).1

theorem mirrored_of_run {tr : List (Mesh ι κ × Act ι κ)} (h : Run (mesh x decode l) tr m) :
    m.Mirrored l := by
  refine h.invariant (fun m hinit i q => ?_) fun _ _ _ _ hm hok => hm.step hok
  rw [(hinit.2 i).1, hinit.1]
  rfl

/-! ## Agreement -/

section

variable (x : External) (decode : String → String → Option String) (l : Layout ι κ)

/-- The controller has nothing to do, and its informer has seen what is in the place. -/
structure Rests (m : Mesh ι κ) (i : ι) (q : NamespacedName) : Prop where
  remote : (m.remote i).AtRest
  seen : (m.part l i).Seen (l.reconciler i) q

/-- Something has broken the copy for this controller without its being told. -/
def Missed (i : ι) (q : NamespacedName) (tr : List (Mesh ι κ × Act ι κ)) : Prop :=
  Since (Syncing.Breaks x decode (l.reconciler i) q) (Syncing.Looks x q)
    (projected (part l · i) (move x l i) tr)

end

section

variable {tr : List (Mesh ι κ × Act ι κ)} (h : Run (mesh x decode l) tr m)

include h

/-- At rest the place is as the controller wants it, unless it has missed a change. -/
theorem missed_or_settled (hrest : m.Rests l i q) : Missed x decode l i q tr ∨
    Settled x decode (l.reconciler i) (gates (m.alive (l.here i))) (m.source l i q)
      (m.copy l i q) := by
  by_cases hsettled : Settled x decode (l.reconciler i) (gates (m.alive (l.here i)))
      (m.source l i q) (m.copy l i q)
  · exact .inr hsettled
  refine .inl ((Syncing.wrong_iff (l.plain i) (l.kinded i) (run_part h i) q).mp
    ⟨hrest.remote.not_due q, hrest.seen, ?_⟩)
  have hcache : (m.part l i).remote.cache.lookup q = m.source l i q := by
    rw [show (m.part l i).remote.cache = (m.remote i).store from hrest.remote.cache]
    exact mirrored_of_run h i q
  unfold Syncing.Right
  rw [hcache]
  exact hsettled

/-- At rest the place fits what the controller wants, unless it has missed a change. -/
theorem missed_or_fits (hrest : m.Rests l i q) {d : Obj} (hd : m.Wants x l i q d) :
    Missed x decode l i q tr ∨
      Fits x decode (l.reconciler i) (gates (m.alive (l.here i))) d (m.copy l i q) := by
  obtain ⟨stored, matched, hstored, hlive, hmatch, rfl⟩ := hd
  refine (missed_or_settled h hrest).imp_right fun hsettled => ?_
  rw [hstored] at hsettled
  exact (settled_live hlive).mp hsettled matched hmatch

end

section

open Sample

/-- One rule for two remote clusters. -/
def forTwo : Layout Bool (Option Bool) where
  reconciler i := syncing "L" (if i then "R" else "O")
  here _ := none
  home i := some i
  apart _ := nofun
  plain i := plain_start (by decide) (by cases i <;> decide) "L" false
  kinded i := ⟨by cases i <;> decide, by cases i <;> decide⟩
  foreign i := by cases i <;> decide

theorem allowed_serve_forTwo {i : Bool} {m : Mesh Bool (Option Bool)}
    (hqueue : req ∈ (m.remote i).queue) (halive : m.alive none = fun _ => true)
    (hcache : (m.remote i).cache.lookup req = some stored) :
    m.Allowed .bare (fun _ _ => none) forTwo
      (.own i (.serve req { source := .ok stored, alive := fun _ => true })) := by
  refine ⟨trivial, hqueue, halive.symm, .inl ?_, ?_, nofun, fun _ _ _ => nofun⟩
  · exact congrArg readSource hcache.symm
  · intro o ho
    cases hcache.symm.trans ho
    cases i <;> rfl

end

/-! ## Two controllers in one place -/

/-- A label or an annotation that both have, with different values. -/
def Differ (d d' : Obj) : Prop :=
  ∃ k v v', v ≠ v' ∧ (d.labels.lookup k = some v ∧ d'.labels.lookup k = some v' ∨
    d.annotations.lookup k = some v ∧ d'.annotations.lookup k = some v')

/-- The gates leave the place to one of the two at most; while it is empty, to none. -/
def Apart (env : Env) (r r' : SyncReconciler) (d d' : Obj) : Option Obj → Prop
  | none => shouldCreate env r d = false ∧ shouldCreate env r' d' = false
  | some current => shouldUpdate env r current = false ∨ shouldUpdate env r' current = false

section

variable {d d' : Obj}

theorem Differ.not_both (h : Differ d d') {current : Obj} (hd : Reflects x decode current d)
    (hd' : Reflects x decode current d') : False := by
  obtain ⟨k, v, v', hne, hwant⟩ := h
  obtain ⟨_, -, hcovers⟩ := hd
  obtain ⟨_, -, hcovers'⟩ := hd'
  refine hne (Option.some.inj ?_)
  rcases hwant with ⟨hv, hv'⟩ | ⟨hv, hv'⟩
  · exact (hcovers.labels k v hv).symm.trans (hcovers'.labels k v' hv')
  · exact (hcovers.annotations k v hv).symm.trans (hcovers'.annotations k v' hv')

theorem Differ.apart (h : Differ d d') {env : Env} {r r' : SyncReconciler} {current : Option Obj}
    (hd : Fits x decode r env d current) (hd' : Fits x decode r' env d' current) :
    Apart env r r' d d' current := by
  cases current with
  | none => exact ⟨hd, hd'⟩
  | some current =>
    by_contra hopen
    obtain ⟨hopen, hopen'⟩ := not_or.mp hopen
    exact h.not_both (hd (Bool.not_eq_false _ ▸ hopen)) (hd' (Bool.not_eq_false _ ▸ hopen'))

end

/-- **Two controllers in one place**: when both have come to rest, and they want different
things in the place, the gates leave it to one of them at most, or one of them has
missed a change. -/
theorem rivals_apart {tr : List (Mesh ι κ × Act ι κ)} (h : Run (mesh x decode l) tr m)
    (hhere : l.here i = l.here j) (hgvk : (l.reconciler i).gvk = (l.reconciler j).gvk)
    (hi : m.Rests l i q) (hj : m.Rests l j q) {d d' : Obj} (hd : m.Wants x l i q d)
    (hd' : m.Wants x l j q d') (hdiffer : Differ d d') :
    Missed x decode l i q tr ∨ Missed x decode l j q tr ∨
      Apart (gates (m.alive (l.here i))) (l.reconciler i) (l.reconciler j) d d'
        (m.copy l i q) := by
  rcases missed_or_fits h hi hd with hmissed | hfits
  · exact .inl hmissed
  rcases missed_or_fits h hj hd' with hmissed | hfits'
  · exact .inr (.inl hmissed)
  have hplace : m.copy l j q = m.copy l i q := by
    unfold copy mirrorKey
    rw [hhere, hgvk]
  rw [hplace, ← hhere] at hfits'
  exact .inr (.inr (hdiffer.apart hfits hfits'))

section

open Sample

/-- Both have the object, and the copy that is there belongs to a third one. -/
def ownedElsewhere : List (Mesh Bool (Option Bool) × Act Bool (Option Bool)) ×
    Mesh Bool (Option Bool) :=
  played (mesh .bare (fun _ _ => none) forTwo) [] { alive := fun _ _ => true }
    [.write none key (some (copyOf "T")), .own true (.observe req (some (copyOf "T"))),
      .own false (.observe req (some (copyOf "T"))), .write (some true) key (some stored),
      .write (some false) key (some stored), .own true (.refresh req (some stored)),
      .own true .handle, .own false (.refresh req (some stored)), .own false .handle,
      .own true (.serve req { source := .ok stored, alive := fun _ => true }),
      .own false (.serve req { source := .ok stored, alive := fun _ => true })]

theorem run_ownedElsewhere :
    Run (mesh .bare (fun _ _ => none) forTwo) ownedElsewhere.1 ownedElsewhere.2 := by
  refine .plays (.init ⟨fun _ => rfl, fun _ => ⟨rfl, rfl⟩⟩) ⟨trivial, ⟨trivial, trivial⟩,
    ⟨trivial, trivial⟩, trivial, trivial, ⟨trivial, trivial⟩, ⟨trivial, trivial⟩,
    ⟨trivial, trivial⟩, ⟨trivial, trivial⟩, ?_, ?_, trivial⟩
  · exact allowed_serve_forTwo (by decide +kernel) rfl (by decide +kernel)
  · exact allowed_serve_forTwo (by decide +kernel) rfl (by decide +kernel)

theorem rests_ownedElsewhere (i : Bool) : ownedElsewhere.2.Rests forTwo i req := by
  have hrest : ∀ i, (ownedElsewhere.2.remote i).queue = ∅ ∧
      (ownedElsewhere.2.remote i).notices = [] ∧
      (ownedElsewhere.2.remote i).cache = (ownedElsewhere.2.remote i).store ∧
      (ownedElsewhere.2.seen i).lookup req = (ownedElsewhere.2.servers none).get key := by
    decide +kernel
  obtain ⟨hqueue, hnotices, hcache, hseen⟩ := hrest i
  exact ⟨⟨hqueue, hnotices, hcache⟩, by cases i <;> exact hseen⟩

theorem wants_ownedElsewhere (i : Bool) : ownedElsewhere.2.Wants .bare forTwo i req
    (mutateMeta (forTwo.reconciler i) (sourceObj .bare (forTwo.reconciler i) stored) [{}]) := by
  have hstored : ∀ i, ownedElsewhere.2.source forTwo i req = some stored ∧
      (forTwo.reconciler i).rule.match .bare (sourceObj .bare (forTwo.reconciler i) stored) =
        (true, [{}], none) := by
    decide +kernel
  exact ⟨stored, [{}], (hstored i).1, rfl, (hstored i).2, rfl⟩

theorem rivals_apart_ownedElsewhere :
    Missed .bare (fun _ _ => none) forTwo true req ownedElsewhere.1 ∨
      Missed .bare (fun _ _ => none) forTwo false req ownedElsewhere.1 ∨
      Apart (gates fun _ => true) (forTwo.reconciler true) (forTwo.reconciler false)
        (mutateMeta (forTwo.reconciler true) (sourceObj .bare (forTwo.reconciler true) stored) [{}])
        (mutateMeta (forTwo.reconciler false) (sourceObj .bare (forTwo.reconciler false) stored)
          [{}]) (ownedElsewhere.2.copy forTwo true req) := by
  have hdiffer : Differ
      (mutateMeta (forTwo.reconciler true) (sourceObj .bare (forTwo.reconciler true) stored) [{}])
      (mutateMeta (forTwo.reconciler false) (sourceObj .bare (forTwo.reconciler false) stored)
        [{}]) :=
    .intro ownershipAnnotation ⟨"R", "O", by decide, .inr ⟨by decide +kernel, by decide +kernel⟩⟩
  have hhere : forTwo.here true = forTwo.here false := rfl
  exact rivals_apart run_ownedElsewhere hhere rfl (rests_ownedElsewhere true)
    (rests_ownedElsewhere false) (wants_ownedElsewhere true) (wants_ownedElsewhere false) hdiffer

end

end Mesh

end ClusterRegistry.Sync
