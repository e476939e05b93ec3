import ClusterRegistry.Lib.Level
import ClusterRegistry.Lib.Run
import ClusterRegistry.Members.Comparing

/-!
# Whether all clusters are in sync

The controller of one `RemoteClusterReconciler` as a whole: the watch of the
`Cluster` resources in the remote cluster and the local informer, each with its
predicate, both of which ask for one and the same request; the calls; and others
who write to both clusters, the second writer of the status among them. A call reads
the local resources as they are at that time; the client of the code reads from a
cache, which may be behind.

`condition_stale_iff` says when `ClustersSynced` of the peer does not say what
there is, although the controller has come to rest.
-/

namespace ClusterRegistry.Members

open Lib Lib.Code

/-- An event of one of the two watches; `bumped` says whether the generation differs. -/
inductive News where
  | remote (old new : Option ClusterObject)
  | local (old new : Option ClusterObject) (bumped : Bool)

def News.passes : News → Bool
  | .remote none none => false
  -- reconcile the local peer cluster for any change at the remote side
  | .remote (some old) (some new) =>
    old.status.state ≠ new.status.state || old.status.message ≠ new.status.message
  | .local none none _ => false
  | .local (some _) (some _) bumped => bumped
  | _ => true

structure Peering where
  world : World
  remote : Table ClusterObject.name := Table.empty
  /-- The remote resources as the cache has them, and the local ones as the informer. -/
  cache : Table ClusterObject.name := Table.empty
  seen : Table ClusterObject.name := Table.empty
  news : List News := []
  /-- The one request is queued. -/
  queued : Bool := false

namespace Peering

inductive Act where
  /-- The controller is set up, for the first time or again. -/
  | setup
  /-- Others write to the local cluster, or to the remote one. -/
  | others (world : World)
  | elsewhere (remote : Table ClusterObject.name)
  /-- A watch learns of a version of a resource. -/
  | refresh (m : String) (version : Option ClusterObject)
  | observe (m : String) (version : Option ClusterObject) (bumped : Bool)
  | handle (i : Nat)
  | call (env : RemoteEnv)

section

variable (n : String) (x : Peering)

def step : Act → Peering
  | .setup =>
    { x with
      cache := x.remote
      seen := x.world.clusters
      news := []
      queued := !(x.remote.toList.isEmpty && x.world.clusters.toList.isEmpty) }
  | .others world => { x with world := world }
  | .elsewhere remote => { x with remote := remote }
  | .refresh m version =>
    { x with cache := x.cache.set m version, news := .remote (x.cache.get m) version :: x.news }
  | .observe m version bumped =>
    { x with
      seen := x.seen.set m version
      news := .local (x.seen.get m) version bumped :: x.news }
  | .handle i =>
    { x with news := x.news.eraseIdx i, queued := x.queued || x.news[i]?.any News.passes }
  | .call env =>
    let (r, world) := (RemoteClusterReconciler.reconcile env n).run x.world
    { x with world := world, queued := !r.isOk }

/-- The server counts up the generation when the spec of a resource changes. -/
def Bumps (old new : Option ClusterObject) (bumped : Bool) : Prop :=
  ∀ o ∈ old, ∀ v ∈ new, o.uid = v.uid → o.spec ≠ v.spec → bumped = true

/-- A call is for a queued request, and reads the cache; the ID of the remote cluster is
`id` once it has been read. -/
def Allowed (id : String) : Act → Prop
  | .refresh m version => ∀ c ∈ version, c.name = m
  | .observe m version bumped => (∀ c ∈ version, c.name = m) ∧ Bumps (x.seen.get m) version bumped
  | .call env => x.queued = true ∧ (∀ i, env.clusterID = .ok i → i = id) ∧
      RemoteClusterReconciler.ReadsFrom env x.cache
  | _ => True

end

end Peering

/-- The controller for the peer `n` with the cluster ID `id`; nothing has been seen yet. -/
def peering (id n : String) : System Peering Peering.Act where
  init x := x.cache = Table.empty ∧ x.seen = Table.empty ∧ x.news = [] ∧ x.queued = false
  ok _ x a := x.Allowed id a
  step x a := x.step n a

namespace Peering

section

variable (id n : String) (x : Peering)

def Ahead : Prop := ∃ e ∈ x.news, e.passes = true

/-- A call is on its way. -/
def Due : Prop := x.queued = true ∨ x.Ahead

/-- The informer has seen the specs that are there. -/
def Seen : Prop := ∀ m, (x.seen.get m).map ident = (x.world.clusters.get m).map ident

/-- The condition says what there is, as far as the remote resources are known. -/
def Right : Prop := Tells id n x.world.clusters x.cache

def Wrong : Prop := ¬x.Due ∧ x.Seen ∧ ¬x.Right id n

/-- The condition is wrong after the step, and nothing will come of it: another writer of
the status changes it; the cluster ID of a remote resource changes, but neither its state
nor its message; the informer misses that a resource was made anew; or a call writes
nothing, or is misled. -/
def Breaks : Act → Prop
  | .others world => ¬SameView n x.world.clusters world.clusters ∧ ¬x.Due ∧
      (x.step n (.others world)).Seen ∧ ¬(x.step n (.others world)).Right id n
  | .refresh m version => (∃ old new, x.cache.get m = some old ∧ version = some new ∧
        old.spec.clusterID ≠ new.spec.clusterID ∧ old.status.state = new.status.state ∧
        old.status.message = new.status.message) ∧
      ¬x.Due ∧ x.Seen ∧ ¬(x.step n (.refresh m version)).Right id n
  | .observe m version bumped => (∃ old new, x.seen.get m = some old ∧ version = some new ∧
        old.uid ≠ new.uid ∧ bumped = false) ∧
      ¬x.Due ∧ (x.step n (.observe m version bumped)).Seen ∧ ¬x.Right id n
  | .call env => ((RemoteClusterReconciler.reconcile env n).run x.world).1 = .ok () ∧
      ¬x.Ahead ∧ x.Seen ∧
      (RemoteClusterReconciler.Unwritten env id n x.world ∧ ¬x.Right id n ∨
        ¬RemoteClusterReconciler.Unwritten env id n x.world ∧
          (∃ c, x.world.clusters.get n = some c ∧ c.spec.clusterID = id) ∧
          RemoteClusterReconciler.Misled env x.world.clusters x.cache)
  | _ => False

/-- The step asks for a call or makes one, or changes what the condition is measured by. -/
def Looks : Act → Prop
  | .setup => True
  | .others world => ¬SameView n x.world.clusters world.clusters
  | .refresh m version => (News.remote (x.cache.get m) version).passes = true ∨
      (x.cache.get m).map (·.spec.clusterID) ≠ version.map (·.spec.clusterID)
  | .observe m version bumped => (News.local (x.seen.get m) version bumped).passes = true ∨
      (x.seen.get m).map ident ≠ version.map ident
  | .call _ => True
  | _ => False

end

variable {id n : String} {x : Peering}

theorem passes_remote_eq_false {old new : Option ClusterObject}
    (h : (News.remote old new).passes = false) : old = none ∧ new = none ∨
      ∃ o v, old = some o ∧ new = some v ∧ o.status.state = v.status.state ∧
        o.status.message = v.status.message := by
  cases old with
  | none =>
    cases new with
    | none => exact .inl ⟨rfl, rfl⟩
    | some v => cases h
  | some o =>
    cases new with
    | none => cases h
    | some v =>
      obtain ⟨hstate, hmessage⟩ := Bool.or_eq_false_iff.mp h
      exact .inr ⟨o, v, rfl, rfl, not_not.mp (of_decide_eq_false hstate),
        not_not.mp (of_decide_eq_false hmessage)⟩

theorem passes_local_eq_false {old new : Option ClusterObject} {bumped : Bool}
    (h : (News.local old new bumped).passes = false) : old = none ∧ new = none ∨
      ∃ o v, old = some o ∧ new = some v ∧ bumped = false := by
  cases old with
  | none =>
    cases new with
    | none => exact .inl ⟨rfl, rfl⟩
    | some v => cases h
  | some o =>
    cases new with
    | none => cases h
    | some v => exact .inr ⟨o, v, rfl, rfl, h⟩

/-- News that does not count changes nothing about what is due. -/
theorem due_cons {e : News} {x' : Peering} (hq : x'.queued = x.queued)
    (hn : x'.news = e :: x.news) : x'.Due ↔ e.passes = true ∨ x.Due := by
  unfold Due Ahead
  rw [hq, hn, List.exists_mem_cons_iff]
  exact or_left_comm

theorem due_handle (i : Nat) : (x.step n (.handle i)).Due ↔ x.Due := by
  by_cases hi : i < x.news.length
  · have hperm : (x.news[i] :: x.news.eraseIdx i).Perm x.news := List.getElem_cons_eraseIdx_perm hi
    have hahead : x.Ahead ↔ x.news[i].passes = true ∨ ∃ e ∈ x.news.eraseIdx i, e.passes = true := by
      refine Iff.trans ?_ (List.exists_mem_cons_iff (News.passes · = true) _ _)
      simp only [hperm.mem_iff]
      exact Iff.rfl
    have hqueued : (x.step n (.handle i)).queued = (x.queued || x.news[i].passes) := by
      show (x.queued || x.news[i]?.any News.passes) = _
      rw [List.getElem?_eq_getElem hi]
      rfl
    unfold Due
    rw [hqueued, hahead, Bool.or_eq_true, or_assoc]
    exact Iff.rfl
  · have hnone : x.news[i]? = none := List.getElem?_eq_none (not_lt.mp hi)
    have hnews : x.news.eraseIdx i = x.news := List.eraseIdx_of_length_le (not_lt.mp hi)
    unfold Due Ahead step
    simp only [hnone, hnews, Option.any_none, Bool.or_false]

theorem wrong_others (world : World) : (x.step n (.others world)).Wrong id n ↔
    x.Breaks id n (.others world) ∨ ¬x.Looks n (.others world) ∧ x.Wrong id n := by
  by_cases hview : SameView n x.world.clusters world.clusters
  · have hseen : (x.step n (.others world)).Seen ↔ x.Seen :=
      forall_congr' fun m => by rw [hview.1 m]; exact Iff.rfl
    have hright : (x.step n (.others world)).Right id n ↔ x.Right id n := tells_of_view hview
    simp only [Breaks, Looks, hview, not_true_eq_false, false_and, false_or, not_false_eq_true,
      true_and]
    unfold Wrong
    rw [hseen, hright]
    exact Iff.rfl
  · simp only [Breaks, Looks, hview, not_false_eq_true, true_and, not_true_eq_false, false_and,
      or_false]
    exact Iff.rfl

theorem wrong_refresh {m : String} {version : Option ClusterObject}
    (hok : x.Allowed id (.refresh m version)) : (x.step n (.refresh m version)).Wrong id n ↔
      x.Breaks id n (.refresh m version) ∨
        ¬x.Looks n (.refresh m version) ∧ x.Wrong id n := by
  have hdue : (x.step n (.refresh m version)).Due ↔
      (News.remote (x.cache.get m) version).passes = true ∨ x.Due := due_cons rfl rfl
  have hseen : (x.step n (.refresh m version)).Seen ↔ x.Seen := Iff.rfl
  have hget : ∀ m', (x.cache.set m version).get m' = if m' = m then version else x.cache.get m' :=
    Table.get_set x.cache hok
  cases hp : (News.remote (x.cache.get m) version).passes with
  | true =>
    refine iff_of_false (fun h => h.1 (hdue.mpr (.inl hp))) ?_
    rintro (⟨⟨old, new, hold, rfl, -, hstate, hmessage⟩, -⟩ | ⟨hlooks, -⟩)
    · rw [hold] at hp
      simp [News.passes, hstate, hmessage] at hp
    · exact hlooks (.inl hp)
  | false =>
    rw [hp, or_iff_right Bool.false_ne_true] at hdue
    unfold Wrong
    rw [hdue, hseen]
    by_cases hmoved : (x.cache.get m).map (·.spec.clusterID) = version.map (·.spec.clusterID)
    · have hfacts : ∀ m', (x.cache.get m').map facts =
          ((x.cache.set m version).get m').map facts := by
        intro m'
        rw [hget]
        split
        · next hm =>
          subst hm
          rcases passes_remote_eq_false hp with ⟨hold, rfl⟩ | ⟨o, v, hold, rfl, hstate, -⟩
          · rw [hold]
          · rw [hold] at hmoved ⊢
            exact congrArg some (Prod.ext (Option.some.inj hmoved) hstate)
        · rfl
      have hright : (x.step n (.refresh m version)).Right id n ↔ x.Right id n :=
        tells_of_facts hfacts
      rw [hright]
      constructor
      · exact fun h => .inr ⟨fun hlooks => hlooks.elim (hp ▸ Bool.false_ne_true) (· hmoved), h⟩
      · rintro (⟨⟨old, new, hold, rfl, hne, -⟩, -⟩ | ⟨-, h⟩)
        · rw [hold] at hmoved
          exact absurd (Option.some.inj hmoved) hne
        · exact h
    · have hlooks : x.Looks n (.refresh m version) := .inr hmoved
      constructor
      · rintro h
        rcases passes_remote_eq_false hp with ⟨hold, rfl⟩ | ⟨o, v, hold, rfl, hstate, hmessage⟩
        · exact absurd (by rw [hold]) hmoved
        · refine .inl ⟨⟨o, v, hold, rfl, fun heq => hmoved ?_, hstate, hmessage⟩, h⟩
          rw [hold]
          exact congrArg some heq
      · rintro (⟨-, h⟩ | ⟨hnot, -⟩)
        · exact h
        · exact absurd hlooks hnot

theorem wrong_observe {m : String} {version : Option ClusterObject} {bumped : Bool}
    (hok : x.Allowed id (.observe m version bumped)) :
    (x.step n (.observe m version bumped)).Wrong id n ↔
      x.Breaks id n (.observe m version bumped) ∨
        ¬x.Looks n (.observe m version bumped) ∧ x.Wrong id n := by
  have hdue : (x.step n (.observe m version bumped)).Due ↔
      (News.local (x.seen.get m) version bumped).passes = true ∨ x.Due := due_cons rfl rfl
  have hright : (x.step n (.observe m version bumped)).Right id n ↔ x.Right id n := Iff.rfl
  have hget : ∀ m', (x.seen.set m version).get m' = if m' = m then version else x.seen.get m' :=
    Table.get_set x.seen hok.1
  cases hp : (News.local (x.seen.get m) version bumped).passes with
  | true =>
    refine iff_of_false (fun h => h.1 (hdue.mpr (.inl hp))) ?_
    rintro (⟨⟨old, new, hold, rfl, -, rfl⟩, -⟩ | ⟨hlooks, -⟩)
    · rw [hold] at hp
      cases hp
    · exact hlooks (.inl hp)
  | false =>
    rw [hp, or_iff_right Bool.false_ne_true] at hdue
    unfold Wrong
    rw [hdue, hright]
    by_cases hsame : (x.seen.get m).map ident = version.map ident
    · have hseen : (x.step n (.observe m version bumped)).Seen ↔ x.Seen := by
        refine forall_congr' fun m' => ?_
        show ((x.seen.set m version).get m').map ident = _ ↔ _
        rw [hget]
        split
        · next hm =>
          subst hm
          rw [hsame]
          exact Iff.rfl
        · exact Iff.rfl
      rw [hseen]
      constructor
      · exact fun h => .inr ⟨fun hlooks => hlooks.elim (hp ▸ Bool.false_ne_true) (· hsame), h⟩
      · rintro (⟨⟨old, new, hold, rfl, hne, -⟩, -⟩ | ⟨-, h⟩)
        · rw [hold] at hsame
          exact absurd (congrArg Prod.fst (Option.some.inj hsame)) hne
        · exact h
    · have hlooks : x.Looks n (.observe m version bumped) := .inr hsame
      constructor
      · intro h
        rcases passes_local_eq_false hp with ⟨hold, rfl⟩ | ⟨o, v, hold, rfl, rfl⟩
        · exact absurd (by rw [hold]) hsame
        · refine .inl ⟨⟨o, v, hold, rfl, fun huid => ?_, rfl⟩, h⟩
          refine hsame ?_
          rw [hold]
          refine congrArg some (Prod.ext huid (by_contra fun hspec => ?_))
          cases hok.2 o hold v rfl huid hspec
      · rintro (⟨-, h⟩ | ⟨hnot, -⟩)
        · exact h
        · exact absurd hlooks hnot

theorem isOk_eq_true {r : Except Failure Unit} : r.isOk = true ↔ r = .ok () := by
  cases r with
  | ok u => exact iff_of_true rfl rfl
  | error e => exact iff_of_false Bool.false_ne_true nofun

theorem ident_recorded {w : World} {c : ClusterObject} (hc : w.clusters.get n = some c)
    (entry : StatusWrite) (m : String) :
    (w.clusters.get m).map ident = ((w.recorded entry c).clusters.get m).map ident := by
  have hname : c.name = n := Table.key_of_get hc
  have hget : (w.recorded entry c).clusters.get m = if m = c.name then
      some { c with status := entry.status, resourceVersion := w.rev + 1 } else w.clusters.get m :=
    Table.get_put _ _ _
  rw [hget]
  split
  · next hm =>
    rw [hm, hname, hc]
    rfl
  · rfl

open RemoteClusterReconciler in
/-- A call that writes puts the condition right, unless it is misled. -/
theorem right_of_written {env : RemoteEnv} {w : World} {remotes : Table ClusterObject.name}
    {c : ClusterObject} {entry : StatusWrite} {synced : Bool} (hc : w.clusters.get n = some c)
    (hheld : held entry.status.conditions .clustersSynced = some (statusOf synced))
    (hsynced : synced = true ↔ c.spec.clusterID = id ∧ FindsInSync env w.clusters)
    (hreads : ReadsFrom env remotes) :
    ¬Tells id n (w.recorded entry c).clusters remotes ↔
      c.spec.clusterID = id ∧ Misled env w.clusters remotes := by
  have hname : c.name = n := Table.key_of_get hc
  have hident := ident_recorded hc entry
  have hall : AllInSync (w.recorded entry c).clusters remotes ↔ AllInSync w.clusters remotes :=
    ⟨.of_ident fun m => (hident m).symm, .of_ident hident⟩
  have htells : Tells id n (w.recorded entry c).clusters remotes ↔
      synced = decide (c.spec.clusterID = id ∧ AllInSync w.clusters remotes) := by
    unfold Tells
    rw [← hname, get_recorded]
    simp only [Option.some.injEq, forall_eq', hheld]
    have hstatus : inSyncStatus id (w.recorded entry c).clusters remotes
        { c with status := entry.status, resourceVersion := w.rev + 1 } =
          inSyncStatus id w.clusters remotes c := inSyncStatus_congr rfl hall
    rw [hstatus]
    exact statusOf_inj
  rw [htells, misled_iff hreads, Bool.eq_iff_iff, hsynced, decide_eq_true_iff]
  tauto

/-- A call leaves the specs as they are. -/
theorem seen_call {env : RemoteEnv} (hid : ∀ i, env.clusterID = .ok i → i = id)
    (hdone : ((RemoteClusterReconciler.reconcile env n).run x.world).1 = .ok ()) :
    (x.step n (.call env)).Seen ↔ x.Seen := by
  have hident : ∀ m, (x.world.clusters.get m).map ident =
      (((RemoteClusterReconciler.reconcile env n).run x.world).2.clusters.get m).map ident := by
    intro m
    by_cases hwrite : RemoteClusterReconciler.Unwritten env id n x.world
    · rw [RemoteClusterReconciler.unwritten_of_done hid hdone hwrite]
    · obtain ⟨c, entry, -, hc, hworld, -⟩ :=
        RemoteClusterReconciler.written_of_done hid hdone hwrite
      rw [hworld]
      exact ident_recorded hc entry m
  exact forall_congr' fun m => by rw [hident m]; exact Iff.rfl

theorem wrong_call {env : RemoteEnv} (hok : x.Allowed id (.call env)) :
    (x.step n (.call env)).Wrong id n ↔
      x.Breaks id n (.call env) ∨ ¬x.Looks n (.call env) ∧ x.Wrong id n := by
  obtain ⟨-, hid, hreads⟩ := hok
  have hlooks : ¬(¬x.Looks n (.call env) ∧ x.Wrong id n) := fun h => h.1 trivial
  have hdue : ¬(x.step n (.call env)).Due ↔
      ((RemoteClusterReconciler.reconcile env n).run x.world).1 = .ok () ∧ ¬x.Ahead := by
    rw [← isOk_eq_true]
    unfold Due
    rw [not_or]
    refine and_congr ?_ Iff.rfl
    show ¬(!((RemoteClusterReconciler.reconcile env n).run x.world).1.isOk) = true ↔ _
    simp
  rw [or_iff_left hlooks]
  unfold Wrong Breaks
  rw [hdue, and_assoc]
  refine and_congr_right fun hdone => and_congr_right fun _ => ?_
  rw [seen_call hid hdone]
  refine and_congr_right fun _ => ?_
  by_cases hwrite : RemoteClusterReconciler.Unwritten env id n x.world
  · have hsame := RemoteClusterReconciler.unwritten_of_done hid hdone hwrite
    have hright : (x.step n (.call env)).Right id n ↔ x.Right id n := by
      show Tells id n ((RemoteClusterReconciler.reconcile env n).run x.world).2.clusters _ ↔ _
      rw [hsame]
      exact Iff.rfl
    rw [hright]
    simp only [hwrite, true_and, not_true_eq_false, false_and, or_false]
  · obtain ⟨c, entry, synced, hc, hworld, hheld, hsynced⟩ :=
      RemoteClusterReconciler.written_of_done hid hdone hwrite
    have hright : ¬(x.step n (.call env)).Right id n ↔
        c.spec.clusterID = id ∧ RemoteClusterReconciler.Misled env x.world.clusters x.cache := by
      show ¬Tells id n ((RemoteClusterReconciler.reconcile env n).run x.world).2.clusters _ ↔ _
      rw [hworld]
      exact right_of_written hc hheld hsynced hreads
    rw [hright]
    simp only [hwrite, false_and, false_or, not_false_eq_true, true_and, hc, Option.some.injEq,
      exists_eq_left']

/-- What the controller starts with is asked for, if it is there at all. -/
theorem right_of_setup (h : ¬(x.step n .setup).Due) : (x.step n .setup).Right id n := by
  intro c hc
  have hmem : c ∈ x.world.clusters.toList :=
    Table.mem_toList.mpr (Table.key_of_get hc ▸ hc)
  refine absurd (.inl ?_) h
  show (!(x.remote.toList.isEmpty && x.world.clusters.toList.isEmpty)) = true
  rw [Bool.not_eq_true', Bool.and_eq_false_iff]
  exact .inr (List.isEmpty_eq_false_iff_exists_mem.mpr ⟨c, hmem⟩)

theorem wrong_step (a : Act) (hok : x.Allowed id a) : (x.step n a).Wrong id n ↔
    x.Breaks id n a ∨ ¬x.Looks n a ∧ x.Wrong id n := by
  cases a with
  | setup =>
    refine iff_of_false (fun h => h.2.2 (right_of_setup h.1)) ?_
    rintro (h | ⟨h, -⟩)
    · exact h
    · exact h trivial
  | others world => exact wrong_others world
  | elsewhere remote =>
    simp only [Breaks, Looks, not_false_eq_true, true_and, false_or]
    exact Iff.rfl
  | refresh m version => exact wrong_refresh hok
  | observe m version bumped => exact wrong_observe hok
  | handle i =>
    unfold Wrong
    rw [due_handle]
    simp only [Breaks, Looks, not_false_eq_true, true_and, false_or]
    exact Iff.rfl
  | call env => exact wrong_call hok

/-- The watches have caught up, the local one at least with the specs, and nothing is
left to do. -/
structure AtRest (x : Peering) : Prop where
  queued : x.queued = false
  news : x.news = []
  cache : x.cache = x.remote
  seen : x.Seen

theorem AtRest.not_due (h : x.AtRest) : ¬x.Due := by
  rintro (hq | ⟨e, he, -⟩)
  · cases h.queued.symm.trans hq
  · rw [h.news] at he
    cases he

/-- **When `ClustersSynced` is stale**: whatever others do to the two clusters and whatever
the calls run into, once the controller has come to rest the condition of its peer does
not say whether it has the ID of the remote cluster and all clusters are in sync exactly
if something has broken it that no watch reports, or a call was misled without an error,
and nothing has looked since. -/
theorem condition_stale_iff {tr : List (Peering × Act)} (h : Run (peering id n) tr x)
    (hrest : x.AtRest) :
    ¬Tells id n x.world.clusters x.remote ↔ Since (Breaks id n) (Looks n) tr := by
  have hwrong : x.Wrong id n ↔ Since (Breaks id n) (Looks n) tr := by
    refine h.since_iff (fun x hi hwrong => hwrong.2.2 ?_) fun _ _ a _ hok => wrong_step a hok
    obtain ⟨-, hseen, -, -⟩ := hi
    intro c hc
    have hnone := hwrong.2.1 n
    rw [hseen, hc, Table.get_empty] at hnone
    cases hnone
  rw [← hwrong]
  unfold Wrong Right
  rw [hrest.cache, and_iff_right hrest.not_due, and_iff_right hrest.seen]

/-- The remote cluster has the one resource there is, but could not be asked. -/
def unasked : RemoteEnv where
  clusterID := .ok "far"
  clusterMetadata := .ok ""
  remoteClusters := .error (.new "timeout")

/-- The resource of a peer, ready or not. -/
def peer (state : ClusterState) : ClusterObject :=
  { name := "p", spec := { clusterID := "far" }, status := { state := state } }

def unheard : List (Peering × Act) × Peering :=
  played (peering "far" "p") []
    { world := { kubeSystemUID := "home", clusters := Table.empty.put (peer .unset) }
      remote := Table.empty.put (peer .ready) }
    [.setup, .call unasked]

theorem condition_stale_iff_unheard : unheard.2.AtRest ∧
    Since (Breaks "far" "p") (Looks "p") unheard.1 := by
  have hid : ∀ i, unasked.clusterID = .ok i → i = "far" := fun i hi => (Except.ok.inj hi).symm
  have hrest : unheard.2.AtRest :=
    ⟨by decide +kernel, rfl, rfl, (seen_call hid (by decide +kernel)).mpr fun m => rfl⟩
  have hsynced : AllInSync unheard.2.world.clusters unheard.2.remote := by decide +kernel
  have hheld : (unheard.2.world.clusters.get "p").map (fun c =>
      (c.spec.clusterID, held c.status.conditions .clustersSynced)) =
        some ("far", some .conditionFalse) := by decide +kernel
  refine ⟨hrest, (condition_stale_iff (.plays (.init ⟨rfl, rfl, rfl, rfl⟩) ?_) hrest).mp ?_⟩
  · exact ⟨trivial, ⟨by decide +kernel, hid, nofun⟩, trivial⟩
  · intro htells
    obtain ⟨c, hc, hpair⟩ := Option.map_eq_some_iff.mp hheld
    obtain ⟨hfar, hfalse⟩ := Prod.mk.inj hpair
    have htrue := htells c hc
    unfold inSyncStatus at htrue
    rw [hfalse, decide_eq_true ⟨hfar, hsynced⟩] at htrue
    cases htrue

end Peering

end ClusterRegistry.Members
