import ClusterRegistry.Lib.Run
import ClusterRegistry.Members.Status

/-!
# Conflicts between local clusters

Each call for a local cluster stores in its own resource whether another one
has the local cluster ID. What is stored goes out of date when resources come
and go, so that whoever is affected has to be in the work queue: through the
watch in `cluster_reconciler_watches.go`, through the calls for the resource
that changed, or through the calls that find a conflict.

A resource that loses the local ID wakes nobody, a disabled one does not look
for conflicts, and a call wakes at most the first resource it finds.
-/

namespace ClusterRegistry.Members

open Lib Lib.Code

/-- The requests of `watchLocalClustersForConflict`. -/
def conflictRequests (items : List ClusterObject) : Finset String :=
  ((items.filter fun c => (getClusters items).lookup c.spec.clusterID = some c &&
    c.status.type = .local).map (·.name)).toFinset

/-- The only resource with its ID is found by the watch. -/
theorem mem_conflictRequests {items : List ClusterObject} (hnd : items.Nodup) {c : ClusterObject}
    (hc : c ∈ items) (ht : c.status.type = .local)
    (hu : ∀ c' ∈ items, c'.spec.clusterID = c.spec.clusterID → c' = c) :
    c.name ∈ conflictRequests items := by
  have honly : items.filter (·.spec.clusterID = c.spec.clusterID) = [c] :=
    (filter_eq_singleton hnd).mpr ⟨hc, by simp, fun b hb hp => hu b hb (of_decide_eq_true hp)⟩
  refine List.mem_toFinset.mpr (List.mem_map.mpr ⟨c, List.mem_filter.mpr ⟨hc, ?_⟩, rfl⟩)
  rw [lookup_getClusters, honly]
  simp [ht]

/-! ## Changes of the resources -/

inductive Change where
  | create (obj : ClusterObject) (order : Shuffle ClusterObject)
  | delete (name : String) (order : Shuffle ClusterObject)
  | edit (name clusterID : String)

/-- A resource as it is created: without a status. -/
def ClusterObject.created (c : ClusterObject) (version : Nat) : ClusterObject :=
  { c with uid := version, resourceVersion := version, status := {} }

def ClusterObject.edited (c : ClusterObject) (clusterID : String) (version : Nat) : ClusterObject :=
  { c with spec := { c.spec with clusterID := clusterID }, resourceVersion := version }

namespace Registry

/-- The requests of the watch, for the order in which the resources are listed. -/
def watched (order : Shuffle ClusterObject) (clusters : Table ClusterObject.name) : Finset String :=
  conflictRequests (order.arrange clusters.toList)

/-- The watch sees creations and deletions. -/
def apply (g : Registry) : Change → Registry
  | .create obj order =>
    let clusters := g.clusters.put (obj.created (g.rev + 1))
    { g with
      clusters := clusters, rev := g.rev + 1
      queue := insert obj.name (g.queue ∪ watched order clusters) }
  | .delete name order =>
    let clusters := g.clusters.erase name
    { g with
      clusters := clusters, rev := g.rev + 1
      queue := insert name (g.queue ∪ watched order clusters) }
  | .edit name clusterID =>
    match g.clusters.get name with
    | none => g
    | some c =>
      { g with
        clusters := g.clusters.put (c.edited clusterID (g.rev + 1))
        rev := g.rev + 1
        queue := insert name g.queue }

/-- Another resource has the local cluster ID. -/
def Other (g : Registry) (x : String) : Prop := ∃ y c, y ≠ x ∧ g.LocalAt y c

/-- The deletion of a resource has not been handled yet. -/
def Pending (g : Registry) : Prop := ∃ n ∈ g.queue, g.clusters.get n = none

/-- What is stored is right, or somebody in the queue will see to it. -/
def Settled (g : Registry) (x : String) (c : ClusterObject) : Prop :=
  c.status.type = .local ∧
    (c.verdict = .conditionTrue ∧ (g.Other x ∨ g.Pending) ∨
      c.verdict = .conditionFalse ∧
        ∀ y c', g.LocalAt y c' → y ≠ x → c'.disabled = false ∧ y ∈ g.queue)

/-- Resources have different UIDs, all of them handed out earlier. -/
structure Numbered (g : Registry) : Prop where
  made : ∀ x c, g.clusters.get x = some c → c.uid ≤ g.rev
  distinct : ∀ x y c c', g.clusters.get x = some c → g.clusters.get y = some c' →
    c.uid = c'.uid → x = y

structure Inv (g : Registry) : Prop where
  numbered : g.Numbered
  settled : ∀ x c, g.LocalAt x c → c.disabled = false → x ∉ g.queue → g.Settled x c

/-- No enabled resource with the local ID outside of `queue` is stored as free
of conflict. -/
def NoneFree (g : Registry) (queue : Finset String) : Prop :=
  ∀ x c, g.LocalAt x c → c.disabled = false → x ∉ queue → c.verdict ≠ .conditionFalse

/-- A disabled resource only gets the local ID when nobody is stored as free of
conflict; a resource only loses it when nobody stored as conflicting is left
alone. -/
def Heeds (g : Registry) : Change → Prop
  | .create obj order => obj.spec.clusterID = g.localID → obj.disabled = true →
      g.NoneFree (g.apply (.create obj order)).queue
  | .delete _ _ => True
  | .edit name clusterID => ∀ c, g.clusters.get name = some c →
      (c.disabled = true → clusterID = g.localID → g.NoneFree (insert name g.queue)) ∧
      (c.spec.clusterID = g.localID → ∀ x c', g.LocalAt x c' → x ≠ name → c'.disabled = false →
        x ∉ g.queue → c'.verdict = .conditionTrue →
          (∃ y c'', y ≠ x ∧ y ≠ name ∧ g.LocalAt y c'') ∨ g.Pending)

def Allowed (g : Registry) : Change → Prop
  | .create obj _ => g.clusters.get obj.name = none
  | .delete name _ => g.clusters.get name ≠ none
  | .edit name clusterID => ∃ c, g.clusters.get name = some c ∧ c.spec.clusterID ≠ clusterID

variable {g g' : Registry} {n : String} {o : Option ClusterObject}

/-- The one resource keeps its UID or gets a new one. -/
theorem Numbered.replaces (h : g.Numbered) (hr : Replaces g g' n o)
    (ho : ∀ c', o = some c' → (∃ c, g.clusters.get n = some c ∧ c.uid = c'.uid) ∨
      c'.uid = g.rev + 1 ∧ g.rev + 1 ≤ g'.rev) : g'.Numbered := by
  have hother : ∀ x c c', x ≠ n → g.clusters.get x = some c → o = some c' → c.uid ≠ c'.uid := by
    intro x c c' hx hc hc' hu
    rcases ho c' hc' with ⟨c₀, hc₀, hu₀⟩ | ⟨hu₀, -⟩
    · exact hx (h.distinct x n c c₀ hc hc₀ (hu.trans hu₀.symm))
    · have := h.made x c hc
      omega
  refine ⟨fun x c hc => ?_, fun x y c c' hx hy hu => ?_⟩
  · rw [hr.get] at hc
    split at hc
    · rcases ho c hc with ⟨c₀, hc₀, hu₀⟩ | ⟨hu₀, hrev⟩
      · exact hu₀ ▸ (h.made n c₀ hc₀).trans hr.rev
      · omega
    · exact (h.made x c hc).trans hr.rev
  · rw [hr.get] at hx hy
    split at hx <;> split at hy
    · next e e' => rw [e, e']
    · next e => exact absurd hu.symm (hother y c' c e hy hx)
    · next e _ => exact absurd hu (hother x c c' e hx hy)
    · exact h.distinct x y c c' hx hy hu

/-- Those with the local ID stay enabled and in the queue, if the one resource is. -/
theorem Replaces.queued (hr : Replaces g g' n o) {x : String}
    (hall : ∀ y c, g.LocalAt y c → y ≠ x → c.disabled = false ∧ y ∈ g.queue)
    (hown : ∀ c, o = some c → c.spec.clusterID = g.localID → c.disabled = false ∧ n ∈ g'.queue)
    (hq : ∀ m, m ≠ n → m ∈ g.queue → m ∈ g'.queue) :
    ∀ y c, g'.LocalAt y c → y ≠ x → c.disabled = false ∧ y ∈ g'.queue := by
  intro y c hy hyx
  by_cases e : y = n
  · subst e
    obtain ⟨ho, hid⟩ := hr.localAt_self.mp hy
    exact hown c ho hid
  · obtain ⟨hen, hm⟩ := hall y c ((hr.localAt e).mp hy) hyx
    exact ⟨hen, hq y e hm⟩

/-- The deletion of another resource is still to be handled. -/
theorem Replaces.pending (hr : Replaces g g' n o) (hn : g.clusters.get n ≠ none)
    (hq : ∀ m, m ≠ n → m ∈ g.queue → m ∈ g'.queue) (h : g.Pending) : g'.Pending := by
  obtain ⟨m, hm, hnone⟩ := h
  have hmn : m ≠ n := fun e => hn (e ▸ hnone)
  exact ⟨m, hq m hmn hm, (hr.get m).trans ((if_neg hmn).trans hnone)⟩

theorem replaces_create (obj : ClusterObject) (order : Shuffle ClusterObject) :
    Replaces g (g.apply (.create obj order)) obj.name (some (obj.created (g.rev + 1))) :=
  ⟨Table.get_put _ _, Nat.le_succ _, rfl⟩

theorem replaces_delete (name : String) (order : Shuffle ClusterObject) :
    Replaces g (g.apply (.delete name order)) name none :=
  ⟨Table.get_erase _ _, Nat.le_succ _, rfl⟩

theorem mem_queue_create {obj : ClusterObject} {order : Shuffle ClusterObject} {m : String} :
    m ∈ (g.apply (.create obj order)).queue ↔ m = obj.name ∨ m ∈ g.queue ∨
      m ∈ watched order (g.apply (.create obj order)).clusters := by
  show m ∈ insert _ (_ ∪ _) ↔ _
  rw [Finset.mem_insert, Finset.mem_union]
  rfl

/-- The only resource with the local ID, of the type it has once reconciled,
is found by the watch. -/
theorem mem_watched {order : Shuffle ClusterObject} {x : String} {c : ClusterObject}
    (hc : g.LocalAt x c) (ht : c.status.type = .local) (halone : ¬g.Other x) :
    x ∈ watched order g.clusters := by
  have hx : c.name = x := Table.key_of_get hc.1
  have hmem : ∀ c', c' ∈ order.arrange g.clusters.toList ↔ g.clusters.get c'.name = some c' :=
    fun c' => order.mem.trans Table.mem_toList
  rw [← hx]
  refine mem_conflictRequests ((order.perm _).nodup_iff.mpr (Table.nodup_toList _))
    ((hmem c).mpr (hx ▸ hc.1)) ht fun c' hc' hid => ?_
  by_contra hne
  have hne' : c'.name ≠ x := fun e => by
    have := (hmem c').mp hc'
    rw [e, hc.1] at this
    exact hne (Option.some.inj this).symm
  exact halone ⟨c'.name, c', hne', (hmem c').mp hc', hid.trans hc.2⟩

theorem Inv.create (h : g.Inv) {obj : ClusterObject} {order : Shuffle ClusterObject}
    (ha : g.Allowed (.create obj order)) (hh : g.Heeds (.create obj order)) :
    (g.apply (.create obj order)).Inv := by
  have hr := replaces_create (g := g) obj order
  refine ⟨h.numbered.replaces hr ?_, fun x c hl hen hx => ?_⟩
  · rintro c' hc'
    cases hc'
    exact .inr ⟨rfl, le_refl _⟩
  have hx' := hx
  rw [mem_queue_create, not_or, not_or] at hx'
  obtain ⟨hne, hxq, hxw⟩ := hx'
  have hl₀ := (hr.localAt hne).mp hl
  obtain ⟨ht, hv⟩ := h.settled x c hl₀ hen hxq
  have hother : g.Other x → (g.apply (.create obj order)).Other x := by
    rintro ⟨y, c', hy, hl'⟩
    have hyn : y ≠ obj.name := fun e => by
      have := hl'.1
      rw [e, show g.clusters.get obj.name = none from ha] at this
      cases this
    exact ⟨y, c', hy, (hr.localAt hyn).mpr hl'⟩
  refine ⟨ht, ?_⟩
  rcases hv with ⟨hv, hwhy⟩ | ⟨hv, hall⟩
  · refine .inl ⟨hv, ?_⟩
    by_cases ho : (g.apply (.create obj order)).Other x
    · exact .inl ho
    · rcases hwhy with ho' | ⟨m, hm, hnone⟩
      · exact absurd (hother ho') ho
      · exact absurd (mem_watched hl ht ho) hxw
  · refine .inr ⟨hv, hr.queued hall ?_ fun m _ hm => mem_queue_create.mpr (.inr (.inl hm))⟩
    rintro c' hc' hid
    cases hc'
    refine ⟨Bool.eq_false_iff.mpr fun hd => ?_, mem_queue_create.mpr (.inl rfl)⟩
    exact hh hid hd x c hl₀ hen hx hv

theorem Inv.delete (h : g.Inv) {name : String} {order : Shuffle ClusterObject} :
    (g.apply (.delete name order)).Inv := by
  have hr := replaces_delete (g := g) name order
  have hq : ∀ {m}, m = name ∨ m ∈ g.queue → m ∈ (g.apply (.delete name order)).queue := by
    rintro m (hm | hm)
    · exact Finset.mem_insert.mpr (.inl hm)
    · exact Finset.mem_insert_of_mem (Finset.mem_union_left _ hm)
  refine ⟨h.numbered.replaces hr (fun _ h => nomatch h), fun x c hl hen hx => ?_⟩
  have hne : x ≠ name := fun e => hx (hq (.inl e))
  obtain ⟨ht, hv⟩ := h.settled x c ((hr.localAt hne).mp hl) hen fun hm => hx (hq (.inr hm))
  refine ⟨ht, ?_⟩
  rcases hv with ⟨hv, -⟩ | ⟨hv, hall⟩
  · exact .inl ⟨hv, .inr ⟨name, hq (.inl rfl), (hr.get name).trans (if_pos rfl)⟩⟩
  · exact .inr ⟨hv, hr.queued hall (fun _ h => nomatch h) fun m _ hm => hq (.inr hm)⟩

theorem Inv.edit (h : g.Inv) {name id : String} (ha : g.Allowed (.edit name id))
    (hh : g.Heeds (.edit name id)) : (g.apply (.edit name id)).Inv := by
  obtain ⟨c₀, hc₀, -⟩ := ha
  obtain ⟨hjoin, hleave⟩ := hh c₀ hc₀
  have happly : g.apply (.edit name id) = { g with
      clusters := g.clusters.put (c₀.edited id (g.rev + 1))
      rev := g.rev + 1
      queue := insert name g.queue } := by
    simp only [apply, hc₀]
  have hname : c₀.name = name := Table.key_of_get hc₀
  have hr : Replaces g (g.apply (.edit name id)) name (some (c₀.edited id (g.rev + 1))) := by
    rw [happly, ← hname]
    exact ⟨Table.get_put _ _, Nat.le_succ _, rfl⟩
  have hq : (g.apply (.edit name id)).queue = insert name g.queue := by rw [happly]
  refine ⟨h.numbered.replaces hr ?_, fun x c hl hen hx => ?_⟩
  · rintro c' hc'
    cases hc'
    exact .inl ⟨c₀, hc₀, rfl⟩
  rw [hq] at hx
  have hne : x ≠ name := fun e => hx (Finset.mem_insert.mpr (.inl e))
  have hxq : x ∉ g.queue := fun hm => hx (Finset.mem_insert_of_mem hm)
  have hl₀ := (hr.localAt hne).mp hl
  obtain ⟨ht, hv⟩ := h.settled x c hl₀ hen hxq
  have hgrows : ∀ m, m ≠ name → m ∈ g.queue → m ∈ (g.apply (.edit name id)).queue := by
    intro m _ hm
    rw [hq]
    exact Finset.mem_insert_of_mem hm
  have hpending := hr.pending (hc₀ ▸ nofun) hgrows
  refine ⟨ht, ?_⟩
  rcases hv with ⟨hv, hwhy⟩ | ⟨hv, hall⟩
  · refine .inl ⟨hv, ?_⟩
    rcases hwhy with ⟨y, c', hyx, hy⟩ | hp
    · by_cases e : y = name
      · subst e
        by_cases hid : id = g.localID
        · exact .inl ⟨y, _, hyx, hr.localAt_self.mpr ⟨rfl, hid⟩⟩
        · cases hc₀.symm.trans hy.1
          rcases hleave hy.2 x c hl₀ hne hen hxq hv with ⟨z, c', hzx, hzy, hz⟩ | hp
          · exact .inl ⟨z, c', hzx, (hr.localAt hzy).mpr hz⟩
          · exact .inr (hpending hp)
      · exact .inl ⟨y, c', hyx, (hr.localAt e).mpr hy⟩
    · exact .inr (hpending hp)
  · refine .inr ⟨hv, hr.queued hall ?_ hgrows⟩
    rintro c' hc' hid
    cases hc'
    rw [hq]
    refine ⟨Bool.eq_false_iff.mpr fun hd => ?_, Finset.mem_insert_self _ _⟩
    exact hjoin hd hid x c hl₀ hen hx hv

/-- More requests do no harm. -/
theorem Inv.enqueue (h : g.Inv) {queue : Finset String} (hq : g.queue ⊆ queue) :
    Inv { g with queue := queue } := by
  refine ⟨⟨h.numbered.made, h.numbered.distinct⟩, fun x c hl hen hx => ?_⟩
  obtain ⟨ht, hv⟩ := h.settled x c hl hen fun hm => hx (hq hm)
  refine ⟨ht, ?_⟩
  rcases hv with ⟨hv, hwhy⟩ | ⟨hv, hall⟩
  · exact .inl ⟨hv, hwhy.imp id fun ⟨m, hm, hnone⟩ => ⟨m, hq hm, hnone⟩⟩
  · exact .inr ⟨hv, fun y c' hy hyx => ⟨(hall y c' hy hyx).1, hq (hall y c' hy hyx).2⟩⟩

/-! ## Calls -/

/-- The request has been taken from the queue. -/
def taken (g : Registry) (n : String) : Registry := { g with queue := g.queue.erase n }

/-- Whoever is stored as free of conflict while a call for another resource
with the local ID is made is the one that the call finds. -/
def HeedsCall (g : Registry) (n : String) (env : Env) : Prop :=
  ∀ c, g.LocalAt n c → c.disabled = false → ∀ x c', g.LocalAt x c' → x ≠ n →
    c'.disabled = false → x ∉ g.queue → c'.verdict = .conditionFalse →
      g.conflicting env c = some c'

theorem Inv.absent (h : g.Inv) (hn : g.clusters.get n = none) {env : Env}
    (hg : g' = { g.taken n with
      clusterID := (g.taken n).localID
      queue := (g.taken n).queue ∪ (g.taken n).conflicted env }) : g'.Inv := by
  have hlocal : ∀ {y c'}, g'.LocalAt y c' ↔ g.LocalAt y c' := by
    intro y c'
    have hid : g'.localID = g.localID := by
      rw [hg]
      exact localIDOf_localIDOf _ _
    unfold LocalAt
    rw [hid, hg]
    rfl
  have hq : ∀ {m}, m ∈ g'.queue ↔ m ∈ g.queue.erase n ∨ m ∈ g.conflicted env := by
    rw [hg]
    exact Finset.mem_union
  have hne : ∀ {y c'}, g.LocalAt y c' → y ≠ n := by
    rintro y c' hy rfl
    rw [hy.1] at hn
    cases hn
  refine ⟨?_, fun x c hl hen hx => ?_⟩
  · rw [hg]
    exact ⟨h.numbered.made, h.numbered.distinct⟩
  have hl₀ := hlocal.mp hl
  rw [hq, not_or] at hx
  obtain ⟨ht, hv⟩ := h.settled x c hl₀ hen fun hm =>
    hx.1 (Finset.mem_erase.mpr ⟨hne hl₀, hm⟩)
  refine ⟨ht, ?_⟩
  rcases hv with ⟨hv, -⟩ | ⟨hv, hall⟩
  · exact absurd (mem_conflicted.mpr ⟨c, hl₀.1, hv⟩) hx.2
  · refine .inr ⟨hv, fun y c' hy hyx => ?_⟩
    have hy₀ := hlocal.mp hy
    obtain ⟨hen', hm⟩ := hall y c' hy₀ hyx
    exact ⟨hen', hq.mpr (.inl (Finset.mem_erase.mpr ⟨hne hy₀, hm⟩))⟩

theorem Inv.peer (h : g.Inv) {c₀ c₁ : ClusterObject} (hc₀ : g.clusters.get n = some c₀)
    (hp : c₀.spec.clusterID ≠ g.localID ∨ c₀.disabled = true) (hr : Replaces g g' n (some c₁))
    (hs : c₀.Restated c₁) (hq : g'.queue = g.queue.erase n) : g'.Inv := by
  refine ⟨h.numbered.replaces hr ?_, fun x c hl hen hx => ?_⟩
  · rintro c' hc'
    cases hc'
    exact .inl ⟨c₀, hc₀, hs.uid.symm⟩
  have hself : ∀ {c}, g'.LocalAt n c → c.disabled = true := by
    intro c hc
    obtain ⟨hc', hid⟩ := hr.localAt_self.mp hc
    cases hc'
    rw [hs.disabled]
    exact hp.resolve_left fun hne => hne (hs.spec ▸ hid)
  have hne : x ≠ n := by
    rintro rfl
    exact absurd ((hself hl).symm.trans hen) (by simp)
  have hgrows : ∀ m, m ≠ n → m ∈ g.queue → m ∈ g'.queue := by
    intro m hm hmem
    rw [hq]
    exact Finset.mem_erase.mpr ⟨hm, hmem⟩
  obtain ⟨ht, hv⟩ := h.settled x c ((hr.localAt hne).mp hl) hen fun hm => hx (hgrows x hne hm)
  refine ⟨ht, ?_⟩
  rcases hv with ⟨hv, hwhy⟩ | ⟨hv, hall⟩
  · refine .inl ⟨hv, hwhy.imp ?_ (hr.pending (hc₀ ▸ nofun) hgrows)⟩
    rintro ⟨y, c', hyx, hy⟩
    by_cases e : y = n
    · subst e
      cases hc₀.symm.trans hy.1
      exact ⟨y, c₁, hyx, hr.localAt_self.mpr ⟨rfl, hs.spec ▸ hy.2⟩⟩
    · exact ⟨y, c', hyx, (hr.localAt e).mpr hy⟩
  · refine .inr ⟨hv, hr.queued hall ?_ hgrows⟩
    rintro c' hc' hid
    cases hc'
    have hen₀ := (hall n c₀ ⟨hc₀, hs.spec ▸ hid⟩ (Ne.symm hne)).1
    have hdis := hself (hr.localAt_self.mpr ⟨rfl, hid⟩)
    rw [hs.disabled, hen₀] at hdis
    cases hdis

/-- A call finds a conflict if and only if there is one. -/
theorem conflicting_isSome (h : g.Numbered) {c : ClusterObject} (hc : g.LocalAt n c) (env : Env) :
    (g.conflicting env c).isSome ↔ g.Other n := by
  unfold conflicting firstConflicting
  rw [List.find?_isSome]
  constructor
  · rintro ⟨c', hc', hp⟩
    obtain ⟨huid, hid⟩ : c'.uid ≠ c.uid ∧ c'.spec.clusterID = c.spec.clusterID := by simpa using hp
    have hget := Table.mem_toList.mp ((Shuffle.mem _).mp hc')
    refine ⟨c'.name, c', fun e => ?_, hget, hid.trans hc.2⟩
    rw [e, hc.1] at hget
    cases hget
    exact huid rfl
  · rintro ⟨y, c', hy, hl⟩
    have hname : c'.name = y := Table.key_of_get hl.1
    refine ⟨c', (Shuffle.mem _).mpr (Table.mem_toList.mpr (hname ▸ hl.1)), ?_⟩
    have huid : c'.uid ≠ c.uid := fun e => hy (h.distinct y n c' c hl.1 hc.1 e)
    simp [huid, hl.2, hc.2]

theorem queue_trigger_subset (g : Registry) (found : Option ClusterObject) :
    g.queue ⊆ (g.trigger found).queue := by
  unfold trigger
  split
  · exact subset_rfl
  · split
    · exact Finset.subset_insert _ _
    · exact subset_rfl

theorem mem_queue_trigger {c : ClusterObject} (hc : c.verdict = .conditionFalse) :
    c.name ∈ (g.trigger (some c)).queue := by
  have hc' : (getCurrentCondition c .localConflict).status = .conditionFalse := hc
  simp only [trigger, if_pos hc', Finset.mem_insert_self]

theorem Inv.local (h : g.Inv) {c₀ c₁ : ClusterObject} {env : Env} (hc₀ : g.LocalAt n c₀)
    (hen₀ : c₀.disabled = false) (hr : Replaces g g' n (some c₁)) (hs : c₀.Restated c₁)
    (ht₁ : c₁.status.type = .local)
    (hv₁ : c₁.verdict = if (g.conflicting env c₀).isSome then .conditionTrue else .conditionFalse)
    (hq : g'.queue = ((g.taken n).trigger (g.conflicting env c₀)).queue)
    (hh : g.HeedsCall n env) : g'.Inv := by
  have hself : g'.LocalAt n c₁ := hr.localAt_self.mpr ⟨rfl, hs.spec ▸ hc₀.2⟩
  refine ⟨h.numbered.replaces hr ?_, fun x c hl hen hx => ?_⟩
  · rintro c' hc'
    cases hc'
    exact .inl ⟨c₀, hc₀.1, hs.uid.symm⟩
  by_cases hne : x = n
  · subst hne
    obtain ⟨hc', -⟩ := hr.localAt_self.mp hl
    cases hc'
    refine ⟨ht₁, ?_⟩
    by_cases ho : g.Other x
    · rw [if_pos ((conflicting_isSome h.numbered hc₀ env).mpr ho)] at hv₁
      obtain ⟨y, c', hy, hl'⟩ := ho
      exact .inl ⟨hv₁, .inl ⟨y, c', hy, (hr.localAt hy).mpr hl'⟩⟩
    · rw [if_neg fun hs => ho ((conflicting_isSome h.numbered hc₀ env).mp hs)] at hv₁
      exact .inr ⟨hv₁, fun y c' hy hyx => absurd ⟨y, c', hyx, (hr.localAt hyx).mp hy⟩ ho⟩
  · have hl₀ := (hr.localAt hne).mp hl
    have hxq : x ∉ g.queue := fun hm => hx (hq ▸ queue_trigger_subset _ _
      (Finset.mem_erase.mpr ⟨hne, hm⟩))
    obtain ⟨ht, hv⟩ := h.settled x c hl₀ hen hxq
    refine ⟨ht, ?_⟩
    rcases hv with ⟨hv, -⟩ | ⟨hv, -⟩
    · exact .inl ⟨hv, .inl ⟨n, c₁, Ne.symm hne, hself⟩⟩
    · have hfound := hh c₀ hc₀ hen₀ x c hl₀ hne hen hxq hv
      rw [hq, hfound, ← Table.key_of_get hl.1] at hx
      exact absurd (mem_queue_trigger hv) hx

/-- **One call** keeps the invariant. -/
theorem Inv.effect (h : g.Inv) {env : Env} (hh : g.HeedsCall n env)
    (he : Effect env (g.taken n) g' n) : g'.Inv := by
  have hback : ∀ {o}, Replaces (g.taken n) g' n o → Replaces g g' n o :=
    fun hr => ⟨hr.get, hr.rev, hr.localID⟩
  cases he with
  | absent hn hg => exact h.absent hn hg
  | enabledLocal hc hen hr hs ht hv hq => exact h.local hc hen (hback hr) hs ht hv hq hh
  | peer hc hp hr hs _ hq => exact h.peer hc hp (hback hr) hs hq

end Registry

/-! ## Runs -/

namespace World

def take (n : String) (w : World) : World := { w with queue := w.queue.erase n }

/-- A call for a request of the queue, run alone; a request that fails is put
back. -/
def handle (env : Env) (n : String) (w : World) : World :=
  match (reconcile env n).run (w.take n) with
  | (.ok _, w') => w'
  | (.error _, w') => { w' with queue := insert n w'.queue }

/-- A change made by a user. -/
def change (w : World) (c : Change) : World :=
  let g := (w.registry ()).apply c
  { w with clusters := g.clusters, rev := g.rev, queue := g.queue }

end World

theorem registry_change (w : World) (c : Change) :
    (w.change c).registry () = (w.registry ()).apply c := by
  cases c with
  | create obj order => rfl
  | delete name order => rfl
  | edit name id =>
    unfold World.change Registry.apply
    dsimp only
    split <;> rfl

section

variable {w : World} {n : String} {env : Env}

theorem Registry.Inv.handle (h : (w.registry ()).Inv) (henv : env.Steady)
    (hh : (w.registry ()).HeedsCall n env) : ((w.handle env n).registry ()).Inv := by
  have hrun := h.effect hh (effect_reconcile henv n (w.take n))
  unfold World.handle
  split
  · next he => rwa [he] at hrun
  · next he =>
    rw [he] at hrun
    exact hrun.enqueue (Finset.subset_insert _ _)

end

inductive Event where
  | change (c : Change)
  | reconcile (name : String) (env : Env)

namespace World

/-- No resource yet, and nothing to do. -/
def Fresh (w : World) : Prop := w.clusters = Table.empty ∧ w.queue = ∅

def next (w : World) : Event → World
  | .change c => w.change c
  | .reconcile n env => w.handle env n

def Enabled (w : World) : Event → Prop
  | .change c => (w.registry ()).Allowed c
  | .reconcile n env => n ∈ w.queue ∧ env.Steady

/-- The condition on a step under which whoever it affects is woken. -/
def Heeds (w : World) : Event → Prop
  | .change c => (w.registry ()).Heeds c
  | .reconcile n env => (w.registry ()).HeedsCall n env

end World

/-- Changes of the resources and calls for the requests in the queue, in any
order. -/
def conflicts : System World Event where
  init := World.Fresh
  ok := fun _ w e => w.Enabled e
  step := World.next

theorem inv_of_fresh {w : World} (h : w.Fresh) : (w.registry ()).Inv := by
  have hnone : ∀ x, w.clusters.get x = none := fun x => by rw [h.1]; rfl
  refine ⟨⟨fun x c hc => ?_, fun x y c c' hc => ?_⟩, fun x c hl => ?_⟩
  · exact absurd ((hnone x).symm.trans hc) nofun
  · exact absurd ((hnone x).symm.trans hc) nofun
  · exact absurd hl (Registry.not_localAt_of_empty h.1)

theorem inv_next {w : World} (h : (w.registry ()).Inv) {e : Event} (he : w.Enabled e)
    (hh : w.Heeds e) : ((w.next e).registry ()).Inv := by
  cases e with
  | change c =>
    show ((w.change c).registry ()).Inv
    rw [registry_change]
    cases c with
    | create obj order => exact h.create he hh
    | delete name order => exact h.delete
    | edit name id => exact h.edit he hh
  | reconcile n env => exact h.handle he.2 hh

/-- What is stored about conflicts is right. -/
def Registry.Right (g : Registry) : Prop :=
  ∀ x c, g.LocalAt x c → c.disabled = false →
    (g.Other x → c.verdict = .conditionTrue) ∧ (¬g.Other x → c.verdict = .conditionFalse)

theorem Registry.Inv.right {g : Registry} (h : g.Inv) (hq : g.queue = ∅) : g.Right := by
  intro x c hl hen
  have hempty : ∀ n, n ∉ g.queue := by simp [hq]
  obtain ⟨-, hv⟩ := h.settled x c hl hen (hempty x)
  rcases hv with ⟨hv, ho | ⟨m, hm, -⟩⟩ | ⟨hv, hall⟩
  · exact ⟨fun _ => hv, fun hno => absurd ho hno⟩
  · exact absurd hm (hempty m)
  · exact ⟨fun ⟨y, c', hy, hl'⟩ => absurd (hall y c' hl' hy).2 (hempty y), fun _ => hv⟩

/-- **Conflicts at rest**: in a run whose steps all heed those they affect,
what is stored about conflicts is right in every state with an empty queue. -/
theorem conflicts_right_at_rest {tr : List (World × Event)} {w : World}
    (h : Run conflicts tr w) (hh : ∀ p ∈ tr, p.1.Heeds p.2) :
    ∀ v ∈ states tr w, v.queue = ∅ → (v.registry ()).Right := by
  have hinv := h.always (G := fun v => (v.registry ()).Inv) (C := World.Heeds)
    (fun _ hi => inv_of_fresh hi) (fun _ _ _ _ hg hok hc => inv_next hg hok hc) hh
  exact fun v hv hq => (hinv v hv).right hq

/-! ## The conditions can be evaluated -/

namespace Registry

variable (g : Registry)

theorem localAt_iff {x : String} {c : ClusterObject} : g.LocalAt x c ↔
    c ∈ g.clusters.toList ∧ c.name = x ∧ c.spec.clusterID = g.localID := by
  rw [Table.mem_toList]
  constructor
  · rintro ⟨hc, hid⟩
    have hx : c.name = x := Table.key_of_get hc
    exact ⟨hx ▸ hc, hx, hid⟩
  · rintro ⟨hc, rfl, hid⟩
    exact ⟨hc, hid⟩

theorem forall_localAt {P : String → ClusterObject → Prop} : (∀ x c, g.LocalAt x c → P x c) ↔
    ∀ c ∈ g.clusters.toList, c.spec.clusterID = g.localID → P c.name c := by
  simp only [localAt_iff]
  exact ⟨fun h c hc hid => h c.name c ⟨hc, rfl, hid⟩, fun h x c ⟨hc, hx, hid⟩ => hx ▸ h c hc hid⟩

theorem exists_localAt {P : String → ClusterObject → Prop} : (∃ x c, P x c ∧ g.LocalAt x c) ↔
    ∃ c ∈ g.clusters.toList, P c.name c ∧ c.spec.clusterID = g.localID := by
  simp only [localAt_iff]
  constructor
  · rintro ⟨x, c, hp, hc, rfl, hid⟩
    exact ⟨c, hc, hp, hid⟩
  · rintro ⟨c, hc, hp, hid⟩
    exact ⟨c.name, c, hp, hc, rfl, hid⟩

instance (x : String) : Decidable (g.Other x) :=
  decidable_of_iff _ (g.exists_localAt (P := fun y _ => y ≠ x)).symm

instance : Decidable g.Pending := inferInstanceAs (Decidable (∃ n ∈ g.queue, _))

instance (queue : Finset String) : Decidable (g.NoneFree queue) :=
  decidable_of_iff _ (g.forall_localAt (P := fun x c =>
    c.disabled = false → x ∉ queue → c.verdict ≠ .conditionFalse)).symm

instance (x name : String) : Decidable (∃ y c, y ≠ x ∧ y ≠ name ∧ g.LocalAt y c) :=
  decidable_of_iff _ ((g.exists_localAt (P := fun y _ => y ≠ x ∧ y ≠ name)).symm.trans
    (by simp only [and_assoc]))

instance (c : Change) : Decidable (g.Heeds c) :=
  match c with
  | .create obj order => inferInstanceAs (Decidable (_ = _ → _ = true → g.NoneFree _))
  | .delete _ _ => .isTrue trivial
  | .edit name clusterID =>
    decidable_of_iff (∀ c ∈ g.clusters.get name,
        (c.disabled = true → clusterID = g.localID → g.NoneFree (insert name g.queue)) ∧
        (c.spec.clusterID = g.localID → ∀ c' ∈ g.clusters.toList, c'.spec.clusterID = g.localID →
          c'.name ≠ name → c'.disabled = false → c'.name ∉ g.queue → c'.verdict = .conditionTrue →
            (∃ y c'', y ≠ c'.name ∧ y ≠ name ∧ g.LocalAt y c'') ∨ g.Pending)) <| by
      simp only [Heeds, g.forall_localAt, Option.mem_def]

instance (name clusterID : String) : Decidable (g.Allowed (.edit name clusterID)) :=
  inferInstanceAs (Decidable (∃ c ∈ g.clusters.get name, _))

instance (n : String) (env : Env) : Decidable (g.HeedsCall n env) :=
  decidable_of_iff (∀ c ∈ g.clusters.toList, c.name = n → c.spec.clusterID = g.localID →
      c.disabled = false → ∀ c' ∈ g.clusters.toList, c'.spec.clusterID = g.localID →
        c'.name ≠ n → c'.disabled = false → c'.name ∉ g.queue → c'.verdict = .conditionFalse →
          g.conflicting env c = some c') <| by
    simp only [HeedsCall, g.forall_localAt]
    simp only [localAt_iff]
    exact ⟨fun h c ⟨hc, hn, hid⟩ => h c hc hn hid, fun h c hc hn hid => h c ⟨hc, hn, hid⟩⟩

instance : Decidable g.Right :=
  decidable_of_iff _ (g.forall_localAt (P := fun x c => c.disabled = false →
    (g.Other x → c.verdict = .conditionTrue) ∧ (¬g.Other x → c.verdict = .conditionFalse))).symm

end Registry

instance (w : World) (e : Event) : Decidable (w.Heeds e) :=
  match e with
  | .change c => inferInstanceAs (Decidable ((w.registry ()).Heeds c))
  | .reconcile n env => inferInstanceAs (Decidable ((w.registry ()).HeedsCall n env))

theorem steady_smooth : Env.smooth.Steady := ⟨rfl, rfl, rfl, rfl, rfl, rfl⟩

/-- A second local cluster joins the first; the call for it wakes the first. -/
def crowded : List (World × Event) × World :=
  played conflicts [] { kubeSystemUID := "home" }
    [.change (.create (localCluster "x") (.refl _)), .reconcile "x" .smooth,
      .change (.create (localCluster "y") (.refl _)), .reconcile "y" .smooth,
      .reconcile "x" .smooth]

theorem run_crowded : Run conflicts crowded.1 crowded.2 := by
  refine Run.plays (.init ⟨rfl, rfl⟩) ⟨rfl, ⟨?_, steady_smooth⟩, rfl, ⟨?_, steady_smooth⟩,
    ⟨?_, steady_smooth⟩, trivial⟩
  all_goals decide +kernel

theorem conflicts_right_at_rest_crowded :
    crowded.2.queue = ∅ ∧ (crowded.2.registry ()).Right := by
  have hrest : crowded.2.queue = ∅ := by decide +kernel
  have hheeds : ∀ p ∈ crowded.1, p.1.Heeds p.2 := by decide +kernel
  exact ⟨hrest, conflicts_right_at_rest run_crowded hheeds _ (mem_states.mpr (.inl rfl)) hrest⟩

/-- The second one gets another ID: nobody wakes the first. -/
def parted : List (World × Event) × World :=
  played conflicts crowded.1 crowded.2 [.change (.edit "y" "away"), .reconcile "y" .smooth]

/-- The only resource with the local ID is stored as conflicting, with nothing
left in the queue. -/
theorem not_right_at_rest_parted :
    Run conflicts parted.1 parted.2 ∧ parted.2.queue = ∅ ∧ ¬(parted.2.registry ()).Right := by
  refine ⟨run_crowded.plays ⟨?_, ⟨?_, steady_smooth⟩, trivial⟩, ?_, ?_⟩
  · show Registry.Allowed _ (.edit _ _)
    decide +kernel
  · decide +kernel
  · decide +kernel
  · decide +kernel

end ClusterRegistry.Members
