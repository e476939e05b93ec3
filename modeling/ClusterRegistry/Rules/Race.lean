import ClusterRegistry.Lib.Threads
import ClusterRegistry.Rules.Registry

/-!
# Rule updates against feature events

The operations of a cluster release its mutex between their sections. Here
they are programs of atomic sections, with every mutex-protected section and
every feature check as one step; run alone they are the operations of the
sequential model. `race` is any interleaving of one `syncClusterController`
with any number of `AddFeature` and `RemoveFeature` calls.

A feature loop may meet any entry that is in its map at that moment, in any
order and more than once, and may end at any time; Go's `range` does no more.
-/

namespace ClusterRegistry.Rules

open Lib Clusters Sync

abbrev CProg : Type := Prog (Cluster Reconciler)

/-! ## The operations, section by section -/

namespace Section

variable (x : External) (newRateLimiter : Except Err Unit)

def setController (controller : ManagedController Reconciler) (c : Cluster Reconciler) :
    Cluster Reconciler :=
  { c with controllers := c.controllers.insert controller.name controller }

def deleteController (name : String) (c : Cluster Reconciler) : Cluster Reconciler :=
  { c with controllers := c.controllers.erase name }

/-- The unexported `addController`. -/
def addReadyController (controller : ManagedController Reconciler) : CProg :=
  .read fun c =>
    match c.getController controller.name with
    | some _ => .ret
    | none =>
      .write (·.removePendingControllerByName controller.name)
        (.write (setController controller) .ret)

def addController (controller : ManagedController Reconciler) : CProg :=
  .read fun c =>
    if c.checkRequiredClusterFeatures x controller then addReadyController controller
    else .write (·.addPendingController controller) .ret

/-- `RemoveControllerByName`, and what its caller does next. -/
def removeControllerByName (name : String) (rest : CProg) : CProg :=
  .write (·.removePendingControllerByName name) (.read fun c =>
    match c.getController name with
    | none => rest
    | some _ => .write (deleteController name) rest)

/-- The body of the loop in `RemoveFeature`. -/
def recheckController (controller : ManagedController Reconciler) : CProg :=
  .read fun c =>
    if c.checkRequiredClusterFeatures x controller then .ret
    else removeControllerByName controller.name (.write (·.addPendingController controller) .ret)

def initNewResourceSyncController (sr : ResourceSyncRule) : CProg :=
  match newRateLimiter with
  | .error _ => .ret
  | .ok _ => .read fun c => addController x (newController sr c.clusterID)

/-- `syncClusterController`: a controller that vanishes between `HasController`
and `GetController` is a nil dereference, and so is a wait without a context. -/
def syncClusterController (context : Bool) (sr : ResourceSyncRule) : CProg :=
  .read fun c =>
    if !c.hasController sr.name then initNewResourceSyncController x newRateLimiter sr
    else .read fun c =>
      match c.getController sr.name with
      | none => .panic
      | some ctrl =>
        if ctrl.reconciler.spec.getD emptySpec ≠ sr.spec then
          removeControllerByName ctrl.name
            (if context then initNewResourceSyncController x newRateLimiter sr else .panic)
        else .ret

/-! ### Run alone -/

variable {x newRateLimiter}

theorem run_addController (c : Cluster Reconciler) (ctrl : ManagedController Reconciler) :
    (addController x ctrl).run c = some (c.addController x ctrl) := by
  unfold addController Cluster.addController addReadyController Cluster.addReadyController
  simp only [Prog.run_read]
  split
  · simp only [Prog.run_read]
    split
    · next h => simp only [h]; rfl
    · next h => simp only [h]; rfl
  · rfl

theorem run_removeControllerByName (c : Cluster Reconciler) (name : String) (rest : CProg) :
    (removeControllerByName name rest).run c = rest.run (c.removeControllerByName name) := by
  unfold removeControllerByName Cluster.removeControllerByName
  simp only [Prog.run_read, Prog.run_write]
  split
  · next h => simp only [h]
  · next h => simp only [h]; rfl

theorem run_initNew (c : Cluster Reconciler) (sr : ResourceSyncRule) :
    (initNewResourceSyncController x newRateLimiter sr).run c =
      some ((Rules.initNewResourceSyncController x newRateLimiter sr).final c) := by
  cases newRateLimiter with
  | error e => rfl
  | ok u => exact run_addController c _

/-- **The sections are those of the sequential model.** -/
theorem run_syncClusterController (c : Cluster Reconciler) (context : Bool)
    (sr : ResourceSyncRule) : (syncClusterController x newRateLimiter context sr).run c =
      if (syncLogged x newRateLimiter context sr c).2 then
        some (syncLogged x newRateLimiter context sr c).1
      else none := by
  cases ha : c.controllers.lookup sr.name with
  | none =>
    rw [sync_absent ha, if_pos rfl, ← run_initNew]
    simp [syncClusterController, Cluster.hasController, ha]
  | some ctrl =>
    rw [sync_active ha]
    simp only [syncClusterController, Prog.run_read, Cluster.hasController, Cluster.getController,
      ha, Option.isSome_some, Bool.not_true, Bool.false_eq_true, if_false]
    split
    · rw [run_removeControllerByName]
      cases context with
      | false => rfl
      | true => exact run_initNew _ sr
    · rfl

/-! ### With others in between -/

abbrev Slot : Type :=
  Option (ManagedController Reconciler) × Option (ManagedController Reconciler)

/-- The controller is in exactly one of the maps, and nothing else is. -/
def Single (ctrl : ManagedController Reconciler) (s : Slot) : Prop :=
  s = (some ctrl, none) ∨ s = (none, some ctrl)

theorem slot_removePending (c : Cluster Reconciler) (name n : String) :
    (c.removePendingControllerByName name).slot n =
      if n = name then ((c.slot n).1, none) else c.slot n := by
  simp only [Cluster.slot, Cluster.removePendingControllerByName, Map.lookup_erase_if]
  split <;> rfl

theorem slot_addPending (c : Cluster Reconciler) (ctrl : ManagedController Reconciler)
    (n : String) : (c.addPendingController ctrl).slot n =
      if n = ctrl.name then ((c.slot n).1, some ctrl) else c.slot n := by
  simp only [Cluster.slot, Cluster.addPendingController, Map.lookup_insert_if]
  split <;> rfl

theorem slot_setController (c : Cluster Reconciler) (ctrl : ManagedController Reconciler)
    (n : String) : (setController ctrl c).slot n =
      if n = ctrl.name then (some ctrl, (c.slot n).2) else c.slot n := by
  simp only [Cluster.slot, setController, Map.lookup_insert_if]
  split <;> rfl

theorem slot_deleteController (c : Cluster Reconciler) (name n : String) :
    (deleteController name c).slot n = if n = name then (none, (c.slot n).2) else c.slot n := by
  simp only [Cluster.slot, deleteController, Map.lookup_erase_if]
  split <;> rfl

section within

variable {n : String} {c : Cluster Reconciler} {ctrl : ManagedController Reconciler}
  {Q : Slot → Prop}

/-- The features may change between the check and the insertion: the
controller still ends up in one map. -/
theorem within_addController (hn : ctrl.name = n) (h : (c.slot n).1 = none) :
    (addController x ctrl).Within (·.slot n) (Single ctrl) c := by
  refine Prog.within_read fun t ht => ?_
  rw [← ht] at h
  split
  · refine Prog.within_read fun u hu => ?_
    rw [← hu] at h
    have hnone : u.getController ctrl.name = none := by rw [hn]; exact h
    rw [hnone]
    refine Prog.within_write fun w hw => Prog.within_write fun z hz => Prog.within_ret (.inl ?_)
    rw [slot_setController, if_pos hn.symm, hz, slot_removePending, if_pos hn.symm]
  · refine Prog.within_write fun u hu => Prog.within_ret (.inr ?_)
    rw [slot_addPending, if_pos hn.symm, hu, h]

theorem within_removeControllerByName {rest : CProg}
    (h : ∀ t : Cluster Reconciler, t.slot n = (none, none) → rest.Within (·.slot n) Q t) :
    (removeControllerByName n rest).Within (·.slot n) Q c := by
  refine Prog.within_write fun t ht => Prog.within_read fun u hu => ?_
  have hp : (u.slot n).2 = none := by
    rw [hu, slot_removePending, if_pos rfl]
  split
  · next hg => exact h u (Prod.ext hg hp)
  · refine Prog.within_write fun w hw => h _ ?_
    rw [slot_deleteController, if_pos rfl, hw, hp]

theorem within_recheckController (hn : ctrl.name = n) (h : c.slot n = (some ctrl, none)) :
    (recheckController x ctrl).Within (·.slot n) (Single ctrl) c := by
  refine Prog.within_read fun t ht => ?_
  split
  · exact Prog.within_ret (.inl (ht.trans h))
  · rw [hn]
    refine within_removeControllerByName fun u hu => ?_
    refine Prog.within_write fun w hw => Prog.within_ret (.inr ?_)
    rw [slot_addPending, if_pos hn.symm, hw, hu]

/-- Before the update: no controller, or one with some spec. -/
def Before (n : String) (s : Slot) : Prop :=
  s = (none, none) ∨ ∃ old r, old.name = n ∧ old.reconciler = .sync r ∧ Single old s

/-- After the update: one controller, with the new spec. -/
def After (sr : ResourceSyncRule) (s : Slot) : Prop :=
  ∃ ctrl r, ctrl.name = sr.name ∧ ctrl.reconciler = .sync r ∧ r.rule.spec = sr.spec ∧ Single ctrl s

variable {sr : ResourceSyncRule}

theorem within_initNew (h : (c.slot sr.name).1 = none) :
    (initNewResourceSyncController x (.ok ()) sr).Within (·.slot sr.name) (After sr) c := by
  refine Prog.within_read fun t ht => ?_
  refine Prog.Within.mono (within_addController rfl (ht ▸ h)) fun s hs => ?_
  exact ⟨_, _, rfl, rfl, rfl, hs⟩

/-- As long as nobody else works on the rule, `syncClusterController` puts the
new spec in place, if it returns. -/
theorem within_syncClusterController (context : Bool) (h : Before sr.name (c.slot sr.name)) :
    (syncClusterController x (.ok ()) context sr).Within (·.slot sr.name) (After sr) c := by
  refine Prog.within_read fun t ht => ?_
  have ht1 : t.controllers.lookup sr.name = (c.slot sr.name).1 := congrArg Prod.fst ht
  cases ha : (c.slot sr.name).1 with
  | none =>
    rw [Cluster.hasController, ht1, ha, if_pos (by simp)]
    exact within_initNew (ht1.trans ha)
  | some ctrl =>
    rw [Cluster.hasController, ht1, ha, if_neg (by simp)]
    refine Prog.within_read fun u hu => ?_
    have hu1 : u.getController sr.name = some ctrl :=
      (congrArg Prod.fst (hu.trans ht)).trans ha
    obtain ⟨r, hname, hrec, hslot⟩ : ∃ r, ctrl.name = sr.name ∧ ctrl.reconciler = .sync r ∧
        c.slot sr.name = (some ctrl, none) := by
      rcases h with e | ⟨old, r, hname, hrec, e | e⟩ <;> rw [e] at ha <;> cases ha
      exact ⟨r, hname, hrec, e⟩
    rw [hu1]
    simp only [hrec, Reconciler.spec, Option.getD_some]
    split
    · rw [hname]
      refine within_removeControllerByName fun w hw => ?_
      cases context with
      | false => trivial
      | true => exact within_initNew (congrArg Prod.fst hw)
    · next e =>
      exact Prog.within_ret ⟨ctrl, r, hname, hrec, not_not.mp e, .inl ((hu.trans ht).trans hslot)⟩

end within

/-! ### What a section leaves alone -/

/-- Every controller is under its own name. -/
def Keyed (c : Cluster Reconciler) : Prop :=
  ∀ n ctrl, (c.slot n).1 = some ctrl ∨ (c.slot n).2 = some ctrl → ctrl.name = n

/-- A section that works on one name. -/
def Touches (name : String) (c c' : Cluster Reconciler) : Prop :=
  (∀ n, n ≠ name → c'.slot n = c.slot n) ∧ Keyed c'

section touches

variable {name : String} {c c' : Cluster Reconciler}

theorem touches_refl (hk : Keyed c) : Touches name c c := ⟨fun _ _ => rfl, hk⟩

/-- Each side of the slot is what it was, or a controller of that name. -/
theorem touches_of (hk : Keyed c) (h : ∀ n, n ≠ name → c'.slot n = c.slot n)
    (h1 : ∀ d, (c'.slot name).1 = some d → d.name = name ∨ (c.slot name).1 = some d)
    (h2 : ∀ d, (c'.slot name).2 = some d → d.name = name ∨ (c.slot name).2 = some d) :
    Touches name c c' := by
  refine ⟨h, fun n d hd => ?_⟩
  by_cases e : n = name
  · subst e
    rcases hd with hd | hd
    · exact (h1 d hd).elim id fun h => hk n d (.inl h)
    · exact (h2 d hd).elim id fun h => hk n d (.inr h)
  · rw [h n e] at hd; exact hk n d hd

theorem touches_removePending (hk : Keyed c) :
    Touches name c (c.removePendingControllerByName name) := by
  refine touches_of hk (fun n e => by rw [slot_removePending, if_neg e]) (fun d hd => ?_)
    fun d hd => ?_ <;> rw [slot_removePending, if_pos rfl] at hd
  · exact .inr hd
  · cases hd

theorem touches_deleteController (hk : Keyed c) : Touches name c (deleteController name c) := by
  refine touches_of hk (fun n e => by rw [slot_deleteController, if_neg e]) (fun d hd => ?_)
    fun d hd => ?_ <;> rw [slot_deleteController, if_pos rfl] at hd
  · cases hd
  · exact .inr hd

variable (ctrl : ManagedController Reconciler)

theorem touches_addPending (hk : Keyed c) :
    Touches ctrl.name c (c.addPendingController ctrl) := by
  refine touches_of hk (fun n e => by rw [slot_addPending, if_neg e]) (fun d hd => ?_)
    fun d hd => ?_ <;> rw [slot_addPending, if_pos rfl] at hd
  · exact .inr hd
  · cases hd; exact .inl rfl

theorem touches_setController (hk : Keyed c) : Touches ctrl.name c (setController ctrl c) := by
  refine touches_of hk (fun n e => by rw [slot_setController, if_neg e]) (fun d hd => ?_)
    fun d hd => ?_ <;> rw [slot_setController, if_pos rfl] at hd
  · cases hd; exact .inl rfl
  · exact .inr hd

theorem guarantees_addController :
    (addController x ctrl).Guarantees Keyed (Touches ctrl.name) := by
  refine Prog.guarantees_read (fun _ => touches_refl) fun c _ => ?_
  split
  · refine Prog.guarantees_read (fun _ => touches_refl) fun c _ => ?_
    split
    · trivial
    · exact Prog.guarantees_write (fun _ => touches_removePending)
        (Prog.guarantees_write (fun _ => touches_setController ctrl) trivial)
  · exact Prog.guarantees_write (fun _ => touches_addPending ctrl) trivial

theorem guarantees_removeControllerByName {rest : CProg}
    (h : rest.Guarantees Keyed (Touches name)) :
    (removeControllerByName name rest).Guarantees Keyed (Touches name) := by
  refine Prog.guarantees_write (fun _ => touches_removePending)
    (Prog.guarantees_read (fun _ => touches_refl) fun c _ => ?_)
  split
  · exact h
  · exact Prog.guarantees_write (fun _ => touches_deleteController) h

theorem guarantees_recheckController :
    (recheckController x ctrl).Guarantees Keyed (Touches ctrl.name) := by
  refine Prog.guarantees_read (fun _ => touches_refl) fun c _ => ?_
  split
  · trivial
  · exact guarantees_removeControllerByName
      (Prog.guarantees_write (fun _ => touches_addPending ctrl) trivial)

theorem guarantees_initNew (sr : ResourceSyncRule) :
    (initNewResourceSyncController x newRateLimiter sr).Guarantees Keyed (Touches sr.name) := by
  cases newRateLimiter with
  | error e => trivial
  | ok u =>
    exact Prog.guarantees_read (fun _ => touches_refl) fun c _ =>
      guarantees_addController (newController sr c.clusterID)

theorem guarantees_syncClusterController (context : Bool) (sr : ResourceSyncRule) :
    (syncClusterController x newRateLimiter context sr).Guarantees Keyed (Touches sr.name) := by
  refine Prog.guarantees_read (fun _ => touches_refl) fun c _ => ?_
  split
  · exact guarantees_initNew sr
  · refine Prog.guarantees_read (fun _ => touches_refl) fun c hk => ?_
    split
    · trivial
    · next ctrl hg =>
      split
      · rw [hk sr.name ctrl (.inl hg)]
        refine guarantees_removeControllerByName ?_
        cases context with
        | false => trivial
        | true => exact guarantees_initNew sr
      · trivial

end touches

end Section

/-! ## Interleavings -/

/-- The map a feature call loops over. -/
inductive Loop where
  | pending
  | active

structure Race where
  cluster : Cluster Reconciler
  /-- `syncClusterController` has begun. -/
  synced : Bool := false
  /-- The feature calls that are in their loop, by thread. -/
  loops : Nat → Option Loop := fun _ => none
  /-- What each thread is in the middle of, and for which controller name. -/
  jobs : Nat → Option (String × CProg) := fun _ => none

namespace Race

/-- The thread is in no call. -/
def Returned (s : Race) (i : Nat) : Prop := s.loops i = none ∧ s.jobs i = none

/-- No thread is in the middle of handling the controller. -/
def Free (s : Race) (n : String) : Prop := ∀ i p, s.jobs i ≠ some (n, p)

inductive Act where
  | sync (i : Nat)
  | addFeature (i : Nat) (feature : ClusterFeature)
  | removeFeature (i : Nat) (uid : String)
  /-- The loop meets the entry. -/
  | meet (i : Nat) (name : String) (controller : ManagedController Reconciler)
  | endLoop (i : Nat)
  | section (i : Nat)

section

variable (x : External) (newRateLimiter : Except Err Unit) (context : Bool)
  (sr : ResourceSyncRule)

def loopBody (controller : ManagedController Reconciler) : Loop → CProg
  | .pending => Section.addController x controller
  | .active => Section.recheckController x controller

def step (s : Race) : Act → Race
  | .sync i =>
    { s with
      synced := true
      jobs := Function.update s.jobs i
        (some (sr.name, Section.syncClusterController x newRateLimiter context sr)) }
  | .addFeature i f =>
    { s with
      cluster := { s.cluster with features := s.cluster.features.insert f.uid f }
      loops := Function.update s.loops i (some .pending) }
  | .removeFeature i uid =>
    { s with
      cluster := { s.cluster with features := s.cluster.features.erase uid }
      loops := Function.update s.loops i (some .active) }
  | .meet i name controller =>
    match s.loops i with
    | none => s
    | some loop =>
      { s with jobs := Function.update s.jobs i (some (name, loopBody x controller loop)) }
  | .endLoop i => { s with loops := Function.update s.loops i none }
  | .section i =>
    match s.jobs i with
    | some (name, .sect upd next) =>
      { s with
        cluster := upd s.cluster
        jobs := Function.update s.jobs i ((next s.cluster).job name) }
    | _ => s

end

/-- The entry that a loop meets. -/
def entry (c : Cluster Reconciler) (name : String) : Loop → Option (ManagedController Reconciler)
  | .pending => c.pendingControllers.lookup name
  | .active => c.controllers.lookup name

def Allowed (s : Race) : Act → Prop
  | .sync i => s.synced = false ∧ s.Returned i
  | .addFeature i _ => s.Returned i
  | .removeFeature i _ => s.Returned i
  | .meet i name controller => s.jobs i = none ∧
      ∃ loop, s.loops i = some loop ∧ entry s.cluster name loop = some controller
  | .endLoop i => s.jobs i = none
  | .section i => ∃ name upd next, s.jobs i = some (name, .sect upd next)

/-- The calls take turns on a controller: none begins to handle it while
another is in the middle of doing so. -/
def Exclusive (n : String) (s : Race) : Act → Prop
  | .sync _ => s.Free n
  | .meet _ name _ => name = n → s.Free n
  | _ => True

end Race

/-- Any interleaving of `syncClusterController` with feature events, from a
cluster on which the rule is absent, pending or active; `context` says whether an
active controller has a context to wait for. -/
def race (x : External) (newRateLimiter : Except Err Unit) (context : Bool)
    (sr : ResourceSyncRule) : System Race Race.Act where
  init s := s.cluster.WF ∧ Section.Before sr.name (s.cluster.slot sr.name) ∧ s.synced = false ∧
    ∀ i, s.Returned i
  ok _ s a := s.Allowed a
  step := Race.step x newRateLimiter context sr

/-! ## Turns on a controller keep the update -/

namespace Race

open Section

variable {x : External} {sr : ResourceSyncRule} {s : Race}

/-- What the slot of the rule holds while nobody works on it. -/
def Settled (sr : ResourceSyncRule) (synced : Bool) (slot : Slot) : Prop :=
  if synced then After sr slot else Before sr.name slot

structure Inv (sr : ResourceSyncRule) (s : Race) : Prop where
  keyed : Keyed s.cluster
  touches : ∀ i n p, s.jobs i = some (n, p) → p.Guarantees Keyed (Touches n)
  owned : Owned (·.slot sr.name) (Settled sr s.synced) sr.name s.jobs s.cluster

theorem single_unique {slot : Slot} {d e : ManagedController Reconciler} (h : Single d slot)
    (h' : Single e slot) : d = e := by
  rcases h with rfl | rfl <;> rcases h' with e | e <;> cases e <;> rfl

/-- A controller that is there is there once. -/
theorem Settled.single {synced : Bool} {slot : Slot} {ctrl : ManagedController Reconciler}
    (h : Settled sr synced slot) (hc : slot.1 = some ctrl ∨ slot.2 = some ctrl) :
    Single ctrl slot := by
  have key : ∀ d, Single d slot → Single ctrl slot := by
    rintro d (rfl | rfl) <;> rcases hc with e | e <;> cases e
    · exact .inl rfl
    · exact .inr rfl
  cases synced with
  | true => obtain ⟨d, _, _, _, _, hd⟩ := h; exact key d hd
  | false =>
    rcases h with rfl | ⟨d, _, _, _, hd⟩
    · rcases hc with e | e <;> cases e
    · exact key d hd

/-- Moving the controller between the maps leaves the slot settled. -/
theorem Settled.moved {synced : Bool} {slot slot' : Slot} {ctrl : ManagedController Reconciler}
    (h : Settled sr synced slot) (hs : Single ctrl slot) (hs' : Single ctrl slot') :
    Settled sr synced slot' := by
  cases synced with
  | true =>
    obtain ⟨d, r, hn, hr, hspec, hd⟩ := h
    exact ⟨d, r, hn, hr, hspec, single_unique hs hd ▸ hs'⟩
  | false =>
    rcases h with rfl | ⟨d, r, hn, hr, hd⟩
    · rcases hs with e | e <;> cases e
    · exact .inr ⟨d, r, hn, hr, single_unique hs hd ▸ hs'⟩

theorem guarantees_loopBody (ctrl : ManagedController Reconciler) (loop : Loop) :
    (loopBody x ctrl loop).Guarantees Keyed (Touches ctrl.name) := by
  cases loop with
  | pending => exact guarantees_addController ctrl
  | active => exact guarantees_recheckController ctrl

/-- A loop that works on the rule's controller undisturbed leaves it settled. -/
theorem within_loopBody {n : String} {c : Cluster Reconciler} {ctrl : ManagedController Reconciler}
    {loop : Loop} (hn : ctrl.name = n) (he : entry c n loop = some ctrl)
    (hs : Single ctrl (c.slot n)) : (loopBody x ctrl loop).Within (·.slot n) (Single ctrl) c := by
  cases loop with
  | pending =>
    refine within_addController hn ?_
    rcases hs with e | e
    · have : (c.slot n).2 = some ctrl := he
      rw [e] at this; cases this
    · rw [e]
  | active =>
    refine within_recheckController hn ?_
    rcases hs with e | e
    · exact e
    · have : (c.slot n).1 = some ctrl := he
      rw [e] at this; cases this

theorem mem_slot_of_entry {c : Cluster Reconciler} {n : String}
    {ctrl : ManagedController Reconciler} {loop : Loop} (he : entry c n loop = some ctrl) :
    (c.slot n).1 = some ctrl ∨ (c.slot n).2 = some ctrl := by
  cases loop with
  | pending => exact .inr he
  | active => exact .inl he

theorem jobs_update {jobs : Nat → Option (String × CProg)} {i : Nat} {j : Option (String × CProg)}
    (h : ∀ i n p, jobs i = some (n, p) → p.Guarantees Keyed (Touches n))
    (hj : ∀ n p, j = some (n, p) → p.Guarantees Keyed (Touches n)) :
    ∀ k n p, Function.update jobs i j k = some (n, p) → p.Guarantees Keyed (Touches n) := by
  intro k n p hk
  by_cases e : k = i
  · rw [e, Function.update_self] at hk; exact hj n p hk
  · rw [Function.update_of_ne e] at hk; exact h k n p hk

/-- **One step of an interleaving** in which the calls take turns on the rule. -/
theorem inv_step {context : Bool} {a : Act} (h : Inv sr s) (ha : s.Allowed a)
    (hx : s.Exclusive sr.name a) : Inv sr (s.step x (.ok ()) context sr a) := by
  cases a with
  | sync i =>
    have hb : Before sr.name (s.cluster.slot sr.name) := by
      have := h.owned.free hx
      rwa [Settled, ha.1] at this
    refine ⟨h.keyed, jobs_update h.touches fun n p e => ?_, .begin hx ?_⟩
    · cases e; exact guarantees_syncClusterController context sr
    · exact within_syncClusterController context hb
  | addFeature i f => exact ⟨h.keyed, h.touches, h.owned.frame rfl fun _ _ => Iff.rfl⟩
  | removeFeature i uid => exact ⟨h.keyed, h.touches, h.owned.frame rfl fun _ _ => Iff.rfl⟩
  | endLoop i => exact ⟨h.keyed, h.touches, h.owned⟩
  | meet i name ctrl =>
    obtain ⟨hj, loop, hl, he⟩ := ha
    have hn : ctrl.name = name := h.keyed name ctrl (mem_slot_of_entry he)
    simp only [step, hl]
    refine ⟨h.keyed, jobs_update h.touches fun n p e => ?_, ?_⟩
    · cases e; exact hn ▸ guarantees_loopBody ctrl loop
    · by_cases e : name = sr.name
      · subst e
        have hset := h.owned.free (hx rfl)
        have hs := hset.single (mem_slot_of_entry he)
        exact .begin (hx rfl) ((within_loopBody hn he hs).mono fun _ => hset.moved hs)
      · exact h.owned.beginElsewhere hj e
  | «section» i =>
    obtain ⟨name, upd, next, hj⟩ := ha
    obtain ⟨⟨hframe, hkeyed⟩, hnext⟩ := h.touches i name _ hj s.cluster h.keyed
    simp only [step, hj]
    refine ⟨hkeyed, jobs_update h.touches fun n p e => ?_, ?_⟩
    · obtain ⟨rfl, rfl⟩ := Prog.job_eq_some e; exact hnext
    · by_cases e : sr.name = name
      · subst e; exact h.owned.sect hj
      · exact h.owned.elsewhere hj e (hframe sr.name e)

theorem inv_init {newRateLimiter : Except Err Unit} {context : Bool}
    (h : (race x newRateLimiter context sr).init s) : Inv sr s := by
  obtain ⟨hw, hb, hs, hr⟩ := h
  refine ⟨fun n ctrl hc => hc.elim (hw.active n ctrl) (hw.pending n ctrl), fun i n p hj => ?_, ?_⟩
  · rw [(hr i).2] at hj; cases hj
  · refine ⟨fun i j p q hi => ?_, fun i p hi => ?_, fun _ => by rw [Settled, hs]; exact hb⟩ <;>
    · rw [(hr i).2] at hi; cases hi

end Race

/-- **No update is lost while the calls take turns on the rule's controller**:
when every call has returned, the controller is in one map and holds the new
spec. -/
theorem sync_not_lost (x : External) (newRateLimiter : Except Err Unit)
    (hrl : newRateLimiter = .ok ()) (context : Bool) (sr : ResourceSyncRule)
    (tr : List (Race × Race.Act)) (s : Race) (h : Run (race x newRateLimiter context sr) tr s)
    (hx : ∀ p ∈ tr, p.1.Exclusive sr.name p.2) (hs : s.synced = true) (hr : ∀ i, s.Returned i) :
    Section.After sr (s.cluster.slot sr.name) := by
  subst hrl
  have hinv : Race.Inv sr s :=
    h.always (G := Race.Inv sr) (C := fun s a => s.Exclusive sr.name a) (fun _ => Race.inv_init)
      (fun _ _ _ _ ih ha hx => Race.inv_step ih ha hx) hx s List.mem_cons_self
  have hset := hinv.owned.free fun i p => by rw [(hr i).2]; exact fun e => by cases e
  rwa [Race.Settled, hs] at hset

/-- A rule that waits for the feature `f`, and its update that waits for none. -/
def oldRule : ResourceSyncRule := ⟨"rule", "1", ⟨some [⟨"f", none, none⟩], GVK.none, none⟩⟩
def newRule : ResourceSyncRule := ⟨"rule", "1", emptySpec⟩

/-- The old version of the rule is pending. -/
def oldPending : Race :=
  { cluster := Cluster.addController .bare { name := "a" } (newController oldRule "") }

theorem init_oldPending (newRateLimiter : Except Err Unit) (context : Bool) :
    (race .bare newRateLimiter context newRule).init oldPending := by
  have hw : ({ name := "a" } : Cluster Reconciler).WF :=
    ⟨fun _ _ h => by simp at h, fun _ _ h => by simp at h, fun _ => .inl rfl⟩
  have hfree : ({ name := "a" } : Cluster Reconciler).controllers.lookup
      (newController oldRule "").name = none := rfl
  exact ⟨hw.addController (x := .bare) hfree,
    .inr ⟨newController oldRule "", _, rfl, rfl, .inr rfl⟩, rfl, fun _ => ⟨rfl, rfl⟩⟩

/-- The update on its own. -/
def updated : List (Race × Race.Act) × Race :=
  played (race .bare (.ok ()) true newRule) [] oldPending
    [.sync 0, .section 0, .section 0, .section 0, .section 0, .section 0, .section 0]

theorem sync_not_lost_updated : Section.After newRule (updated.2.cluster.slot "rule") := by
  refine sync_not_lost .bare (.ok ()) rfl true newRule updated.1 updated.2
    (.plays (.init (init_oldPending _ _)) ?_) ?_ rfl ?_
  · exact ⟨⟨rfl, rfl, rfl⟩, ⟨_, _, _, rfl⟩, ⟨_, _, _, rfl⟩, ⟨_, _, _, rfl⟩, ⟨_, _, _, rfl⟩,
      ⟨_, _, _, rfl⟩, ⟨_, _, _, rfl⟩, trivial⟩
  · have hfree : oldPending.Free "rule" := fun _ _ h => by cases h
    simp only [List.forall_mem_cons, updated, played, Race.Exclusive, true_and]
    exact ⟨hfree, by simp⟩
  · rintro (_ | i)
    · exact ⟨rfl, rfl⟩
    · exact ⟨rfl, rfl⟩

/-- The feature `f` arrives after `HasController` and promotes the old version. -/
def promoted : List (Race × Race.Act) × Race :=
  played (race .bare (.ok ()) true newRule) [] oldPending
    [.sync 0, .section 0, .addFeature 1 ⟨"u", "f", ∅⟩, .meet 1 "rule" (newController oldRule ""),
      .section 1, .section 1, .section 1, .section 1, .endLoop 1,
      .section 0, .section 0, .section 0]

theorem sync_lost : Run (race .bare (.ok ()) true newRule) promoted.1 promoted.2 ∧
    promoted.2.synced = true ∧ (∀ i, promoted.2.Returned i) ∧
    ¬Section.After newRule (promoted.2.cluster.slot newRule.name) := by
  refine ⟨.plays (.init (init_oldPending _ _)) ?_, rfl, ?_, ?_⟩
  · exact ⟨⟨rfl, rfl, rfl⟩, ⟨_, _, _, rfl⟩, ⟨rfl, rfl⟩, ⟨rfl, .pending, rfl, rfl⟩, ⟨_, _, _, rfl⟩,
      ⟨_, _, _, rfl⟩, ⟨_, _, _, rfl⟩, ⟨_, _, _, rfl⟩, rfl, ⟨_, _, _, rfl⟩, ⟨_, _, _, rfl⟩,
      ⟨_, _, _, rfl⟩, trivial⟩
  · rintro (_ | _ | i)
    · exact ⟨rfl, rfl⟩
    · exact ⟨rfl, rfl⟩
    · exact ⟨rfl, rfl⟩
  · rintro ⟨ctrl, r, -, hr, hspec, hs⟩
    have hslot : promoted.2.cluster.slot "rule" = (some (newController oldRule ""), none) := rfl
    obtain rfl := Race.single_unique hs (.inl hslot)
    cases hr
    cases hspec

end ClusterRegistry.Rules
