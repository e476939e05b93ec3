import ClusterRegistry.Clusters.Cluster
import ClusterRegistry.Lib.Run

/-!
# Active controllers and their features

`Cluster.WF` holds in every run: a controller sits under its own name, in one
of the two maps at most. `Cluster.Active` is the intended meaning of the maps:
active controllers have their features, pending ones do not. `AddFeature`
re-examines the pending controllers only, so it keeps `Active` exactly when
the features it leaves behind still satisfy every active controller; every
other operation keeps it.
-/

namespace ClusterRegistry.Clusters

open Lib

variable {R : Type} {x : External}

/-! ## The feature check -/

theorem meets_mono {f g : Map String ClusterFeature}
    (h : ∀ uid v, f.lookup uid = some v → g.lookup uid = some v) {ctrl : ManagedController R}
    (hm : meets x f ctrl = true) : meets x g ctrl = true := by
  unfold meets at hm ⊢
  rw [List.all_eq_true] at hm ⊢
  exact fun r hr => ClusterFeatureRequirement.match_mono x h (hm r hr)

theorem meets_of_erase {f : Map String ClusterFeature} {uid : String} {ctrl : ManagedController R}
    (hm : meets x (f.erase uid) ctrl = true) : meets x f ctrl = true := by
  refine meets_mono (fun u v hu => ?_) hm
  rw [Map.lookup_erase_if] at hu
  split at hu
  · cases hu
  · exact hu

namespace Cluster

/-- Every controller under its own name, and no name in both maps. -/
structure WF (c : Cluster R) : Prop where
  active : ∀ n ctrl, c.controllers.lookup n = some ctrl → ctrl.name = n
  pending : ∀ n ctrl, c.pendingControllers.lookup n = some ctrl → ctrl.name = n
  disjoint : ∀ n, c.controllers.lookup n = none ∨ c.pendingControllers.lookup n = none

variable (x) in
/-- A controller is active exactly when its required features are present. -/
structure Active (c : Cluster R) : Prop where
  active : ∀ n ctrl, c.controllers.lookup n = some ctrl → meets x c.features ctrl = true
  pending : ∀ n ctrl, c.pendingControllers.lookup n = some ctrl → meets x c.features ctrl = false

/-- What both maps hold under a name. -/
def slot (c : Cluster R) (n : String) :
    Option (ManagedController R) × Option (ManagedController R) :=
  (c.controllers.lookup n, c.pendingControllers.lookup n)

theorem WF.of_slot {c : Cluster R} (h : ∀ n, (∀ ctrl, (c.slot n).1 = some ctrl → ctrl.name = n) ∧
    (∀ ctrl, (c.slot n).2 = some ctrl → ctrl.name = n) ∧
    ((c.slot n).1 = none ∨ (c.slot n).2 = none)) : c.WF :=
  ⟨fun n => (h n).1, fun n => (h n).2.1, fun n => (h n).2.2⟩

/-! ## One operation -/

/-- `AddController` for a name that is not active. -/
theorem slot_addController {c : Cluster R} {ctrl : ManagedController R}
    (h : c.controllers.lookup ctrl.name = none) (n : String) :
    (c.addController x ctrl).slot n = if n = ctrl.name then
      (if meets x c.features ctrl then (some ctrl, none) else (none, some ctrl)) else c.slot n := by
  unfold addController checkRequiredClusterFeatures
  split
  · simp only [addReadyController, getController, h, slot, removePendingControllerByName,
      Map.lookup_insert_if, Map.lookup_erase_if]
    split <;> rfl
  · simp only [addPendingController, slot, Map.lookup_insert_if]
    split
    · next e => rw [e, h]
    · rfl

theorem features_addController (c : Cluster R) (ctrl : ManagedController R) :
    (c.addController x ctrl).features = c.features := by
  unfold addController addReadyController
  split
  · split <;> rfl
  · rfl

theorem slot_removeControllerByName (c : Cluster R) (name n : String) :
    (c.removeControllerByName name).slot n = if n = name then (none, none) else c.slot n := by
  unfold removeControllerByName
  simp only
  split
  · next h =>
    simp only [slot, removePendingControllerByName, Map.lookup_erase_if]
    split
    · next e => rw [e]; exact congrArg (·, none) h
    · rfl
  · simp only [slot, removePendingControllerByName, Map.lookup_erase_if]
    split <;> rfl

theorem features_removeControllerByName (c : Cluster R) (name : String) :
    (c.removeControllerByName name).features = c.features := by
  unfold removeControllerByName
  simp only
  split <;> rfl

/-! ## The loops over the controllers -/

variable (x) in
/-- What a turn of the loop in `AddFeature` makes of a name. -/
def retried (features : Map String ClusterFeature) :
    Option (ManagedController R) × Option (ManagedController R) →
      Option (ManagedController R) × Option (ManagedController R)
  | (a, some ctrl) => if meets x features ctrl then (some ctrl, none) else (a, some ctrl)
  | (a, none) => (a, none)

variable (x) in
/-- What a turn of the loop in `RemoveFeature` makes of a name. -/
def rechecked (features : Map String ClusterFeature) :
    Option (ManagedController R) × Option (ManagedController R) →
      Option (ManagedController R) × Option (ManagedController R)
  | (some ctrl, p) => if meets x features ctrl then (some ctrl, p) else (none, some ctrl)
  | (none, p) => (none, p)

section

variable {features : Map String ClusterFeature} {d : ManagedController R}
  {s : Option (ManagedController R) × Option (ManagedController R)}

theorem active_of_retried (h : (retried x features s).1 = some d) :
    s.1 = some d ∨ meets x features d = true := by
  unfold retried at h
  split at h
  · split at h
    · next hm => cases h; exact .inr hm
    · exact .inl h
  · exact .inl h

theorem pending_of_retried (h : (retried x features s).2 = some d) :
    meets x features d = false := by
  unfold retried at h
  split at h
  · split at h
    · cases h
    · next hm => cases h; exact Bool.eq_false_iff.mpr hm
  · cases h

theorem active_of_rechecked (h : (rechecked x features s).1 = some d) :
    meets x features d = true := by
  unfold rechecked at h
  split at h
  · split at h
    · next hm => cases h; exact hm
    · cases h
  · cases h

theorem pending_of_rechecked (h : (rechecked x features s).2 = some d) :
    s.2 = some d ∨ meets x features d = false := by
  unfold rechecked at h
  split at h
  · split at h
    · exact .inl h
    · next hm => cases h; exact .inr (Bool.eq_false_iff.mpr hm)
  · exact .inl h

end

theorem slot_retryPending {c : Cluster R} (hw : c.WF) (name n : String) :
    (c.retryPending x name).slot n =
      if n = name then retried x c.features (c.slot name) else c.slot n := by
  unfold retryPending
  cases hp : c.pendingControllers.lookup name with
  | none =>
    simp only [slot, hp, retried]
    split
    · next e => rw [e, hp]
    · rfl
  | some ctrl =>
    have hn : ctrl.name = name := hw.pending name ctrl hp
    have ha : c.controllers.lookup name = none := by
      rcases hw.disjoint name with h | h
      · exact h
      · rw [hp] at h; cases h
    simp only
    rw [slot_addController (by rw [hn]; exact ha), hn]
    simp only [slot, hp, ha, retried]

theorem features_retryPending (c : Cluster R) (name : String) :
    (c.retryPending x name).features = c.features := by
  unfold retryPending
  split
  · rfl
  · exact features_addController c _

theorem slot_recheckActive {c : Cluster R} (hw : c.WF) (name n : String) :
    (c.recheckActive x name).slot n =
      if n = name then rechecked x c.features (c.slot name) else c.slot n := by
  unfold recheckActive
  cases ha : c.controllers.lookup name with
  | none =>
    simp only [slot, ha, rechecked]
    split
    · next e => rw [e, ha]
    · rfl
  | some ctrl =>
    have hn : ctrl.name = name := hw.active name ctrl ha
    simp only
    have hs : c.slot name = (some ctrl, c.pendingControllers.lookup name) := by rw [slot, ha]
    by_cases hm : c.checkRequiredClusterFeatures x ctrl = true
    · have hm' : meets x c.features ctrl = true := hm
      rw [if_pos hm, hs, rechecked, if_pos hm']
      split
      · next e => rw [e, hs]
      · rfl
    · have hm' : ¬meets x c.features ctrl = true := hm
      have hr := slot_removeControllerByName c name n
      rw [if_neg hm, hs, rechecked, if_neg hm']
      simp only [slot, addPendingController, removeController, hn, Map.lookup_insert_if,
        Prod.ext_iff] at hr ⊢
      split
      · next e => rw [if_pos e] at hr; exact ⟨hr.1, rfl⟩
      · next e => rw [if_neg e] at hr; exact hr

theorem features_recheckActive (c : Cluster R) (name : String) :
    (c.recheckActive x name).features = c.features := by
  unfold recheckActive
  split
  · rfl
  · split
    · rfl
    · exact features_removeControllerByName c _

theorem WF.of_slots {c d : Cluster R} (hw : c.WF)
    (h : ∀ n, d.slot n = c.slot n ∨ d.slot n = (none, none) ∨
      ∃ ctrl, ctrl.name = n ∧ (d.slot n = (some ctrl, none) ∨ d.slot n = (none, some ctrl))) :
    d.WF := by
  refine .of_slot fun n => ?_
  rcases h n with e | e | ⟨ctrl, hn, e | e⟩
  · rw [e]; exact ⟨hw.active n, hw.pending n, hw.disjoint n⟩
  · simp [e]
  · simp [e, hn]
  · simp [e, hn]

theorem WF.retryPending {c : Cluster R} (hw : c.WF) (name : String) :
    (c.retryPending x name).WF := by
  refine hw.of_slots fun n => ?_
  rw [slot_retryPending hw]
  split
  · next e =>
    subst e
    cases hp : c.pendingControllers.lookup n with
    | none => simp [slot, hp, retried]
    | some ctrl =>
      simp only [slot, hp, retried]
      split
      · exact .inr (.inr ⟨ctrl, hw.pending n ctrl hp, .inl rfl⟩)
      · exact .inl rfl
  · exact .inl rfl

theorem WF.recheckActive {c : Cluster R} (hw : c.WF) (name : String) :
    (c.recheckActive x name).WF := by
  refine hw.of_slots fun n => ?_
  rw [slot_recheckActive hw]
  split
  · next e =>
    subst e
    cases ha : c.controllers.lookup n with
    | none => simp [slot, ha, rechecked]
    | some ctrl =>
      simp only [slot, ha, rechecked]
      split
      · exact .inl rfl
      · exact .inr (.inr ⟨ctrl, hw.active n ctrl ha, .inr rfl⟩)
  · exact .inl rfl

/-- `AddFeature` retries every pending controller on the new features. -/
theorem addFeature_spec {c : Cluster R} (hw : c.WF) {f : ClusterFeature} {order : List String}
    (ho : Map.IsOrder c.pendingControllers order) :
    (c.addFeature x f order).WF ∧
    (c.addFeature x f order).features = c.features.insert f.uid f ∧
    ∀ n, (c.addFeature x f order).slot n =
      retried x (c.features.insert f.uid f) (c.slot n) := by
  obtain ⟨⟨hw', hf⟩, hs⟩ := foldl_pointwise
    (I := fun d : Cluster R => d.WF ∧ d.features = c.features.insert f.uid f) (L := slot)
    (f := Cluster.retryPending x) (g := retried x (c.features.insert f.uid f))
    (fun d n hd => ⟨hd.1.retryPending n, (features_retryPending d n).trans hd.2⟩)
    (fun d n hd n' => by rw [slot_retryPending hd.1, hd.2]) ho.1
    (s := { c with features := c.features.insert f.uid f })
    ⟨⟨hw.active, hw.pending, hw.disjoint⟩, rfl⟩
  refine ⟨hw', hf, fun n => (hs n).trans ?_⟩
  split
  · rfl
  · next h =>
    have hp : c.pendingControllers.lookup n = none :=
      Finmap.lookup_eq_none.mpr (mt (ho.mem_iff n).mpr h)
    simp only [slot, hp, retried]

/-- `RemoveFeature` rechecks every active controller on the new features. -/
theorem removeFeature_spec {c : Cluster R} (hw : c.WF) (uid : String) {order : List String}
    (ho : Map.IsOrder c.controllers order) :
    (c.removeFeature x uid order).WF ∧
    (c.removeFeature x uid order).features = c.features.erase uid ∧
    ∀ n, (c.removeFeature x uid order).slot n =
      rechecked x (c.features.erase uid) (c.slot n) := by
  obtain ⟨⟨hw', hf⟩, hs⟩ := foldl_pointwise
    (I := fun d : Cluster R => d.WF ∧ d.features = c.features.erase uid) (L := slot)
    (f := Cluster.recheckActive x) (g := rechecked x (c.features.erase uid))
    (fun d n hd => ⟨hd.1.recheckActive n, (features_recheckActive d n).trans hd.2⟩)
    (fun d n hd n' => by rw [slot_recheckActive hd.1, hd.2]) ho.1
    (s := { c with features := c.features.erase uid })
    ⟨⟨hw.active, hw.pending, hw.disjoint⟩, rfl⟩
  refine ⟨hw', hf, fun n => (hs n).trans ?_⟩
  split
  · rfl
  · next h =>
    have ha : c.controllers.lookup n = none :=
      Finmap.lookup_eq_none.mpr (mt (ho.mem_iff n).mpr h)
    simp only [slot, ha, rechecked]

theorem WF.addController {c : Cluster R} (hw : c.WF) {ctrl : ManagedController R}
    (h : c.controllers.lookup ctrl.name = none) : (c.addController x ctrl).WF := by
  refine hw.of_slots fun n => ?_
  rw [slot_addController h]
  split
  · next e =>
    refine .inr (.inr ⟨ctrl, e.symm, ?_⟩)
    split
    · exact .inl rfl
    · exact .inr rfl
  · exact .inl rfl

theorem WF.removeControllerByName {c : Cluster R} (hw : c.WF) (name : String) :
    (c.removeControllerByName name).WF := by
  refine hw.of_slots fun n => ?_
  rw [slot_removeControllerByName]
  split
  · exact .inr (.inl rfl)
  · exact .inl rfl

end Cluster

/-! ## Runs -/

/-- The operations on a cluster's controllers and features; a loop carries the
order in which it meets its entries. -/
inductive Op (R : Type) where
  | addController (controller : ManagedController R)
  | removeController (controller : ManagedController R)
  | addFeature (feature : ClusterFeature) (order : List String)
  | removeFeature (uid : String) (order : List String)

namespace Op

variable (x) in
def apply (c : Cluster R) : Op R → Cluster R
  | addController controller => c.addController x controller
  | removeController controller => c.removeController controller
  | addFeature feature order => c.addFeature x feature order
  | removeFeature uid order => c.removeFeature x uid order

/-- Callers of `AddController` check that the name is free. -/
def Allowed (c : Cluster R) : Op R → Prop
  | addController controller => c.hasController controller.name = false
  | removeController _ => True
  | addFeature _ order => Map.IsOrder c.pendingControllers order
  | removeFeature _ order => Map.IsOrder c.controllers order

instance (c : Cluster R) : (op : Op R) → Decidable (op.Allowed c)
  | addController _ => inferInstanceAs (Decidable (_ = false))
  | removeController _ => .isTrue trivial
  | addFeature _ order => inferInstanceAs (Decidable (Map.IsOrder c.pendingControllers order))
  | removeFeature _ order => inferInstanceAs (Decidable (Map.IsOrder c.controllers order))

variable (x) in
/-- An edit of a feature keeps satisfying the requirements of the active
controllers that its old version satisfied, or another feature does. -/
def EditKeeps (c : Cluster R) : Op R → Prop
  | addFeature feature _ => ∀ old, c.features.lookup feature.uid = some old →
      ∀ n ctrl, c.controllers.lookup n = some ctrl → ∀ r ∈ ctrl.requiredClusterFeatures,
        r.accepts x old = true → r.accepts x feature = true ∨
          ∃ uid f, uid ≠ feature.uid ∧ c.features.lookup uid = some f ∧ r.accepts x f = true
  | _ => True

end Op

variable (R x) in
/-- A new cluster under any sequence of operations. -/
def operations : System (Cluster R) (Op R) where
  init c := c.features = ∅ ∧ c.controllers = ∅ ∧ c.pendingControllers = ∅
  ok _ c op := op.Allowed c
  step c op := op.apply x c

instance (tr : List (Cluster R × Op R)) (c : Cluster R) (op : Op R) :
    Decidable ((operations R x).ok tr c op) :=
  inferInstanceAs (Decidable (op.Allowed c))

theorem not_hasController {c : Cluster R} {n : String} (h : c.hasController n = false) :
    c.controllers.lookup n = none :=
  Option.isSome_eq_false_iff.mp h |> Option.isNone_iff_eq_none.mp

theorem Op.wf_apply {c : Cluster R} {op : Op R} (hw : c.WF) (ho : op.Allowed c) :
    (op.apply x c).WF := by
  cases op with
  | addController ctrl => exact hw.addController (not_hasController ho)
  | removeController ctrl => exact hw.removeControllerByName _
  | addFeature f order => exact (Cluster.addFeature_spec hw ho).1
  | removeFeature uid order => exact (Cluster.removeFeature_spec hw uid ho).1

theorem wf_of_run {tr : List (Cluster R × Op R)} {c : Cluster R} (h : Run (operations R x) tr c) :
    c.WF := by
  refine h.invariant (P := Cluster.WF) ?_ fun _ c op _ hw ho => Op.wf_apply hw ho
  rintro c ⟨-, ha, hp⟩
  exact ⟨by simp [ha], by simp [hp], by simp [ha]⟩

/-! ## The active controllers have their features -/

theorem meets_insert_iff {features : Map String ClusterFeature} {f : ClusterFeature}
    {ctrl : ManagedController R} (hm : meets x features ctrl = true) :
    meets x (features.insert f.uid f) ctrl = true ↔
      ∀ old, features.lookup f.uid = some old → ∀ r ∈ ctrl.requiredClusterFeatures,
        r.accepts x old = true → r.accepts x f = true ∨
          ∃ uid g, uid ≠ f.uid ∧ features.lookup uid = some g ∧ r.accepts x g = true := by
  unfold meets at hm ⊢
  rw [List.all_eq_true] at hm ⊢
  constructor
  · intro h old _ r hr _
    obtain ⟨uid, g, hg, ha⟩ := (r.match_iff x _).mp (h r hr)
    rw [Map.lookup_insert_if] at hg
    split at hg
    · cases hg; exact .inl ha
    · next e => exact .inr ⟨uid, g, e, hg, ha⟩
  · intro h r hr
    have hnew : r.accepts x f = true ∨
        ∃ uid g, uid ≠ f.uid ∧ features.lookup uid = some g ∧ r.accepts x g = true := by
      obtain ⟨uid, g, hg, ha⟩ := (r.match_iff x _).mp (hm r hr)
      by_cases e : uid = f.uid
      · exact h g (e ▸ hg) r hr ha
      · exact .inr ⟨uid, g, e, hg, ha⟩
    rw [r.match_iff]
    rcases hnew with ha | ⟨uid, g, e, hg, ha⟩
    · exact ⟨f.uid, f, by rw [Map.lookup_insert_if, if_pos rfl], ha⟩
    · exact ⟨uid, g, by rw [Map.lookup_insert_if, if_neg e]; exact hg, ha⟩

namespace Cluster

theorem active_of_slot {c : Cluster R}
    (ha : ∀ n ctrl, (c.slot n).1 = some ctrl → meets x c.features ctrl = true)
    (hp : ∀ n ctrl, (c.slot n).2 = some ctrl → meets x c.features ctrl = false) : c.Active x :=
  ⟨ha, hp⟩

theorem Active.addController {c : Cluster R} (hc : c.Active x) {ctrl : ManagedController R}
    (h : c.controllers.lookup ctrl.name = none) : (c.addController x ctrl).Active x := by
  refine active_of_slot (fun n d hd => ?_) fun n d hd => ?_ <;>
    rw [slot_addController h] at hd <;> rw [features_addController]
  · split at hd
    · split at hd
      · next hm => cases hd; exact hm
      · cases hd
    · exact hc.active n d hd
  · split at hd
    · split at hd
      · cases hd
      · next hm => cases hd; exact Bool.eq_false_iff.mpr hm
    · exact hc.pending n d hd

theorem Active.removeControllerByName {c : Cluster R} (hc : c.Active x) (name : String) :
    (c.removeControllerByName name).Active x := by
  refine active_of_slot (fun n d hd => ?_) fun n d hd => ?_ <;>
    rw [slot_removeControllerByName] at hd <;> rw [features_removeControllerByName] <;>
    split at hd
  · cases hd
  · exact hc.active n d hd
  · cases hd
  · exact hc.pending n d hd

/-- `RemoveFeature` loses no requirement unnoticed: it looks at every active controller. -/
theorem Active.removeFeature {c : Cluster R} (hw : c.WF) (hc : c.Active x) {uid : String}
    {order : List String} (ho : Map.IsOrder c.controllers order) :
    (c.removeFeature x uid order).Active x := by
  obtain ⟨-, hf, hs⟩ := removeFeature_spec (x := x) hw uid ho
  refine active_of_slot (fun n d hd => ?_) fun n d hd => ?_ <;> rw [hs] at hd <;> rw [hf]
  · exact active_of_rechecked hd
  · rcases pending_of_rechecked hd with h | h
    · exact Bool.eq_false_iff.mpr fun hm =>
        Bool.eq_false_iff.mp (hc.pending n d h) (meets_of_erase hm)
    · exact h

/-- **`AddFeature` keeps the active controllers right exactly when the ones
already active still meet their requirements**: it does not look at them. -/
theorem active_addFeature_iff {c : Cluster R} (hw : c.WF) {f : ClusterFeature}
    {order : List String} (ho : Map.IsOrder c.pendingControllers order) :
    (c.addFeature x f order).Active x ↔
      ∀ n ctrl, c.controllers.lookup n = some ctrl →
        meets x (c.features.insert f.uid f) ctrl = true := by
  obtain ⟨-, hf, hs⟩ := addFeature_spec (x := x) (f := f) hw ho
  constructor
  · intro hc n ctrl ha
    have hp : c.pendingControllers.lookup n = none := by
      rcases hw.disjoint n with h | h
      · rw [ha] at h; cases h
      · exact h
    have hd := hs n
    simp only [slot, ha, hp, retried] at hd
    rw [← hf]
    exact hc.active n ctrl (congrArg Prod.fst hd)
  · intro h
    refine active_of_slot (fun n d hd => ?_) fun n d hd => ?_ <;> rw [hs] at hd <;> rw [hf]
    · rcases active_of_retried hd with ha | hm
      · exact h n d ha
      · exact hm
    · exact pending_of_retried hd

end Cluster

/-- One operation on a cluster whose active controllers have their features. -/
theorem Op.active_apply_iff {c : Cluster R} {op : Op R} (hw : c.WF) (hc : c.Active x)
    (ho : op.Allowed c) : (op.apply x c).Active x ↔ op.EditKeeps x c := by
  cases op with
  | addController ctrl => exact iff_of_true (hc.addController (not_hasController ho)) trivial
  | removeController ctrl => exact iff_of_true (hc.removeControllerByName _) trivial
  | removeFeature uid order => exact iff_of_true (hc.removeFeature hw ho) trivial
  | addFeature f order =>
    refine (Cluster.active_addFeature_iff hw ho).trans ⟨fun h old hold n ctrl ha => ?_,
      fun h n ctrl ha => ?_⟩
    · exact (meets_insert_iff (hc.active n ctrl ha)).mp (h n ctrl ha) old hold
    · exact (meets_insert_iff (hc.active n ctrl ha)).mpr fun old hold => h old hold n ctrl ha

/-- **Active exactly when the features are present**, in every state of a run
whose feature edits keep what the active controllers rely on, and in no other
run. -/
theorem active_iff_edits_keep (tr : List (Cluster R × Op R)) (c : Cluster R)
    (h : Run (operations R x) tr c) :
    (∀ t ∈ states tr c, t.Active x) ↔ ∀ p ∈ tr, p.2.EditKeeps x p.1 := by
  refine Run.good_iff (C := fun c op => op.EditKeeps x c) ?_ (fun _ c op hr hc ho => ?_) h
  · rintro c ⟨-, ha, hp⟩
    exact ⟨by simp [ha], by simp [hp]⟩
  · exact Op.active_apply_iff (wf_of_run hr) hc ho

/-- A controller that waits for the feature `f`. -/
def waiting : ManagedController Unit := ⟨"rule", (), [⟨"f", none, none⟩]⟩

/-- The feature appears, and is then renamed. -/
def featureRenamed : List (Cluster Unit × Op Unit) × Cluster Unit :=
  played (operations Unit .bare) [] { name := "c" }
    [.addController waiting, .addFeature ⟨"u", "f", ∅⟩ ["rule"], .addFeature ⟨"u", "g", ∅⟩ []]

theorem run_featureRenamed : Run (operations Unit .bare) featureRenamed.1 featureRenamed.2 :=
  .plays (.init ⟨rfl, rfl, rfl⟩) (by decide)

theorem active_iff_edits_keep_featureRenamed :
    (∀ t ∈ states featureRenamed.1 featureRenamed.2, t.Active .bare) ↔
      ∀ p ∈ featureRenamed.1, p.2.EditKeeps .bare p.1 :=
  active_iff_edits_keep _ _ run_featureRenamed

/-- The controller stays active after its feature is renamed. -/
theorem not_active_featureRenamed :
    Run (operations Unit .bare) featureRenamed.1 featureRenamed.2 ∧
      ¬featureRenamed.2.Active .bare := by
  refine ⟨run_featureRenamed, fun h => ?_⟩
  have hm : meets .bare featureRenamed.2.features waiting = false := by decide
  rw [h.active "rule" waiting rfl] at hm
  cases hm

end ClusterRegistry.Clusters
