import ClusterRegistry.Lib.Run
import ClusterRegistry.Members.Reconciler

/-!
# The instances that reconcile calls start and stop

A number of workers reconcile `Cluster` resources, never two of them the same
name. What the calls for one name see of the manager and the instances is a
`View` of its own: `Manager.Add` and `Manager.Remove` only touch the entry of
the instance's name, and a call only handles instances of its own name. So it
is enough that a call alone keeps its view `Tidy`.
-/

namespace ClusterRegistry.Members

open Lib Lib.Code

/-- What the calls for a name see: the registered instance, and for each
instance of that name whether it was started and stopped. -/
structure View where
  registered : Option Nat
  own : Nat → Option (Bool × Bool)

namespace World

def ownInstance (n : String) (w : World) (id : Nat) : Option (Bool × Bool) :=
  ((w.instances[id]?).filter (·.name = n)).map fun i => (i.started, i.stopped)

def view (n : String) (w : World) : View := ⟨w.manager.lookup n, w.ownInstance n⟩

/-- All that the views are made of. -/
def connections (_ : Unit) (w : World) : Map String Nat × List Instance :=
  (w.manager, w.instances)

end World

/-- A call that leaves the manager and the instances alone. -/
theorem Aside.sees {α ε : Type} {n : String} {c : Code World ε α}
    (h : Quiet World.connections c) {A : View → Prop} : Sees World.view n A c fun _ => A :=
  Quiet.sees (h.through (fun _ => ()) (fun n p =>
    ⟨p.1.lookup n, fun id => ((p.2[id]?).filter (·.name = n)).map fun i => (i.started, i.stopped)⟩)
    fun _ _ => rfl)

/-- The registered instance has the name, and every running instance of the
name is the registered one. -/
structure View.Tidy (v : View) : Prop where
  registered_own : ∀ id, v.registered = some id → v.own id ≠ none
  running : ∀ id, v.own id = some (true, false) → v.registered = some id

/-- Tidy with nothing registered, hence with nothing running. -/
def View.Vacant (v : View) : Prop := v.Tidy ∧ v.registered = none

def View.Holds (id : Nat) (v : View) : Prop := v.Tidy ∧ v.registered = some id

/-- Nothing is registered, and the instance has been made. -/
def View.Made (id : Nat) (v : View) : Prop := v.Vacant ∧ v.own id = some (false, false)

/-- Nothing is registered, and the instance is the only one that runs. -/
def View.Unlisted (id : Nat) (v : View) : Prop :=
  v.registered = none ∧ ∀ j, v.own j = some (true, false) ↔ j = id

theorem ownInstance_eq_some {n : String} {w : World} {id : Nat} {b : Bool × Bool} :
    w.ownInstance n id = some b ↔
      ∃ i, w.instances[id]? = some i ∧ i.name = n ∧ (i.started, i.stopped) = b := by
  simp only [World.ownInstance, Option.map_eq_some_iff, Option.filter_eq_some_iff,
    decide_eq_true_eq, and_assoc]

theorem ownInstance_ne_none {n : String} {w : World} {id : Nat} (h : w.ownInstance n id ≠ none) :
    ∃ i, w.instances[id]? = some i ∧ i.name = n := by
  obtain ⟨b, hb⟩ := Option.ne_none_iff_exists'.mp h
  obtain ⟨i, hi, hn, -⟩ := ownInstance_eq_some.mp hb
  exact ⟨i, hi, hn⟩

/-! ## Changes of an instance -/

/-- A change of one instance that keeps its name is seen under that name only. -/
theorem ownInstance_modify {w : World} {id : Nat} {i : Instance} {f : Instance → Instance}
    (hi : w.instances[id]? = some i) (hf : (f i).name = i.name) (n : String) (j : Nat) :
    World.ownInstance n { w with instances := w.instances.modify id f } j =
      if n = i.name ∧ j = id then some ((f i).started, (f i).stopped) else w.ownInstance n j := by
  simp only [World.ownInstance, List.getElem?_modify]
  by_cases hj : id = j
  · subst hj
    by_cases hn : i.name = n
    · simp [hi, hf, hn]
    · simp [hi, hf, hn, Ne.symm hn, Option.filter]
  · simp [hj, Ne.symm hj]

theorem ownInstance_append (w : World) (i : Instance) (n : String) (j : Nat) :
    World.ownInstance n { w with instances := w.instances ++ [i] } j =
      if j = w.instances.length ∧ i.name = n then some (i.started, i.stopped)
      else w.ownInstance n j := by
  unfold World.ownInstance
  by_cases hlt : j < w.instances.length
  · rw [List.getElem?_append_left hlt, if_neg (by omega)]
  · by_cases hj : j = w.instances.length
    · subst hj
      by_cases hn : i.name = n <;> simp [hn]
    · rw [if_neg (by tauto), List.getElem?_eq_none (by simp; omega),
        List.getElem?_eq_none (by omega)]

/-! ## The manager -/

section

variable {n : String} {id : Nat}

theorem view_of_ne {w w' : World} {n : String} (hm : w'.manager.lookup n = w.manager.lookup n)
    (ho : ∀ j, w'.ownInstance n j = w.ownInstance n j) : w'.view n = w.view n := by
  unfold World.view
  rw [hm, funext ho]

theorem view_remove {w : World} {i : Instance} (hi : w.instances[id]? = some i)
    (hr : w.manager.lookup i.name = some id) (ht : (w.view i.name).Tidy) :
    SameElsewhere World.view i.name w (w.remove id i.name) ∧
      ((w.remove id i.name).view i.name).Vacant := by
  have hown : ∀ n j, (w.remove id i.name).ownInstance n j =
      if n = i.name ∧ j = id then some (i.started, true) else w.ownInstance n j :=
    ownInstance_modify (f := Instance.stop) hi rfl
  have hman : ∀ n, (w.remove id i.name).manager.lookup n =
      if n = i.name then none else w.manager.lookup n := Map.lookup_erase_if _ _
  constructor
  · intro n hn
    refine view_of_ne ?_ fun j => ?_
    · rw [hman, if_neg hn]
    · rw [hown, if_neg (fun h => hn h.1)]
  · have hnone : (w.remove id i.name).manager.lookup i.name = none := by rw [hman, if_pos rfl]
    refine ⟨⟨fun j hj => ?_, fun j hj => ?_⟩, hnone⟩
    · exact absurd (hj.symm.trans hnone) (by simp)
    · have hj' : (w.remove id i.name).ownInstance i.name j = some (true, false) := hj
      rw [hown] at hj'
      split at hj'
      · simp at hj'
      · next h =>
        have hreg : w.manager.lookup i.name = some j := ht.running j hj'
        rw [hr] at hreg
        cases hreg
        exact absurd ⟨rfl, rfl⟩ h

/-- The registered instance is stopped and no longer registered. -/
theorem sees_managerRemove :
    Sees World.view n (View.Holds id) (managerRemove id)
      fun r v => r = .ok () ∧ v.Vacant := by
  refine Sees.bindRead (B := fun found v => (∃ i, found = some i ∧ i.name = n) ∧ View.Holds id v)
    ?_ fun found => Sees.given ?_
  · rintro w ⟨ht, hr⟩
    obtain ⟨i, hi, hn⟩ := ownInstance_ne_none (ht.registered_own id hr)
    have hlook : w.manager.lookup i.name = some id := hn ▸ hr
    refine ⟨⟨i, ?_, hn⟩, ht, hr⟩
    simp [hi, Option.filter, hlook]
  · rintro ⟨i, rfl, rfl⟩
    refine Sees.write ?_
    rintro w ⟨ht, hr⟩
    obtain ⟨j, hj, hjn⟩ := ownInstance_ne_none (ht.registered_own id hr)
    rw [← hjn] at ht hr ⊢
    obtain ⟨helse, hvac⟩ := view_remove hj hr ht
    exact ⟨helse, rfl, hvac⟩

theorem sees_removeRemoteCluster :
    Sees World.view n View.Tidy (removeRemoteCluster n) fun _ v => v.Vacant := by
  refine Sees.bindRead (B := fun found v => View.Tidy v ∧ v.registered = found)
    (fun w ht => ⟨ht, rfl⟩) fun found => ?_
  cases found with
  | none => exact Sees.fail fun v hv => hv
  | some id => exact (sees_managerRemove.pre fun v hv => hv).post fun _ _ h => h.2

theorem sees_removeIfFound :
    Sees World.view n View.Tidy (removeIfFound n) fun _ v => v.Vacant := by
  refine Sees.bindAttempt sees_removeRemoteCluster fun r => ?_
  cases r with
  | ok u => exact Sees.pure fun _ h => h
  | error e =>
    dsimp only
    split
    · exact Sees.fail fun _ h => h
    · exact Sees.pure fun _ h => h

/-! ## A new instance -/

theorem quiet_outcome (fault : Option Err) : Quiet World.connections (outcome fault) := by
  cases fault <;> exact trivial

theorem sees_newInstance {cluster : ClusterObject} (hn : cluster.name = n) (kubeconfig : String)
    (config : RestConfig) :
    Sees World.view n View.Vacant (newInstance cluster kubeconfig config)
      fun r v => ∃ id, r = .ok id ∧ v.Made id := by
  refine Sees.sect (B := fun s => View.Made s.instances.length) ?_
    fun s => Sees.pure fun v hv => ⟨_, rfl, hv⟩
  rintro w ⟨ht, hr⟩
  set w' : World := { w with instances := w.instances ++ [_] } with hw'
  have hown := ownInstance_append w
    ⟨cluster.name, some cluster.spec.secretRef.string, kubeconfig, config, "", false, false, false⟩
  have hown' : ∀ m j, w'.ownInstance m j =
      if j = w.instances.length ∧ cluster.name = m then some (false, false)
      else w.ownInstance m j := fun m j => hown m j
  refine ⟨fun m hm => view_of_ne rfl fun j => ?_, ⟨⟨?_, ?_⟩, hr⟩, ?_⟩
  · rw [hown', if_neg fun h => hm (h.2.symm.trans hn)]
  · intro j hj
    exact absurd (hj.symm.trans hr) (by simp)
  · intro j hj
    have hj' : w'.ownInstance n j = some (true, false) := hj
    rw [hown'] at hj'
    split at hj'
    · simp at hj'
    · exact ht.running j hj'
  · exact (hown' n _).trans (if_pos ⟨rfl, hn⟩)

theorem sees_startInstance (env : Env) :
    Sees World.view n (View.Made id) (startInstance env id) fun r v => match r with
      | .ok _ => v.Unlisted id
      | .error _ => v.Tidy := by
  unfold startInstance
  cases env.livenessCheck with
  | error e => exact Sees.fail fun v hv => hv.1.1
  | ok uid =>
    refine Sees.write ?_
    rintro w ⟨⟨ht, hr⟩, hmade⟩
    obtain ⟨i, hi, hn, hflags⟩ := ownInstance_eq_some.mp hmade
    have hown := ownInstance_modify (f := Instance.start uid) hi rfl
    refine ⟨fun m hm => view_of_ne rfl fun j => ?_, hr, fun j => ?_⟩
    · rw [hown, if_neg fun h => hm (h.1.trans hn)]
    · have hstopped : i.stopped = false := congrArg Prod.snd hflags
      have hj := hown n j
      show World.ownInstance n _ j = _ ↔ _
      rw [hj]
      by_cases e : j = id
      · simp [e, hn, Instance.start, hstopped]
      · rw [if_neg fun h => e h.2]
        refine iff_of_false (fun h => ?_) e
        exact absurd ((ht.running j h).symm.trans hr) (by simp)

theorem sees_managerAdd :
    Sees World.view n (View.Unlisted id) (managerAdd id) fun r v => r = .ok () ∧ v.Tidy := by
  refine Sees.write ?_
  rintro w ⟨hr, hrun⟩
  obtain ⟨i, hi, hn, -⟩ := ownInstance_eq_some.mp ((hrun id).mpr rfl)
  rw [hi]
  have hman := Map.lookup_insert_if w.manager i.name
  refine ⟨fun m hm => view_of_ne ?_ fun _ => rfl, rfl, ?_, ?_⟩
  · exact (hman m id).trans (if_neg fun h => hm (h.trans hn))
  · intro j hj
    have hj' : some id = some j := ((hman n id).trans (if_pos hn.symm)).symm.trans hj
    cases hj'
    exact fun h => absurd (h.symm.trans ((hrun id).mpr rfl)) (by simp)
  · intro j hj
    have e : j = id := (hrun j).mp hj
    exact e ▸ (hman n id).trans (if_pos hn.symm)

theorem sees_buildInstance (env : Env) {cluster : ClusterObject} (hn : cluster.name = n)
    (kubeconfig : String) :
    Sees World.view n View.Vacant (buildInstance env cluster kubeconfig) fun _ v => v.Tidy := by
  unfold buildInstance
  refine Sees.bind (Aside.sees (Quiet.ofExcept _).mapError) (fun _ _ h => h.1) fun _ => ?_
  refine Sees.bind (Aside.sees (Quiet.ofExcept _).mapError) (fun _ _ h => h.1) fun _ => ?_
  refine Sees.bind (Aside.sees (Quiet.ofExcept _).mapError) (fun _ _ h => h.1) fun _ => ?_
  refine Sees.bind (Aside.sees (quiet_outcome _).mapError) (fun _ _ h => h.1) fun _ => ?_
  refine Sees.bindOk (B := fun id v => View.Made id v) (sees_newInstance hn _ _) fun id => ?_
  refine Sees.bind (Aside.sees (quiet_outcome _).mapError) (fun _ _ h => h.1.1) fun _ => ?_
  refine Sees.bind (Aside.sees (quiet_outcome _).mapError) (fun _ _ h => h.1.1) fun _ => ?_
  refine Sees.bind (B := fun r v => match r with
      | .ok _ => View.Unlisted id v
      | .error _ => v.Tidy)
    (Sees.mapError ((sees_startInstance env).post fun r _ h => by cases r <;> exact h))
    (fun _ _ h => h) fun _ => ?_
  refine Sees.bind (sees_managerAdd.post fun _ _ h => h.2) (fun _ _ h => h) fun _ => ?_
  exact Sees.pure fun _ h => h

/-! ## The calls -/

theorem quiet_answer {α : Type} (fault : Option Err) (f : World → Except Failure α) :
    Quiet World.connections (answer fault f) := by
  refine Quiet.atomic fun w m => ?_
  cases fault <;> rfl

theorem quiet_getCluster (fault : Option Err) (name : String) :
    Quiet World.connections (getCluster fault name) := quiet_answer _ _

theorem quiet_listClusters (fault : Option Err) (order : Shuffle ClusterObject) :
    Quiet World.connections (listClusters fault order) := quiet_answer _ _

theorem quiet_updateStatus (fault : Option Err) (entry : StatusWrite) (obj : ClusterObject) :
    Quiet World.connections (updateStatus fault entry obj) := by
  refine Quiet.atomic fun w m => ?_
  cases fault with
  | some e => rfl
  | none =>
    dsimp only
    split
    · rfl
    · split <;> rfl

theorem quiet_updateClusterStatus (faults : UpdateFaults) (writer : Writer) (d : Draft) :
    Quiet World.connections (updateClusterStatus faults writer d) := by
  refine Quiet.bind (quiet_updateStatus _ _ _).attempt fun r => ?_
  cases r with
  | ok cluster => exact trivial
  | error e =>
    refine Quiet.ite ?_ trivial
    refine Quiet.bind (quiet_getCluster _ _).mapError fun _ => ?_
    exact Quiet.bind (quiet_updateStatus _ _ _).mapError fun _ => trivial

theorem quiet_updateCluster (faults : UpdateFaults) (order : Shuffle ClusterCondition)
    (writer : Writer) (reconcileError : Option Failure) (d : Draft) :
    Quiet World.connections (updateCluster faults order writer reconcileError d) := by
  cases reconcileError with
  | none => exact Quiet.bind (quiet_updateClusterStatus _ _ _) fun _ => trivial
  | some e =>
    exact Quiet.bind (quiet_updateClusterStatus _ _ _).attempt fun _ => Quiet.ite trivial trivial

section

variable (env : Env)

theorem quiet_finishReconcile (isClusterLocal : Bool) (reconcileError : Option Failure)
    (d : Draft) : Quiet World.connections (finishReconcile env isClusterLocal reconcileError d) :=
  Quiet.ite (Quiet.bind (quiet_updateCluster _ _ _ _ _) fun _ => trivial) trivial

theorem quiet_triggerClusterReconcile (cluster : ClusterObject) :
    Quiet World.connections (triggerClusterReconcile cluster) := Quiet.write fun _ _ => rfl

theorem quiet_triggerLocalClusterReconciles :
    Quiet World.connections (triggerLocalClusterReconciles env) :=
  Quiet.bind (quiet_listClusters _ _) fun _ => Quiet.write fun _ _ => rfl

theorem quiet_setClusterID : Quiet World.connections (setClusterID env) :=
  Quiet.bind (Quiet.read _) fun _ =>
    Quiet.ite (Quiet.bind (quiet_answer _ _).mapError fun _ => Quiet.write fun _ _ => rfl) trivial

theorem quiet_checkLocalClusterConflict (d : Draft) :
    Quiet World.connections (checkLocalClusterConflict env d) := by
  refine Quiet.bind (quiet_listClusters _ _).attempt fun r => ?_
  cases r with
  | error e => exact trivial
  | ok items =>
    dsimp only
    split
    · exact Quiet.ite (Quiet.bind (quiet_triggerClusterReconcile _) fun _ => trivial) trivial
    · exact trivial

theorem quiet_reconcileLocalCluster (d : Draft) :
    Quiet World.connections (reconcileLocalCluster env d) := by
  refine Quiet.bind (quiet_checkLocalClusterConflict env _) fun ⟨err, d⟩ => ?_
  refine Quiet.ite trivial ?_
  cases env.clusterMetadata with
  | error e => exact trivial
  | ok m =>
    dsimp only
    split <;> exact trivial

theorem quiet_getK8SConfigForCluster (ref : NamespacedName) :
    Quiet World.connections (getK8SConfigForCluster env ref) := quiet_answer _ _

/-- What the calls for the name start from, once they have looked. -/
def View.Found (found : Option Nat) (v : View) : Prop := v.Tidy ∧ v.registered = found

theorem sees_managerGet :
    Sees World.view n View.Tidy (managerGet n) fun r v => ∃ found, r = .ok found ∧ v.Found found :=
  Sees.read fun _ ht => ⟨_, rfl, ht, rfl⟩

theorem sees_removeExisting {found : Option Nat} :
    Sees World.view n (View.Found found) (removeExisting found) fun _ v => v.Vacant := by
  cases found with
  | none => exact Sees.pure fun _ h => h
  | some id => exact sees_managerRemove.post fun _ _ h => h.2

theorem sees_getRemoteCluster {cluster : ClusterObject} (hn : cluster.name = n) :
    Sees World.view n View.Tidy (getRemoteCluster env cluster) fun _ v => v.Tidy := by
  subst hn
  have hbuild : ∀ kubeconfig, Sees World.view cluster.name View.Vacant
      (buildInstance env cluster kubeconfig) fun _ v => v.Tidy := sees_buildInstance env rfl
  refine Sees.bindOk (B := fun found v => View.Found found v)
    (Sees.mapError (sees_managerGet.post fun r v h => ?_)) fun found => ?_
  · obtain ⟨found, rfl, hv⟩ := h
    exact ⟨found, rfl, hv⟩
  refine Sees.bind (Aside.sees (quiet_getK8SConfigForCluster env _).attempt) (fun _ _ h => h.1)
    fun r => ?_
  cases r with
  | error e =>
    refine Sees.bind sees_removeExisting.rename (fun _ _ h => h.1) ?_
    exact fun _ => Sees.fail fun _ h => h.1
  | ok kubeconfig =>
    cases found with
    | none => exact (hbuild kubeconfig).rename
    | some id =>
      refine Sees.bindRead (B := fun found v => (∃ i, found = some i) ∧ View.Holds id v)
        (fun w hw => ?_) fun found => Sees.given ?_
      · obtain ⟨i, hi, -⟩ := ownInstance_ne_none (hw.1.registered_own id hw.2)
        exact ⟨⟨i, hi⟩, hw⟩
      rintro ⟨i, rfl⟩
      dsimp only
      split
      · exact Sees.fail fun _ h => h.1
      split
      · exact Sees.pure fun _ h => h.1
      · refine Sees.bind (sees_managerRemove.post fun _ _ h => h.2).rename (fun _ _ h => h.1) ?_
        exact fun _ => (hbuild kubeconfig).rename

theorem sees_reconcileRemoteCluster {d : Draft} (hn : d.cluster.name = n) :
    Sees World.view n View.Tidy (reconcileRemoteCluster env d) fun _ v => v.Tidy := by
  unfold reconcileRemoteCluster
  dsimp only
  split
  · exact Sees.pure fun _ h => h
  · refine Sees.bindAttempt (sees_getRemoteCluster env hn) fun r => ?_
    cases r <;> exact Sees.pure fun _ h => h

/-- The status has just been reset to that of a peer, so that only a local
cluster gets to a call that may fail. -/
theorem sees_resetStatus (isClusterLocal : Bool) {cluster : ClusterObject}
    (hn : cluster.name = n) :
    Sees World.view n View.Tidy (resetStatus env isClusterLocal cluster) fun r v =>
      v.Tidy ∧ (isClusterLocal = true ∨ r.isOk = false → v.registered = none) := by
  subst hn
  cases isClusterLocal with
  | true =>
    refine Sees.bind sees_removeIfFound (fun _ _ h => ⟨h.1, fun _ => h.2⟩) fun _ => ?_
    exact Sees.pure fun _ h => ⟨h.1, fun _ => h.2⟩
  | false => exact Sees.pure fun _ h => ⟨h, nofun⟩

/-- A local or disabled cluster is not registered afterwards. -/
theorem sees_reconcileAs (isClusterLocal : Bool) {cluster : ClusterObject}
    (hn : cluster.name = n) :
    Sees World.view n View.Tidy (reconcileAs env isClusterLocal cluster) fun _ v =>
      v.Tidy ∧ (isClusterLocal = true ∨ cluster.disabled = true → v.registered = none) := by
  subst hn
  refine Sees.bind (sees_resetStatus env isClusterLocal rfl)
    (fun _ _ h => ⟨h.1, fun _ => h.2 (.inr rfl)⟩) fun status => ?_
  dsimp only
  split
  · refine Sees.bind (sees_removeIfFound.pre fun _ h => h.1) (fun _ _ h => ⟨h.1, fun _ => h.2⟩)
      fun _ => ?_
    refine Sees.bind (Aside.sees (quiet_updateCluster _ _ _ _ _)) (fun _ _ h => ⟨h.1, fun _ => h.2⟩)
      fun d => ?_
    exact (Aside.sees (quiet_finishReconcile env _ _ _)).post fun _ _ h => ⟨h.1, fun _ => h.2⟩
  · next hd =>
    cases isClusterLocal with
    | true =>
      refine Sees.bind (Aside.sees (quiet_reconcileLocalCluster env _)) ?_ fun p => ?_
      · exact fun _ _ h => ⟨h.1, fun _ => h.2 (.inl rfl)⟩
      · exact (Aside.sees (quiet_finishReconcile env _ _ _)).post
          fun _ _ h => ⟨h.1, fun _ => h.2 (.inl rfl)⟩
    | false =>
      refine Sees.bind (Sees.pre (sees_reconcileRemoteCluster env rfl) ?_) ?_ fun p => ?_
      · exact fun _ h => h.1
      · exact fun _ _ h => ⟨h, fun h' => (h'.elim nofun hd).elim⟩
      · exact (Aside.sees (quiet_finishReconcile env _ _ _)).post
          fun _ _ h => ⟨h, fun h' => (h'.elim nofun hd).elim⟩

theorem sees_reconcileCluster {cluster : ClusterObject} (hn : cluster.name = n) :
    Sees World.view n View.Tidy (reconcileCluster env cluster) fun _ v => v.Tidy :=
  Sees.bind (Aside.sees (Quiet.read _)) (fun _ _ h => h)
    fun _ => (sees_reconcileAs env _ hn).post fun _ _ h => h.1

theorem sees_getCluster (fault : Option Err) :
    Sees World.view n View.Tidy (getCluster fault n) fun r v =>
      (∀ c, r = .ok c → c.name = n) ∧ v.Tidy := by
  refine Sees.atomic fun w ht => ?_
  cases fault with
  | some e => exact ⟨fun _ _ => rfl, nofun, ht⟩
  | none =>
    refine ⟨fun _ _ => rfl, fun c hc => ?_, ht⟩
    dsimp only at hc
    split at hc
    · cases hc
    · next hget =>
      cases hc
      exact Table.key_of_get hget

theorem sees_reconcileRead {read : Except Failure ClusterObject}
    (hn : ∀ c, read = .ok c → c.name = n) :
    Sees World.view n View.Tidy (reconcileRead env n read) fun _ v => v.Tidy := by
  cases read with
  | ok cluster => exact sees_reconcileCluster env (hn cluster rfl)
  | error e =>
    unfold reconcileRead
    dsimp only
    split
    · refine Sees.bind (sees_removeIfFound.post fun _ _ h => h.1) (fun _ _ h => h) fun _ => ?_
      exact Aside.sees (quiet_triggerLocalClusterReconciles env)
    · exact Sees.fail fun _ h => h

/-- **One call**: whatever fails on the way, it leaves its view tidy. -/
theorem sees_reconcile : Sees World.view n View.Tidy (reconcile env n) fun _ v => v.Tidy := by
  refine Sees.bind (Aside.sees (quiet_setClusterID env)) (fun _ _ h => h) fun _ => ?_
  refine Sees.bind (B := fun r v => (∀ c, r = .ok (.ok c) → c.name = n) ∧ View.Tidy v)
    (Sees.attempt ((sees_getCluster env.get).post fun r _ h => ?_)) (fun _ _ h => h.2)
    fun r => Sees.given fun hr => ?_
  · exact ⟨fun c hc => h.1 c (Except.ok.inj hc), h.2⟩
  · exact sees_reconcileRead env fun c hc => hr c (congrArg _ hc)

end

end

/-! ## Workers -/

/-- The part of an instance that only the reconciler touches; a liveness check
changes the rest. -/
def Instance.fixed (i : Instance) : Instance := { i with alive := false, clusterID := "" }

/-- The workers of the controller, each with the call it is in. -/
structure Pool (workers : Nat) where
  world : World
  jobs : Fin workers → Option (String × Proc Unit)

namespace Pool

variable {workers : Nat}

inductive Act (workers : Nat) where
  /-- A worker takes a request from the queue. -/
  | begin (i : Fin workers) (name : String) (env : Env)
  /-- A worker gets on with its call. -/
  | turn (i : Fin workers)
  /-- Users and other components change what they like. -/
  | others (w : World)

def step (p : Pool workers) : Act workers → Pool workers
  | .begin i name env =>
    { p with jobs := Function.update p.jobs i (some (name, reconcile env name)) }
  | .turn i =>
    match p.jobs i with
    | some (name, sect upd next) =>
      ⟨upd p.world, Function.update p.jobs i ((next p.world).left name)⟩
    | _ => p
  | .others w => { p with world := w }

/-- The manager and its instances are left alone, liveness apart. -/
def Spared (w w' : World) : Prop :=
  w'.manager = w.manager ∧ w'.instances.map Instance.fixed = w.instances.map Instance.fixed

def Allowed (p : Pool workers) : Act workers → Prop
  | .begin i name _ => p.jobs i = none ∧ ∀ j c, p.jobs j ≠ some (name, c)
  | .turn _ => True
  | .others w => Spared p.world w

end Pool

/-- Nothing is registered or made at the start. -/
def pool (workers : Nat) : System (Pool workers) (Pool.Act workers) where
  init p := (∀ i, p.jobs i = none) ∧ p.world.manager = ∅ ∧ p.world.instances = []
  ok _ p a := p.Allowed a
  step := Pool.step

theorem view_of_spared {w w' : World} (h : Pool.Spared w w') (n : String) :
    w'.view n = w.view n := by
  have hfixed : ∀ (w : World) j, w.ownInstance n j =
      (((w.instances.map Instance.fixed)[j]?).filter (·.name = n)).map
        fun i => (i.started, i.stopped) := by
    intro w j
    rw [List.getElem?_map, World.ownInstance]
    cases w.instances[j]? with
    | none => rfl
    | some i => by_cases hn : i.name = n <;> simp [Option.filter, Instance.fixed, hn]
  refine view_of_ne (congrArg _ h.1) fun j => ?_
  rw [hfixed w', hfixed w, h.2]

/-- **One step** keeps every view tidy, or in the hands of the call that works
on it. -/
theorem guarded_step {workers : Nat} {p : Pool workers} {a : Pool.Act workers}
    (ha : p.Allowed a) (h : Guarded World.view View.Tidy p.jobs p.world) :
    Guarded World.view View.Tidy (p.step a).jobs (p.step a).world := by
  cases a with
  | begin i name env => exact h.begin ha.1 ha.2 (sees_reconcile env)
  | turn i =>
    unfold Pool.step
    dsimp only
    split
    · next hi => exact h.turn hi
    · exact h
  | others w => exact h.others (view_of_spared ha)

theorem guarded_of_run {workers : Nat} {tr : List (Pool workers × Pool.Act workers)}
    {p : Pool workers} (h : Run (pool workers) tr p) :
    Guarded World.view View.Tidy p.jobs p.world := by
  refine h.invariant (P := fun p => Guarded World.view View.Tidy p.jobs p.world) ?_ ?_
  · rintro p ⟨hidle, hm, hi⟩
    refine ⟨fun i j k c c' hj => ?_, fun i k c hj => ?_, fun n _ => ⟨fun id hid => ?_,
      fun id hid => ?_⟩⟩
    · exact absurd ((hidle i).symm.trans hj) (by simp)
    · exact absurd ((hidle i).symm.trans hj) (by simp)
    · have hid' : p.world.manager.lookup n = some id := hid
      simp [hm] at hid'
    · obtain ⟨i, hget, -⟩ := ownInstance_eq_some.mp hid
      simp [hi] at hget
  · exact fun _ p a _ ih ha => guarded_step ha ih

/-- **Neither leaked nor duplicate instances**: whenever no call is in
progress, a running instance is the one registered under its name, and there is
no other running instance of that name. -/
theorem running_registered (workers : Nat) (tr : List (Pool workers × Pool.Act workers))
    (p : Pool workers) (h : Run (pool workers) tr p) (hidle : ∀ i, p.jobs i = none) :
    ∀ id i, p.world.instances[id]? = some i → i.started = true → i.stopped = false →
      p.world.manager.lookup i.name = some id ∧
      ∀ id' i', p.world.instances[id']? = some i' → i'.started = true → i'.stopped = false →
        i'.name = i.name → id' = id := by
  have htidy : ∀ n, (p.world.view n).Tidy := fun n =>
    (guarded_of_run h).free n fun i c hi => absurd ((hidle i).symm.trans hi) (by simp)
  have hreg : ∀ id i, p.world.instances[id]? = some i → i.started = true → i.stopped = false →
      p.world.manager.lookup i.name = some id := by
    intro id i hi hs ht
    exact (htidy i.name).running id (ownInstance_eq_some.mpr ⟨i, hi, rfl, by rw [hs, ht]⟩)
  intro id i hi hs ht
  refine ⟨hreg id i hi hs ht, fun id' i' hi' hs' ht' hn => ?_⟩
  have e := (hreg id' i' hi' hs' ht').symm.trans (hn ▸ hreg id i hi hs ht)
  exact Option.some.inj e

/-- The secrets hold a kubeconfig each. -/
def kubeconfigs (contents : List (String × String)) : Map NamespacedName Secret :=
  contents.foldl (fun m p =>
    m.insert ⟨"ns", p.1⟩ ⟨secretTypeClusterRegistry, Finmap.singleton kubeconfigKey p.2⟩) ∅

def joining : World where
  clusters := Table.empty.put (peer "a" "s")
  secrets := kubeconfigs [("s", "token")]
  kubeSystemUID := "home"

/-- The only worker connects to the cluster. -/
def joined : List (Pool 1 × Pool.Act 1) × Pool 1 :=
  played (pool 1) [] ⟨joining, fun _ => none⟩
    (.begin 0 "a" .smooth :: List.replicate 10 (.turn 0))

theorem run_joined : Run (pool 1) joined.1 joined.2 := by
  refine .plays (.init ⟨fun _ => rfl, rfl, rfl⟩) ?_
  exact ⟨⟨rfl, nofun⟩, trivial, trivial, trivial, trivial, trivial, trivial, trivial, trivial,
    trivial, trivial, trivial⟩

theorem idle_joined (i : Fin 1) : joined.2.jobs i = none := by
  rw [Fin.fin_one_eq_zero i]
  rfl

theorem running_registered_joined :
    ∃ i, joined.2.world.instances = [i] ∧ i.started = true ∧
      joined.2.world.manager.lookup i.name = some 0 :=
  ⟨_, rfl, rfl, (running_registered 1 joined.1 joined.2 run_joined idle_joined 0 _ rfl rfl rfl).1⟩

end ClusterRegistry.Members
