import ClusterRegistry.Members.Instances

/-!
# Which clusters stay connected, and with which credentials

A reconcile call for a name, run alone in a reachable state. A deleted, local
or disabled cluster and one whose secret cannot be read are disconnected; a
resource without a secret reference is left as it is. An instance is replaced
when it is alive and its credentials are not the current ones.
-/

namespace ClusterRegistry.Members

open Lib Lib.Code

/-- No call for the name is in progress. -/
def Pool.Free {workers : Nat} (p : Pool workers) (n : String) : Prop :=
  ∀ i c, p.jobs i ≠ some (n, c)

theorem tidy_of_free {workers : Nat} {tr : List (Pool workers × Pool.Act workers)}
    {p : Pool workers} (h : Run (pool workers) tr p) {n : String} (hn : p.Free n) :
    (p.world.view n).Tidy := (guarded_of_run h).free n hn

variable (env : Env) {w : World} {n : String} {c : ClusterObject} {kubeconfig : String}

/-- The secret can be read in the call, and holds the kubeconfig. -/
def Readable (w : World) (ref : NamespacedName) (kubeconfig : String) : Prop :=
  env.secret = none ∧ ∃ secret, w.secrets.lookup ref = some secret ∧
    secret.type = secretTypeClusterRegistry ∧ secret.data.lookup kubeconfigKey = some kubeconfig

theorem run_getK8SConfigForCluster (ref : NamespacedName) (w : World) :
    (∃ kubeconfig, Readable env w ref kubeconfig ∧
      (getK8SConfigForCluster env ref).run w = (.ok kubeconfig, w)) ∨
    ∃ e, (getK8SConfigForCluster env ref).run w = (.error e, w) := by
  unfold getK8SConfigForCluster Readable
  rw [run_answer]
  cases env.secret with
  | some e => exact .inr ⟨_, rfl⟩
  | none =>
    cases hs : w.secrets.lookup ref with
    | none => exact .inr ⟨_, rfl⟩
    | some secret =>
      by_cases ht : secret.type = secretTypeClusterRegistry
      · cases hd : secret.data.lookup kubeconfigKey with
        | none => exact .inr ⟨errInvalidSecretContent, by simp [ht, hd]⟩
        | some content => exact .inl ⟨content, ⟨rfl, secret, rfl, ht, hd⟩, by simp [ht, hd]⟩
      · exact .inr ⟨errInvalidSecret, by simp [ht]⟩

theorem Readable.run {ref : NamespacedName} (h : Readable env w ref kubeconfig) :
    (getK8SConfigForCluster env ref).run w = (.ok kubeconfig, w) := by
  obtain ⟨hf, secret, hs, ht, hd⟩ := h
  unfold getK8SConfigForCluster
  rw [run_answer, hf]
  simp [hs, ht, hd]

/-- The resource as `getRemoteCluster` gets it. -/
def ClusterObject.restarted (c : ClusterObject) : ClusterObject :=
  { c with status := c.status.reset }

theorem run_reconcileRemoteCluster {d : Draft} (hs : d.cluster.spec.lacksSecret = false)
    (w : World) :
    ∃ r, (reconcileRemoteCluster env d).run w =
      (.ok r, ((getRemoteCluster env d.cluster).run w).2) := by
  unfold reconcileRemoteCluster
  dsimp only
  have hs' : (d.setCondition env.now (localClusterCondition false)).cluster.spec.lacksSecret =
    false := hs
  rw [hs', if_neg (by simp)]
  rcases hr : (getRemoteCluster env d.cluster).run w with ⟨r | r, w'⟩
  · exact ⟨_, run_attempt_bind hr _⟩
  · exact ⟨_, run_attempt_bind hr _⟩

/-- An enabled remote cluster with a secret reference: what happens to the
connections is decided by `getRemoteCluster`. -/
theorem connections_reconcileAs (hd : c.disabled = false) (hs : c.spec.lacksSecret = false)
    (w : World) :
    ((reconcileAs env false c).run w).2.connections () =
      ((getRemoteCluster env c.restarted).run w).2.connections () := by
  rw [reconcileAs_remote env hd]
  obtain ⟨r, hr⟩ := run_reconcileRemoteCluster env
    (d := ⟨c.restarted, getCurrentConditions c.status.conditions, []⟩) hs w
  have hrun : (reconcileEnabled env false
      ⟨c.restarted, getCurrentConditions c.status.conditions, []⟩).run w =
        (finishReconcile env false r.1 (r.2.setCondition env.now (clusterReadyCondition none))).run
          ((getRemoteCluster env c.restarted).run w).2 := run_bind_ok hr _
  exact (congrArg (fun p => World.connections () (Prod.snd p)) hrun).trans
    ((quiet_finishReconcile env false r.1 _).ends (k := ()) _)

/-- Without a secret reference nothing happens at all. -/
theorem run_reconcileAs_lacksSecret (hd : c.disabled = false) (hs : c.spec.lacksSecret = true)
    (w : World) : (reconcileAs env false c).run w = (.ok (), w) := by
  rw [reconcileAs_remote env hd]
  have hrun : ∀ d : Draft, d.cluster.spec = c.spec →
      reconcileEnabled env false d = pure () := by
    intro d hspec
    unfold reconcileEnabled reconcileRemoteCluster
    have hs' : (d.setCondition env.now (localClusterCondition false)).cluster.spec.lacksSecret =
      true := hspec ▸ hs
    simp only [Bool.false_eq_true, if_false, hs', if_true]
    rfl
  rw [hrun _ rfl]
  rfl

/-! ## Who stays connected -/

/-- The resource is there, remote, enabled, and refers to a secret that can be
read and holds a kubeconfig. -/
def Eligible (w : World) (n : String) : Prop :=
  ∃ c, w.clusters.get n = some c ∧ c.spec.clusterID ≠ w.localID ∧ c.disabled = false ∧
    c.spec.lacksSecret = false ∧ ∃ kubeconfig, Readable env w c.spec.secretRef kubeconfig

/-- A remote, enabled resource that was read refers to no secret, and an
instance is registered under its name. -/
def LeftConnected (w : World) (n : String) : Prop :=
  env.get = none ∧ (∃ c, w.clusters.get n = some c ∧ c.spec.clusterID ≠ w.localID ∧
    c.disabled = false ∧ c.spec.lacksSecret = true) ∧ w.manager.lookup n ≠ none

/-- If the secret cannot be read, the instance is removed. -/
theorem run_getRemoteCluster_unreadable {e : Failure}
    (he : (getK8SConfigForCluster env c.spec.secretRef).run w = (.error e, w)) :
    (getRemoteCluster env c).run w =
      ((removeExisting (w.manager.lookup c.name)).mapError (·, .invalidAuthInfo) >>=
        fun _ => fail (e.wrapAsPermanentError, .invalidAuthInfo)).run w :=
  (run_bind_ok (a := w.manager.lookup c.name) (t := w) rfl _).trans (run_attempt_bind he _)

theorem vacant_getRemoteCluster (ht : (w.view c.name).Tidy)
    (hs : ∀ kubeconfig, ¬Readable env w c.spec.secretRef kubeconfig) :
    (((getRemoteCluster env c).run w).2.view c.name).Vacant := by
  obtain ⟨kubeconfig, hr, -⟩ | ⟨e, he⟩ := run_getK8SConfigForCluster env c.spec.secretRef w
  · exact absurd hr (hs kubeconfig)
  have hvacant : Sees World.view c.name (View.Found (w.manager.lookup c.name))
      ((removeExisting (w.manager.lookup c.name)).mapError (·, .invalidAuthInfo) >>=
        fun _ => fail (e.wrapAsPermanentError, .invalidAuthInfo) :
          Code World (Failure × ClusterState) Nat) fun _ v => v.Vacant :=
    Sees.bind sees_removeExisting.rename (fun _ _ h => h) fun _ => Sees.fail fun _ h => h
  rw [run_getRemoteCluster_unreadable env he]
  exact hvacant.ends ⟨ht, rfl⟩

/-- A call that returns without error leaves an instance registered only for
an enabled remote cluster. -/
theorem remote_of_registered {w' : World} (ht : (w.view n).Tidy)
    (hok : (reconcile env n).run w = (.ok (), w')) (hreg : w'.manager.lookup n ≠ none) :
    ∃ c, env.get = none ∧ w.clusters.get n = some c ∧ c.spec.clusterID ≠ w.localID ∧
      c.disabled = false ∧ (reconcileAs env false c).run w.identified = (.ok (), w') := by
  rcases run_reconcile env n w with ⟨-, e, he⟩ | hrun
  · rw [he] at hok
    cases hok
  rw [hrun] at hok
  cases hread : w.readCluster env n with
  | error e =>
    have hgone : Sees World.view n View.Tidy (reconcileRead env n (.error e)) fun r v =>
        r = .ok () → v.registered = none := by
      unfold reconcileRead
      dsimp only
      split
      · refine Sees.bind sees_removeIfFound (fun _ _ h _ => h.2) fun _ => ?_
        exact (Aside.sees (quiet_triggerLocalClusterReconciles env)).post fun _ _ h _ => h.2
      · exact Sees.fail fun _ _ => nofun
    rw [hread] at hok
    exact absurd (hgone.final (s := w.identified) ht hok rfl) hreg
  | ok c =>
    obtain ⟨hget, hc⟩ := (readCluster_eq_ok env).mp hread
    rw [run_reconcileRead env hread] at hok
    have hkept := (sees_reconcileAs env _ (Table.key_of_get hc)).final (s := w.identified) ht hok
    have hremote : c.spec.clusterID ≠ w.localID := fun e =>
      hreg (hkept.2 (.inl (decide_eq_true e)))
    have hd : c.disabled = false := Bool.eq_false_iff.mpr fun e => hreg (hkept.2 (.inr e))
    rw [decide_eq_false hremote] at hok
    exact ⟨c, hget, hc, hremote, hd, hok⟩

/-- **Only eligible clusters stay connected**: a call that returns without
error leaves an instance registered under its name only if the resource is
eligible, unless it left a registered instance alone because the resource does
not refer to a secret. -/
theorem registered_eligible_iff (workers : Nat) (tr : List (Pool workers × Pool.Act workers))
    (p : Pool workers) (h : Run (pool workers) tr p) (n : String) (hn : p.Free n) (env : Env)
    (w' : World) (hok : (reconcile env n).run p.world = (.ok (), w')) :
    (w'.manager.lookup n ≠ none → Eligible env p.world n) ↔ ¬LeftConnected env p.world n := by
  have ht := tidy_of_free h hn
  constructor
  · rintro himp ⟨hget, ⟨c, hc, hremote, hd, hs⟩, hreg⟩
    have hread := (readCluster_eq_ok env).mpr ⟨hget, hc⟩
    rcases run_reconcile env n p.world with ⟨-, e, he⟩ | hrun
    · rw [he] at hok
      cases hok
    rw [hrun, run_reconcileRead env hread, decide_eq_false hremote,
      run_reconcileAs_lacksSecret env hd hs] at hok
    cases hok
    obtain ⟨c', hc', -, -, hs', -⟩ := himp hreg
    cases hc.symm.trans hc'
    exact absurd (hs.symm.trans hs') (by simp)
  · intro hnot hreg
    obtain ⟨c, hget, hc, hremote, hd, hrun⟩ := remote_of_registered env ht hok hreg
    by_cases hs : c.spec.lacksSecret = true
    · rw [run_reconcileAs_lacksSecret env hd hs] at hrun
      cases hrun
      exact absurd ⟨hget, ⟨c, hc, hremote, hd, hs⟩, hreg⟩ hnot
    · have hs' : c.spec.lacksSecret = false := Bool.eq_false_iff.mpr hs
      by_contra hne
      have hunread : ∀ kubeconfig, ¬Readable env p.world c.spec.secretRef kubeconfig :=
        fun kubeconfig hr => hne ⟨c, hc, hremote, hd, hs', kubeconfig, hr⟩
      have hname : c.name = n := Table.key_of_get hc
      have hgone := vacant_getRemoteCluster env (w := p.world.identified) (c := c.restarted)
        (by exact hname ▸ ht) hunread
      have hconn := congrArg Prod.fst (connections_reconcileAs env hd hs' p.world.identified)
      rw [hrun] at hconn
      have hlook : w'.manager.lookup c.name = none := by
        rw [show w'.manager = _ from hconn]
        exact hgone.2
      exact hreg (hname ▸ hlook)

/-- The cluster is connected, and then the secret is taken out of the resource. -/
def orphaned : World :=
  { joined.2.world with
    clusters := Table.empty.put { peer "a" "s" with spec := { clusterID := "remote" } } }

theorem registered_eligible_iff_joined :
    ((reconcile .smooth "a").run joining).2.manager.lookup "a" ≠ none ∧
      Eligible .smooth joining "a" := by
  have hreg : ((reconcile .smooth "a").run joining).2.manager.lookup "a" ≠ none := by decide +kernel
  refine ⟨hreg, (registered_eligible_iff 1 [] ⟨joining, fun _ => none⟩ (.init ?_) "a" nofun .smooth
    _ rfl).mpr ?_ hreg⟩
  · exact ⟨fun _ => rfl, rfl, rfl⟩
  · rintro ⟨-, -, h⟩
    exact h rfl

theorem run_joined_others {w : World} (h : Pool.Spared joined.2.world w) :
    Run (pool 1) ((joined.2, .others w) :: joined.1) ⟨w, joined.2.jobs⟩ :=
  .step (Pool.Act.others w) run_joined h

theorem registered_not_eligible_orphaned :
    Run (pool 1) ((joined.2, .others orphaned) :: joined.1) ⟨orphaned, joined.2.jobs⟩ ∧
    (∀ i, joined.2.jobs i = none) ∧ ((reconcile .smooth "a").run orphaned).1 = .ok () ∧
    ((reconcile .smooth "a").run orphaned).2.manager.lookup "a" ≠ none ∧
    ¬Eligible .smooth orphaned "a" := by
  refine ⟨run_joined_others ⟨rfl, rfl⟩, idle_joined, rfl, by decide +kernel, ?_⟩
  rintro ⟨c, hc, -, -, hs, -⟩
  have hc' : some { peer "a" "s" with spec := { clusterID := "remote" } } = some c := hc
  cases hc'
  exact absurd hs (by decide)

/-! ## Which credentials are in use -/

/-- The instance was made with these credentials. -/
def Instance.MadeWith (i : Instance) (ref : NamespacedName) (kubeconfig : String) : Prop :=
  i.secretID = some ref.string ∧ i.kubeconfig = kubeconfig

/-- No instance with other credentials is registered under the name. -/
def Current (w : World) (n : String) (ref : NamespacedName) (kubeconfig : String) : Prop :=
  ∀ id i, w.manager.lookup n = some id → w.instances[id]? = some i → i.MadeWith ref kubeconfig

theorem Current.of_none {ref : NamespacedName} (h : w.manager.lookup n = none) :
    Current w n ref kubeconfig := fun id i hid => absurd (h.symm.trans hid) (by simp)

/-- The whole state as a view, for a call run alone. -/
def whole (_ : Unit) (w : World) : World := w

/-- Nothing is registered yet, and the instance was made with the credentials. -/
def Prepared (n : String) (ref : NamespacedName) (kubeconfig : String) (id : Nat) (w : World) :
    Prop :=
  w.manager.lookup n = none ∧ ∃ i, w.instances[id]? = some i ∧ i.MadeWith ref kubeconfig

theorem prepared_newInstance (config : RestConfig) :
    Sees whole () (fun w => w.manager.lookup n = none) (newInstance c kubeconfig config)
      fun r w => ∃ id, r = .ok id ∧ Prepared n c.spec.secretRef kubeconfig id w := by
  refine Sees.sect (B := fun s => Prepared n c.spec.secretRef kubeconfig s.instances.length) ?_ ?_
  · intro w hw
    refine ⟨fun _ h => absurd rfl h, hw, ⟨c.name, some c.spec.secretRef.string, kubeconfig,
      config, "", false, false, false⟩, ?_, rfl, rfl⟩
    simp [whole]
  · exact fun w => Sees.pure fun w' hw' => ⟨_, rfl, hw'⟩

theorem prepared_startInstance {ref : NamespacedName} {id : Nat} :
    Sees whole () (Prepared n ref kubeconfig id) (startInstance env id)
      fun _ => Prepared n ref kubeconfig id := by
  unfold startInstance
  cases env.livenessCheck with
  | error e => exact Sees.fail fun _ h => h
  | ok uid =>
    refine Sees.write ?_
    rintro w ⟨hw, i, hi, hm⟩
    refine ⟨fun _ h => absurd rfl h, hw, i.start uid, ?_, hm⟩
    have hi' : w.instances[id]? = some i := hi
    simp [whole, hi']

theorem current_managerAdd {ref : NamespacedName} {id : Nat} :
    Sees whole () (Prepared n ref kubeconfig id) (managerAdd id)
      fun _ w => Current w n ref kubeconfig := by
  refine Sees.write ?_
  rintro w ⟨hw, i, hi, hm⟩
  refine ⟨fun _ h => absurd rfl h, ?_⟩
  intro id' i' hid' hi'
  have hi₀ : w.instances[id]? = some i := hi
  simp only [whole, hi₀] at hid' hi'
  rw [Map.lookup_insert_if] at hid'
  split at hid'
  · cases hid'
    cases hi₀.symm.trans hi'
    exact hm
  · exact absurd (hw.symm.trans hid') (by simp)

/-- An instance that is registered anew has the credentials of the call. -/
theorem current_buildInstance :
    Sees whole () (fun w => w.manager.lookup n = none) (buildInstance env c kubeconfig)
      fun _ w => Current w n c.spec.secretRef kubeconfig := by
  have hquiet : ∀ fault, Quiet whole (outcome fault) := fun fault => by
    cases fault <;> exact trivial
  unfold buildInstance
  refine Sees.bind (Quiet.ofExcept _).mapError.sees (fun _ _ => Current.of_none) fun _ => ?_
  refine Sees.bind (Quiet.ofExcept _).mapError.sees (fun _ _ => Current.of_none) fun _ => ?_
  refine Sees.bind (Quiet.ofExcept _).mapError.sees (fun _ _ => Current.of_none) fun config => ?_
  refine Sees.bind (hquiet _).mapError.sees (fun _ _ => Current.of_none) fun _ => ?_
  refine Sees.bindOk (B := fun id w => Prepared n c.spec.secretRef kubeconfig id w)
    (prepared_newInstance config) fun id => ?_
  refine Sees.bind (hquiet _).mapError.sees (fun _ _ h => Current.of_none h.1) fun _ => ?_
  refine Sees.bind (hquiet _).mapError.sees (fun _ _ h => Current.of_none h.1) fun _ => ?_
  refine Sees.bind (prepared_startInstance env).rename (fun _ _ h => Current.of_none h.1)
    fun _ => ?_
  exact Sees.bind current_managerAdd (fun _ _ h => h) fun _ => Sees.pure fun _ h => h

/-- What `getRemoteCluster` makes of the registered instance. -/
def Replaced (w : World) (n : String) (ref : NamespacedName) (kubeconfig : String) : Prop :=
  ∀ id i, w.manager.lookup n = some id → w.instances[id]? = some i →
    i.MadeWith ref kubeconfig ∨ i.alive = true ∧ credentialsChanged i ref.string kubeconfig = true

theorem run_managerRemove {id : Nat} {i : Instance} (hi : w.instances[id]? = some i)
    (hr : w.manager.lookup i.name ≠ none) :
    (managerRemove id).run w = (.ok (), w.remove id i.name) := by
  have hfound : (w.instances[id]?).filter (fun i => (w.manager.lookup i.name).isSome) = some i := by
    rw [hi, Option.filter_some, if_pos (Option.isSome_iff_ne_none.mpr hr)]
  exact run_bind_ok (a := some i) (t := w) (congrArg (fun o => (Except.ok o, w)) hfound) _

/-- With a readable secret and an instance registered, all depends on the
instance. -/
theorem run_getRemoteCluster_registered {id : Nat} {i : Instance}
    (hr : Readable env w c.spec.secretRef kubeconfig) (hid : w.manager.lookup c.name = some id)
    (hi : w.instances[id]? = some i) :
    (getRemoteCluster env c).run w =
      (if !i.alive then
        fail ((Failure.new "remote cluster is not alive").wrapAsPermanentError, c.status.state)
      else if !credentialsChanged i c.spec.secretRef.string kubeconfig then pure id
      else do
        (managerRemove id).mapError (·, c.status.state)
        (buildInstance env c kubeconfig).mapError (·, c.status.state)).run w := by
  unfold getRemoteCluster
  rw [run_bind_ok (a := w.manager.lookup c.name) (t := w) rfl,
    run_attempt_bind (Readable.run env hr)]
  simp only [hid]
  rw [run_bind_ok (a := some i) (t := w) (congrArg (fun o => (Except.ok o, w)) hi)]

/-- With a readable secret, a live instance is replaced if its credentials
are seen to have changed, and any other instance is left alone. -/
theorem current_getRemoteCluster_iff (ht : (w.view c.name).Tidy)
    (hr : Readable env w c.spec.secretRef kubeconfig) :
    Current ((getRemoteCluster env c).run w).2 c.name c.spec.secretRef kubeconfig ↔
      Replaced w c.name c.spec.secretRef kubeconfig := by
  have hbuild : ∀ w : World, w.manager.lookup c.name = none → Current
      (((buildInstance env c kubeconfig).mapError (·, c.status.state)).run w).2 c.name
        c.spec.secretRef kubeconfig :=
    fun w hw => (current_buildInstance env).rename.ends (s := w) hw
  by_cases hnone : w.manager.lookup c.name = none
  · unfold getRemoteCluster
    rw [run_bind_ok (a := w.manager.lookup c.name) (t := w) rfl,
      run_attempt_bind (Readable.run env hr)]
    simp only [hnone]
    exact iff_of_true (hbuild w hnone) fun id i hid => absurd (hnone.symm.trans hid) (by simp)
  obtain ⟨id, hid⟩ := Option.ne_none_iff_exists'.mp hnone
  obtain ⟨i, hi, hname⟩ := ownInstance_ne_none (ht.registered_own id hid)
  have honly : ∀ {P : Instance → Prop}, (∀ id i, w.manager.lookup c.name = some id →
      w.instances[id]? = some i → P i) ↔ P i := by
    intro P
    refine ⟨fun h => h id i hid hi, fun h id' i' hid' hi' => ?_⟩
    cases hid.symm.trans hid'
    cases hi.symm.trans hi'
    exact h
  rw [run_getRemoteCluster_registered env hr hid hi]
  unfold Replaced
  rw [honly]
  have hleft : Current w c.name c.spec.secretRef kubeconfig ↔
      i.MadeWith c.spec.secretRef kubeconfig := honly
  by_cases halive : i.alive = true
  · rw [if_neg (by simp [halive])]
    by_cases hchanged : credentialsChanged i c.spec.secretRef.string kubeconfig = true
    · have hremoved : (managerRemove id).run w = (.ok (), w.remove id c.name) := by
        rw [run_managerRemove hi (hname ▸ hnone), hname]
      rw [if_neg (by simp [hchanged]), run_bind_ok (a := ()) (t := w.remove id c.name)
        ((run_mapError _ _ _).trans (by rw [hremoved]; rfl))]
      refine iff_of_true (hbuild _ ?_) (.inr ⟨halive, hchanged⟩)
      exact (Map.lookup_erase_if _ _ _).trans (if_pos rfl)
    · rw [if_pos (by simp [hchanged])]
      exact hleft.trans ⟨.inl, fun h => h.resolve_right fun h' => hchanged h'.2⟩
  · rw [if_pos (by simp [halive])]
    exact hleft.trans ⟨.inl, fun h => h.resolve_right fun h' => halive h'.1⟩

/-- The connections after a call for an enabled remote cluster are those that
`getRemoteCluster` leaves. -/
theorem connections_reconcile {env : Env} {n : String} {w : World} {c : ClusterObject}
    (hid : w.clusterID = "" → env.getClusterID = none) (hget : env.get = none)
    (hc : w.clusters.get n = some c) (hremote : c.spec.clusterID ≠ w.localID)
    (hd : c.disabled = false) (hs : c.spec.lacksSecret = false) :
    ((reconcile env n).run w).2.connections () =
      ((getRemoteCluster env c.restarted).run w.identified).2.connections () := by
  rcases run_reconcile env n w with ⟨⟨hnew, hid'⟩, -⟩ | hrun
  · exact absurd (hid hnew) hid'
  · rw [hrun, run_reconcileRead env ((readCluster_eq_ok env).mpr ⟨hget, hc⟩),
      decide_eq_false hremote]
    exact connections_reconcileAs env hd hs w.identified

/-- **Rotated credentials take effect**: after a call for an enabled remote
cluster whose secret can be read, no instance with other credentials is
registered, exactly if the one registered before had these credentials, or
was alive and seen to have others. -/
theorem credentials_current_iff (workers : Nat) (tr : List (Pool workers × Pool.Act workers))
    (p : Pool workers) (h : Run (pool workers) tr p) (n : String) (hn : p.Free n) (env : Env)
    (hid : p.world.clusterID = "" → env.getClusterID = none) (hget : env.get = none)
    (c : ClusterObject) (hc : p.world.clusters.get n = some c)
    (hremote : c.spec.clusterID ≠ p.world.localID) (hd : c.disabled = false)
    (hs : c.spec.lacksSecret = false) (kubeconfig : String)
    (hr : Readable env p.world c.spec.secretRef kubeconfig) :
    Current ((reconcile env n).run p.world).2 n c.spec.secretRef kubeconfig ↔
      Replaced p.world n c.spec.secretRef kubeconfig := by
  have hname : c.name = n := Table.key_of_get hc
  have hconn := connections_reconcile hid hget hc hremote hd hs
  have hiff := current_getRemoteCluster_iff env (w := p.world.identified) (c := c.restarted)
    (by exact hname ▸ tidy_of_free h hn) hr
  subst hname
  unfold Current at hiff ⊢
  rw [show World.manager _ = _ from congrArg Prod.fst hconn,
    show World.instances _ = _ from congrArg Prod.snd hconn]
  exact hiff

/-- The cluster is connected, and then the secret gets another kubeconfig. -/
def rotated (alive : Bool) : World :=
  { joined.2.world with
    secrets := kubeconfigs [("s", "rotated")]
    instances := joined.2.world.instances.map fun i => { i with alive := alive } }

theorem run_rotated (alive : Bool) :
    Run (pool 1) ((joined.2, .others (rotated alive)) :: joined.1)
      ⟨rotated alive, joined.2.jobs⟩ := run_joined_others ⟨rfl, rfl⟩

theorem readable_rotated (alive : Bool) : Readable .smooth (rotated alive) ⟨"ns", "s"⟩ "rotated" :=
  ⟨rfl, _, rfl, rfl, rfl⟩

theorem credentials_current_iff_rotated :
    ((reconcile .smooth "a").run (rotated true)).2.manager.lookup "a" ≠ none ∧
      Current ((reconcile .smooth "a").run (rotated true)).2 "a" ⟨"ns", "s"⟩ "rotated" := by
  refine ⟨by decide +kernel, (credentials_current_iff 1 _ _ (run_rotated true) "a" ?_ .smooth
    (fun _ => rfl) rfl (peer "a" "s") rfl ?_ rfl rfl "rotated" (readable_rotated true)).mpr ?_⟩
  · exact fun i c hi => absurd ((idle_joined i).symm.trans hi) (by simp)
  · decide +kernel
  · intro id i hid hi
    have hid' : some 0 = some id := hid
    cases hid'
    cases hi
    exact .inr ⟨rfl, by decide +kernel⟩

theorem not_current_rotated :
    Run (pool 1) ((joined.2, .others (rotated false)) :: joined.1) ⟨rotated false, joined.2.jobs⟩ ∧
    (∀ i, joined.2.jobs i = none) ∧ (rotated false).clusters.get "a" = some (peer "a" "s") ∧
    Readable .smooth (rotated false) ⟨"ns", "s"⟩ "rotated" ∧
    ¬Current ((reconcile .smooth "a").run (rotated false)).2 "a" ⟨"ns", "s"⟩ "rotated" := by
  refine ⟨run_rotated false, idle_joined, rfl, readable_rotated false, fun h => ?_⟩
  have hkept := (h 0 _ rfl rfl).2
  exact absurd hkept (by decide +kernel)

end ClusterRegistry.Members
