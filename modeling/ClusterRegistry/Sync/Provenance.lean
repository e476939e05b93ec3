import ClusterRegistry.Sync.Copy
import ClusterRegistry.Sync.Fleet

/-!
# Where owners come from

Rules without overrides that leave the ownership key alone. Then the copy of
an object carries the owner that the object names, or else the cluster it was
read from, in annotation and label alike (`Desired.copy`). Over any run and
any number of hops this makes the owner of every copy a cluster that held the
original.
-/

namespace ClusterRegistry.Sync

open Lib Clusters

/-! ## The owner of a copy -/

/-- No overrides, and mutations that do not mention the ownership key. -/
def LeavesOwner (rule : ResourceSyncRule) : Prop :=
  ∀ r ∈ elems rule.spec.rules, elems r.mutations.overrides = [] ∧
    r.mutations.getLabels.Spares ownershipAnnotation ∧
    r.mutations.getAnnotations.Spares ownershipAnnotation

/-- The owner that a map names, or else the default. -/
def ownerOr (clusterID : String) (m : StringMap) : String :=
  if m.val ownershipAnnotation = "" then clusterID else m.val ownershipAnnotation

theorem ownedValue_owner (clusterID : String) (m : StringMap) :
    ownedValue clusterID ownershipAnnotation (m.lookup ownershipAnnotation) =
      some (ownerOr clusterID m) := by
  unfold ownedValue ownerOr StringMap.val
  cases m.lookup ownershipAnnotation with
  | none => simp
  | some v => by_cases hv : v = "" <;> simp [hv]

section

variable {x : External} {env : Env} {r : SyncReconciler} {current : Obj} {m : MatchedRules}

theorem lookup_mutateMeta
    (ha : ∀ s ∈ m, s.mutations.getAnnotations.Spares ownershipAnnotation) :
    (mutateMeta r current m).annotations.lookup ownershipAnnotation =
      some (ownerOr r.clusterID current.annotations) := by
  have hkeys : ownershipAnnotation ∉ managedAnnotations := by decide
  have hgvk : ownershipAnnotation ≠ originalGVKAnnotation := by decide
  rw [annotations_mutateMeta, if_neg hkeys, if_neg fun h => hgvk h.1, mutatedValue_spared ha,
    ownedValue_owner]

theorem lookup_labels_mutateMeta
    (hl : ∀ s ∈ m, s.mutations.getLabels.Spares ownershipAnnotation) :
    (mutateMeta r current m).labels.lookup ownershipAnnotation =
      some (ownerOr r.clusterID current.labels) := by
  rw [labels_mutateMeta, mutatedValue_spared hl, ownedValue_owner]

/-- **The copy names the owner of its source**, or else the cluster it was read
from, in annotation and label alike; name and namespace stay. -/
theorem Desired.copy {d : Obj} (h : Desired x env r m d) (hr : LeavesOwner r.rule) :
    ∃ stored, env.source = .ok stored ∧ stored.deletionTimestamp = none ∧
      r.rule.match x (sourceObj x r stored) = (true, m, none) ∧
      d = mutateMeta r (sourceObj x r stored) m ∧
      d.annotations.lookup ownershipAnnotation = some (ownerOr r.clusterID stored.annotations) ∧
      d.labels.lookup ownershipAnnotation = some (ownerOr r.clusterID stored.labels) := by
  obtain ⟨stored, hsrc, hdel, hmatch, hd⟩ := h
  have hm : ∀ s ∈ m, _ := fun s hs => hr s (ResourceSyncRule.match_subset hmatch s hs)
  rw [mutated_eq fun s hs => (hm s hs).1] at hd
  cases hd
  exact ⟨stored, hsrc, hdel, hmatch, rfl, lookup_mutateMeta fun s hs => (hm s hs).2.2,
    lookup_labels_mutateMeta fun s hs => (hm s hs).2.1⟩

end

/-! ## Provenance -/

/-- No ownership key, in annotations or labels. -/
def Unmarked (o : Obj) : Prop :=
  o.annotations.lookup ownershipAnnotation = none ∧ o.labels.lookup ownershipAnnotation = none

/-- Users leave the ownership key alone, and so do the rules; every reconciler
carries the ID of the cluster it reads. -/
def handsOff (x : External) : Setting where
  x := x
  init f := ∀ c k o, (f c).server.get k = some o → Unmarked o
  userCreate := Unmarked
  userUpdate cur o := o.annotations.lookup ownershipAnnotation =
      cur.annotations.lookup ownershipAnnotation ∧
    o.labels.lookup ownershipAnnotation = cur.labels.lookup ownershipAnnotation
  reconciler _ id r := LeavesOwner r.rule ∧ r.clusterID = id.remote ∧ id.remote ≠ ""

/-- In one of the states, the cluster held an object of that name without an owner. -/
def HeldOriginal (l : List Fleet) (c : String) (k : Key) : Prop :=
  ∃ t ∈ l, ∃ k' o', (t c).server.get k' = some o' ∧ k'.namespace = k.namespace ∧
    k'.name = k.name ∧ o'.annotations.lookup ownershipAnnotation = none

/-- The kind does not count. -/
theorem HeldOriginal.congr {l : List Fleet} {c : String} {k k' : Key} (h : HeldOriginal l c k)
    (hns : k'.namespace = k.namespace) (hname : k'.name = k.name) : HeldOriginal l c k' := by
  obtain ⟨t, ht, k₀, o, ho, hns₀, hname₀, hnone⟩ := h
  exact ⟨t, ht, k₀, o, ho, hns₀.trans hns.symm, hname₀.trans hname.symm, hnone⟩

/-- An original, or a copy whose owner held one. -/
def Traced (l : List Fleet) (k : Key) (o : Obj) : Prop :=
  Unmarked o ∨ ∃ v, o.annotations.lookup ownershipAnnotation = some v ∧
    o.labels.lookup ownershipAnnotation = some v ∧ v ≠ "" ∧ HeldOriginal l v k

theorem Traced.mono {l l' : List Fleet} (hl : ∀ t ∈ l, t ∈ l') {k : Key} {o : Obj}
    (h : Traced l k o) : Traced l' k o := by
  rcases h with h | ⟨v, ha, hlab, hne, t, ht, hk⟩
  · exact .inl h
  · exact .inr ⟨v, ha, hlab, hne, t, hl t ht, hk⟩

/-- Only the ownership key counts. -/
theorem Traced.congr {l : List Fleet} {k : Key} {o o' : Obj} (h : Traced l k o)
    (ha : o'.annotations.lookup ownershipAnnotation = o.annotations.lookup ownershipAnnotation)
    (hb : o'.labels.lookup ownershipAnnotation = o.labels.lookup ownershipAnnotation) :
    Traced l k o' := by
  rcases h with ⟨h1, h2⟩ | ⟨v, h1, h2, h3⟩
  · exact .inl ⟨ha.trans h1, hb.trans h2⟩
  · exact .inr ⟨v, ha.trans h1, hb.trans h2, h3⟩

theorem Traced.same {l : List Fleet} {k : Key} {o o' : Obj} (h : Traced l k o)
    (hm : SameMarks o o') : Traced l k o' :=
  h.congr (by rw [hm.annotations]) (by rw [hm.labels])

theorem ownerOr_of_lookup {clusterID v : String} {m : StringMap}
    (h : m.lookup ownershipAnnotation = some v) (hv : v ≠ "") : ownerOr clusterID m = v := by
  have : m.val ownershipAnnotation = v := by rw [StringMap.val, h]; rfl
  rw [ownerOr, this, if_neg hv]

theorem ownerOr_of_none {clusterID : String} {m : StringMap}
    (h : m.lookup ownershipAnnotation = none) : ownerOr clusterID m = clusterID := by
  have : m.val ownershipAnnotation = "" := by rw [StringMap.val, h]; rfl
  rw [ownerOr, this, if_pos rfl]

/-- **One hop**: the copy of a traced object is traced. -/
theorem Traced.copy {x : External} {env : Env} {r : SyncReconciler} {m : MatchedRules} {d : Obj}
    {l : List Fleet} {remote : String} {req : NamespacedName} {k : Key}
    (hd : Desired x env r m d) (hk : KeyOf d k) (hr : LeavesOwner r.rule)
    (hid : r.clusterID = remote) (hne : remote ≠ "")
    (hread : ∀ o, env.source = .ok o → ∃ t ∈ l,
      (t remote).server.get ⟨r.gvk, req.namespace, req.name⟩ = some o)
    (hl : ∀ t ∈ l, ∀ c k o, (t c).server.get k = some o → Traced l k o) : Traced l k d := by
  obtain ⟨stored, hsrc, -, -, hdm, ha, hb⟩ := hd.copy hr
  obtain ⟨t, ht, hget⟩ := hread stored hsrc
  have hkey := ApiServer.key_of_get hget
  have hns : k.namespace = req.namespace := by
    rw [hk.2.1, hdm]; exact congrArg Key.namespace hkey
  have hname : k.name = req.name := by
    rw [hk.2.2, hdm]; exact congrArg Key.name hkey
  rcases hl t ht remote _ stored hget with ⟨h1, h2⟩ | ⟨v, h1, h2, hv, hheld⟩
  · rw [ownerOr_of_none h1, hid] at ha
    rw [ownerOr_of_none h2, hid] at hb
    exact .inr ⟨remote, ha, hb, hne, t, ht, _, stored, hget, hns.symm, hname.symm, h1⟩
  · rw [ownerOr_of_lookup h1 hv] at ha
    rw [ownerOr_of_lookup h2 hv] at hb
    exact .inr ⟨v, ha, hb, hv, hheld.congr hns hname⟩

/-- Every object that the run has passed is traced. -/
theorem traced_of_run {x : External} {tr : List (Fleet × Act)} {f : Fleet}
    (h : Run (fleet (handsOff x)) tr f) :
    ∀ t ∈ states tr f, ∀ c k o, (t c).server.get k = some o → Traced (tr.map Prod.fst) k o := by
  refine h.history (P := fun tr f => ∀ t ∈ states tr f, ∀ c k o, (t c).server.get k = some o →
    Traced (tr.map Prod.fst) k o) ?_ ?_
  · rintro f ⟨hf, -⟩ t ht c k o ho
    obtain rfl := List.mem_singleton.mp ht
    exact .inl (hf c k o ho)
  · intro tr f a hrun ih hok t ht c k o ho
    have hmono : ∀ t ∈ tr.map Prod.fst, t ∈ f :: tr.map Prod.fst := fun t => List.mem_cons_of_mem f
    have hold : ∀ t ∈ f :: tr.map Prod.fst, ∀ c k o, (t c).server.get k = some o →
        Traced (f :: tr.map Prod.fst) k o := fun t ht c k o ho => (ih t ht c k o ho).mono hmono
    rcases List.mem_cons.mp ht with rfl | ht
    · rcases written hok ho with ⟨o₀, h₀, hm⟩ | ⟨o₀, hu, hm⟩ | ⟨cur, o₀, hc, hu, hm⟩ |
        ⟨id, req, env, r, d, rfl, hr, ⟨_, hd, hk, -⟩, hm⟩
      · exact (hold f List.mem_cons_self c k o₀ h₀).same hm
      · exact (Traced.same (.inl hu) hm)
      · exact ((hold f List.mem_cons_self c k cur hc).congr hu.1 hu.2).same hm
      · obtain ⟨-, -, r', hr', hread⟩ := hok
        obtain rfl := Option.some.inj (hr.symm.trans hr')
        obtain ⟨r₀, ⟨hleaves, hid, hne⟩, hs⟩ := reconcilers_of_run hrun hr
        rw [← hs.rule] at hleaves
        exact (Traced.copy hd hk hleaves (hs.clusterID.trans hid) hne hread.state hold).congr
          hm.owner hm.ownerLabel
    · exact hold t ht c k o ho

/-- **Every owner held the original.** In every run an object with an owner has
the same owner in annotation and label, it is not empty, and that cluster held
an object of the same namespace and name without an owner before. -/
theorem owner_held_original (x : External) (tr : List (Fleet × Act)) (f : Fleet)
    (h : Run (fleet (handsOff x)) tr f) (c : String) (k : Key) (o : Obj)
    (ho : (f c).server.get k = some o) (v : String)
    (hv : o.annotations.lookup ownershipAnnotation = some v) :
    o.labels.lookup ownershipAnnotation = some v ∧ v ≠ "" ∧
      HeldOriginal (tr.map Prod.fst) v k := by
  rcases traced_of_run h f List.mem_cons_self c k o ho with ⟨ha, -⟩ | ⟨w, ha, hb, hne, hheld⟩
  · rw [hv] at ha; cases ha
  · rw [hv] at ha; cases ha; exact ⟨hb, hne, hheld⟩

section

open Sample

theorem leavesOwner_rule : LeavesOwner rule := by
  intro r hr
  obtain rfl := List.mem_singleton.mp hr
  exact ⟨rfl, ⟨Finmap.notMem_empty, List.not_mem_nil⟩, ⟨Finmap.notMem_empty, List.not_mem_nil⟩⟩

/-- `L` copies an object from `A`. -/
def oneHop : List (Fleet × Act) × Fleet :=
  played (fleet (handsOff .bare)) [] (fun _ => {})
    [.userCreate "A" key obj, .start "L" ⟨"rule", "A"⟩ (syncing "L" "A"),
      .reconcile "L" ⟨"rule", "A"⟩ req { source := .ok stored, alive := (knows []).aliveByID }]

theorem owner_held_original_oneHop :
    (oneHop.2 "L").server.get key = some (copyOf "A") ∧
      HeldOriginal (oneHop.1.map Prod.fst) "A" key := by
  have hrun : Run (fleet (handsOff .bare)) oneHop.1 oneHop.2 := by
    refine .plays (.init ⟨fun c k o h => (by cases h), fun _ => ⟨rfl, rfl⟩⟩) ?_
    exact ⟨⟨rfl, rfl⟩, ⟨leavesOwner_rule, rfl, by decide⟩,
      ⟨nofun, rfl, _, rfl, ⟨_, List.mem_cons_self, rfl⟩⟩, trivial⟩
  have hget : (oneHop.2 "L").server.get key = some (copyOf "A") := by decide +kernel
  exact ⟨hget, (owner_held_original .bare _ _ hrun "L" key (copyOf "A") hget "A" (by decide)).2.2⟩

end

/-! ## Copies of one's own objects -/

/-- Where the client writes the copy that the matched rules make of the object
requested: a Go struct keeps its kind. -/
def copyKey (x : External) (r : SyncReconciler) (m : MatchedRules) (req : NamespacedName) :
    Key where
  gvk :=
    if x.inScheme r.gvk then r.gvk
    else if (m.getMutatedGVK r.gvk).1 then (m.getMutatedGVK r.gvk).2 else r.gvk
  «namespace» := req.namespace
  name := req.name

theorem key_of_copy {x : External} {r : SyncReconciler} {m : MatchedRules} {req : NamespacedName}
    {stored : Obj} {k : Key} (hs : stored.key = ⟨r.gvk, req.namespace, req.name⟩)
    (hk : KeyOf (mutateMeta r (sourceObj x r stored) m) k) : k = copyKey x r m req := by
  have hgvk : stored.gvk = r.gvk := congrArg Key.gvk hs
  have hns : k.namespace = req.namespace := hk.2.1.trans (congrArg Key.namespace hs)
  have hname : k.name = req.name := hk.2.2.trans (congrArg Key.name hs)
  have hkind : k.gvk = (copyKey x r m req).gvk := by
    have h := hk.1
    unfold gvkForObject at h
    simp only [mutateMeta, sourceObj, readInto, initObjectFromGVK, hgvk] at h
    simp only [copyKey]
    by_cases hi : x.inScheme r.gvk = true
    · simp only [hi, if_true, Except.ok.injEq] at h ⊢; exact h.symm
    · simp only [hi] at h ⊢
      simp only [Bool.false_eq_true, if_false] at h ⊢
      split_ifs at h <;> simp_all
  calc k = ⟨k.gvk, k.namespace, k.name⟩ := rfl
    _ = copyKey x r m req := by rw [hkind, hns, hname]; rfl

/-- Users leave the ownership annotation alone, and so do the rules; every
reconciler knows the IDs of the two clusters it works between. -/
def ownIDs (x : External) : Setting where
  x := x
  init f := ∀ c k o, (f c).server.get k = some o → o.annotations.lookup ownershipAnnotation = none
  userCreate o := o.annotations.lookup ownershipAnnotation = none
  userUpdate cur o := o.annotations.lookup ownershipAnnotation =
    cur.annotations.lookup ownershipAnnotation
  reconciler c id r := LeavesOwner r.rule ∧ r.clusterID = id.remote ∧ id.remote ≠ "" ∧
    id.remote ≠ c ∧ r.localClusterID = c

/-- A reconcile call reads a live, matching object that its own cluster owns,
while the local object in the place of the copy may be updated. -/
def Returning (x : External) (f : Fleet) : Act → Prop
  | .reconcile c id req env => ∃ r stored m cur, (f c).reconcilers.lookup id = some r ∧
      env.source = .ok stored ∧ stored.deletionTimestamp = none ∧ stored.owner = c ∧
      r.rule.match x (sourceObj x r stored) = (true, m, none) ∧
      (f c).server.get (copyKey x r m req) = some cur ∧ shouldUpdate env r cur = true
  | _ => False

/-- No object of a cluster is marked as owned by that cluster. -/
def NoSelfOwned (f : Fleet) : Prop :=
  ∀ c k o, (f c).server.get k = some o → o.annotations.lookup ownershipAnnotation ≠ some c

theorem shouldCreate_owner {env : Env} {r : SyncReconciler} {d : Obj}
    (h : shouldCreate env r d = true) : d.owner = "" ∨ r.localClusterID ≠ d.owner := by
  unfold shouldCreate at h
  by_contra hn
  obtain ⟨h1, h2⟩ := not_or.mp hn
  simp [h1, not_not.mp h2] at h

/-- The copy of an object names its own cluster only if the object does. -/
theorem ownerOr_eq_self {clusterID c : String} {m : StringMap} (h : ownerOr clusterID m = c)
    (hne : clusterID ≠ c) : m.val ownershipAnnotation = c ∧ c ≠ "" := by
  unfold ownerOr at h
  split at h
  · exact absurd h hne
  · next hv => exact ⟨h, h ▸ hv⟩

/-- **One step** that is not a return keeps the clusters free of self-owned copies. -/
theorem noSelfOwned_step {x : External} {tr : List (Fleet × Act)} {f : Fleet} {a : Act}
    (hrun : Run (fleet (ownIDs x)) tr f) (ih : NoSelfOwned f)
    (hok : (ownIDs x).Allowed tr f a) (hret : ¬Returning x f a) :
    NoSelfOwned (f.step x a) := by
  intro c k o ho hself
  rcases written hok ho with ⟨o₀, h₀, hm⟩ | ⟨o₀, hu, hm⟩ | ⟨cur, o₀, hc, hu, hm⟩ |
    ⟨id, req, env, r, d, rfl, hr, ⟨m, hd, hk, hgate⟩, hm⟩
  · exact ih c k o₀ h₀ (hm.annotations ▸ hself)
  · rw [hm.annotations, hu] at hself; cases hself
  · rw [hm.annotations, hu] at hself; exact ih c k cur hc hself
  · obtain ⟨-, -, r', hr', hread⟩ := hok
    obtain rfl := Option.some.inj (hr.symm.trans hr')
    obtain ⟨r₀, ⟨hleaves, hid, -, hne, hlocal⟩, hs⟩ := reconcilers_of_run hrun hr
    rw [← hs.rule] at hleaves
    obtain ⟨stored, hsrc, hdel, hmatch, hdm, ha, -⟩ := hd.copy hleaves
    rw [hm.owner, ha] at hself
    have howner := Option.some.inj hself
    rw [hs.clusterID, hid] at howner
    obtain ⟨hown, hc⟩ := ownerOr_eq_self howner hne
    rcases hgate with ⟨-, hcreate⟩ | ⟨cur, hcur, hupd⟩
    · have hdown : d.owner = c := by rw [Obj.owner, StringMap.val, ha, hself]; rfl
      rcases shouldCreate_owner hcreate with h | h
      · exact hc (hdown.symm.trans h)
      · exact h ((hs.localClusterID.trans hlocal).trans hdown.symm)
    · obtain ⟨t, -, hget⟩ := hread.state stored hsrc
      rw [hdm] at hk
      rw [key_of_copy (ApiServer.key_of_get hget) hk] at hcur
      exact hret ⟨r, stored, m, cur, hr, hsrc, hdel, hown, hmatch, hcur, hupd⟩

/-- **No self-owned copies**, in any state of a run in which no reconcile call
takes an object of its own cluster back over another copy. -/
theorem no_self_owned (x : External) (tr : List (Fleet × Act)) (f : Fleet)
    (h : Run (fleet (ownIDs x)) tr f) (hret : ∀ p ∈ tr, ¬Returning x p.1 p.2) :
    ∀ t ∈ states tr f, NoSelfOwned t := by
  refine h.always (C := fun f a => ¬Returning x f a) ?_
    (fun tr f a hrun ih hok hret => noSelfOwned_step hrun ih hok hret) hret
  rintro f ⟨hf, -⟩ c k o ho
  rw [hf c k o ho]
  exact nofun

section

open Sample

/-- `B` copies the object from `L`, where it is then deleted. -/
def sentOut : List (Fleet × Act) × Fleet :=
  played (fleet (ownIDs .bare)) [] (fun _ => {})
    [.userCreate "L" key obj, .start "B" ⟨"rule", "L"⟩ (syncing "B" "L"),
      .reconcile "B" ⟨"rule", "L"⟩ req { source := .ok stored, alive := (knows []).aliveByID },
      .userDelete "L" key, .userCreate "A" key obj]

/-- `L` copies the object of that name from `A`, and `A` dies. -/
def replaced : List (Fleet × Act) × Fleet :=
  played (fleet (ownIDs .bare)) sentOut.1 sentOut.2
    [.manage "L" (knows [("A", true), ("B", true)]), .start "L" ⟨"rule", "A"⟩ (syncing "L" "A"),
      .reconcile "L" ⟨"rule", "A"⟩ req
        { source := .ok stored, alive := (knows [("A", true), ("B", true)]).aliveByID },
      .manage "L" (knows [("A", false), ("B", true)]), .start "L" ⟨"rule", "B"⟩ (syncing "L" "B")]

/-- The copy on `B` comes back to `L`. -/
def cameBack : Act :=
  .reconcile "L" ⟨"rule", "B"⟩ req (reading replaced.2 "L" (.ok (copyOf "L")))

theorem run_sentOut : Run (fleet (ownIDs .bare)) sentOut.1 sentOut.2 := by
  refine .plays (.init ⟨fun c k o h => (by cases h), fun _ => ⟨rfl, rfl⟩⟩) ?_
  exact ⟨rfl, ⟨leavesOwner_rule, rfl, by decide, by decide, rfl⟩,
    ⟨nofun, rfl, _, rfl, ⟨_, List.mem_cons_self, rfl⟩⟩, trivial, rfl, trivial⟩

theorem no_self_owned_sentOut : NoSelfOwned sentOut.2 := by
  refine no_self_owned .bare _ _ run_sentOut ?_ _ List.mem_cons_self
  simp only [List.forall_mem_cons, sentOut, played, Returning, not_false_eq_true, true_and]
  refine ⟨?_, by simp⟩
  rintro ⟨_, o, _, _, _, hsrc, _, hown, -⟩
  cases hsrc
  exact absurd hown (by decide)

theorem self_owned_cameBack :
    Run (fleet (ownIDs .bare)) ((replaced.2, cameBack) :: replaced.1)
      (replaced.2.step .bare cameBack) ∧ ¬NoSelfOwned (replaced.2.step .bare cameBack) := by
  have hrun : Run (fleet (ownIDs .bare)) replaced.1 replaced.2 :=
    run_sentOut.plays ⟨trivial, ⟨leavesOwner_rule, rfl, by decide, by decide, rfl⟩,
      ⟨nofun, rfl, _, rfl, ⟨_, List.mem_cons_self, by rfl⟩⟩, trivial,
      ⟨leavesOwner_rule, rfl, by decide, by decide, rfl⟩, trivial⟩
  have hread : (replaced.2 "B").server.get key = some (copyOf "L") := by decide +kernel
  have hself : ((replaced.2.step .bare cameBack "L").server.get key).map
      (·.annotations.lookup ownershipAnnotation) = some (some "L") := by decide +kernel
  refine ⟨hrun.step cameBack ⟨nofun, rfl, _, rfl, ⟨_, List.mem_cons_self, hread⟩⟩, fun h => ?_⟩
  obtain ⟨o, ho, hl⟩ := Option.map_eq_some_iff.mp hself
  exact h "L" key o ho hl

end

end ClusterRegistry.Sync
