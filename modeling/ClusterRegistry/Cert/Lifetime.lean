import ClusterRegistry.Cert.Publishing

/-!
# The certifier over its lifetime

What of a certifier depends on its whole life. `same_configuration_iff` is about a
configuration that is deleted and created again, which the running certifier cannot
update any more. `ready_iff` says what the readiness of the process stands for.
-/

namespace ClusterRegistry.Cert

open Lib

namespace WebhookCertifier

variable {p : PatchMaker} {current : Except Err WebhookConfiguration}
  {certificate : Option String} {needsUpdate : Bool} {c c' : WebhookCertifier} {kind : Kind}
  {config : WebhookConfiguration}

/-- `WebhookCertBundleReadyzChecker`: the error that a probe is answered with. -/
def webhookCertBundleReadyzChecker (c : WebhookCertifier) : Option Err :=
  if !c.webhookCertBundleReadyz then some (.new "webhook cert bundle is not ready yet") else none

theorem webhookCertBundleReadyzChecker_eq_none :
    c.webhookCertBundleReadyzChecker = none ↔ c.webhookCertBundleReadyz = true := by
  unfold webhookCertBundleReadyzChecker
  cases c.webhookCertBundleReadyz <;> simp

theorem readyz_setConfig (new : WebhookConfiguration) :
    (c.setConfig new).webhookCertBundleReadyz = c.webhookCertBundleReadyz := by
  unfold setConfig
  split <;> rfl

/-- A check is ready for a probe once it has found nothing to update. -/
theorem readyz_afterCheck (ha : c.active = some (kind, config))
    (h : c.afterCheck p current certificate needsUpdate = some c') :
    c'.webhookCertBundleReadyz = true ↔ c.attempt p current certificate needsUpdate =
      some .upToDate ∨ c.webhookCertBundleReadyz = true := by
  unfold afterCheck at h
  unfold attempt
  rw [ha] at h ⊢
  cases hcert : config.certify certificate with
  | none => simp [hcert] at h
  | some desired =>
    simp only [hcert, Option.bind_some] at h ⊢
    cases needsUpdate with
    | false =>
      cases h
      simp [readyz_setConfig]
    | true =>
      simp only [if_true] at h ⊢
      cases hp : prepareUpdate p current desired with
      | failed e | upToDate | send sent =>
        simp only [hp, Option.some.injEq] at h
        subst h
        simp [readyz_setConfig]

end WebhookCertifier

namespace Publishing

variable {p : PatchMaker} {kind : Kind} {s : Publishing}

/-! ## Another configuration under the same name -/

section

variable (p : PatchMaker) (kind : Kind)

/-- The configuration is not the one that the certifier has loaded. -/
def Other (s : Publishing) : Prop :=
  ∃ c own, s.site.certifier = some c ∧ c.active = some (kind, own) ∧
    ∀ config, s.site.stored kind = some config → config.uid ≠ own.uid

def Deleted (s : Publishing) (a : Act) : Prop := a = .edit none ∧ s.site.certifier ≠ none

def Ended (s : Publishing) (a : Act) : Prop := (s.step p kind a).site.certifier = none

/-- No UID is given out twice. -/
structure Identified (s : Publishing) : Prop where
  stored : ∀ config, s.site.stored kind = some config → config.uid ≤ s.site.rev
  own : ∀ c own, s.site.certifier = some c → c.active = some (kind, own) → own.uid ≤ s.site.rev

end

theorem other_iff {c : WebhookCertifier} {own : WebhookConfiguration}
    (hc : s.site.certifier = some c) (hown : c.active = some (kind, own)) :
    s.Other kind ↔ ∀ config, s.site.stored kind = some config → config.uid ≠ own.uid := by
  constructor
  · rintro ⟨c', own', hc', hown', hne⟩
    rw [hc] at hc'
    cases hc'
    rw [hown] at hown'
    cases hown'
    exact hne
  · exact fun hne => ⟨c, own, hc, hown, hne⟩

theorem not_other_of_none (hc : s.site.certifier = none) : ¬s.Other kind := by
  rintro ⟨c, own, hc', -⟩
  rw [hc] at hc'
  cases hc'

theorem stored_edit (config : Option WebhookConfiguration) :
    (s.step p kind (.edit config)).site.stored kind = config.map (s.site.edited kind) :=
  Function.update_self ..

theorem Identified.step (hcoh : s.Coherent kind) (h : s.Identified kind) {a : Act}
    (ha : s.Allowed p kind a) : (s.step p kind a).Identified kind := by
  have hsucc := Nat.le_succ s.site.rev
  cases a with
  | edit config =>
    refine ⟨fun v hv => ?_, fun c own hc hown => (h.own c own hc hown).trans hsucc⟩
    rw [stored_edit] at hv
    obtain ⟨w, -, rfl⟩ := Option.map_eq_some_iff.mp hv
    show ((s.site.stored kind).map (·.uid)).getD (s.site.rev + 1) ≤ s.site.rev + 1
    cases hs : s.site.stored kind with
    | none => exact le_rfl
    | some old => exact (h.stored old hs).trans hsucc
  | observe | resync | receive => exact ⟨h.stored, h.own⟩
  | check cause env fault =>
    refine ⟨h.stored, fun c' own' hc' hown' => ?_⟩
    obtain ⟨c, own, -, own'', hc, -, hown, -, hown'', -, hu, -⟩ := check_spec hcoh.expected ha hc'
    rw [hown'] at hown''
    cases hown''
    rw [hu]
    exact h.own c own hc hown
  | update fault =>
    obtain ⟨c, own, c', hc, -, hown, hc', -, hsite⟩ := update_spec hcoh.expected ha
    have hle := h.own c own hc hown
    rcases hsite with ⟨-, hrev, hstored, hown'⟩ | ⟨-, hrev, hstored, hown'⟩
    · refine ⟨fun v hv => ?_, fun d own' hd hown'' => ?_⟩
      · rw [hstored] at hv
        cases hv
        rw [hrev]
        exact hle.trans hsucc
      · rw [hc'] at hd
        cases hd
        rw [hown'] at hown''
        cases hown''
        rw [hrev]
        exact hle.trans hsucc
    · refine ⟨?_, fun d own' hd hown'' => ?_⟩
      · rw [hstored, hrev]
        exact h.stored
      · rw [hc'] at hd
        cases hd
        rw [hown'] at hown''
        cases hown''
        rw [hrev]
        exact hle
  | start dir dnsNames faults =>
    obtain ⟨hstored, hrev, hload⟩ := start_spec p kind (ha.1 _ rfl) dir dnsNames
      faults
    refine ⟨?_, fun c own hc hown => ?_⟩
    · rw [hstored, hrev]
      exact h.stored
    · rw [hrev]
      exact h.stored own (hload c own hc hown).2
  | stop =>
    refine ⟨h.stored, fun c _ hc => ?_⟩
    cases hc

theorem identified_of_run {tr : List (Publishing × Act)} (h : Run (publishing p kind) tr s) :
    s.Identified kind := by
  refine h.invariant (P := Identified kind) (fun s hi => ?_)
    fun _ _ _ hr hs ha => hs.step (coherent_of_run hr) ha
  refine ⟨hi.2.2.2.2.2.uid, fun c _ hc => ?_⟩
  rw [hi.1] at hc
  cases hc

theorem other_edit (h : s.Coherent kind) (hid : s.Identified kind)
    (config : Option WebhookConfiguration) : (s.step p kind (.edit config)).Other kind ↔
      Deleted s (.edit config) ∨ s.Other kind := by
  cases hc : s.site.certifier with
  | none =>
    refine iff_of_false (not_other_of_none hc) (not_or.mpr ⟨fun hd => hd.2 hc, ?_⟩)
    exact not_other_of_none hc
  | some c =>
    obtain ⟨own, hown⟩ := h.expected c hc
    rw [other_iff hc hown, other_iff (s := s.step p kind (.edit config)) hc hown, stored_edit]
    cases config with
    | none => exact iff_of_true nofun (.inl ⟨rfl, by rw [hc]; exact nofun⟩)
    | some v =>
      rw [or_iff_right fun hd : Deleted s (.edit (some v)) => nomatch hd.1]
      simp only [Option.map_some, Option.some.injEq, forall_eq']
      show ((s.site.stored kind).map (·.uid)).getD (s.site.rev + 1) ≠ own.uid ↔ _
      cases s.site.stored kind with
      | none => exact iff_of_true (Nat.ne_of_gt (Nat.lt_succ_of_le (hid.own c own hc hown))) nofun
      | some old => simp

theorem other_step (h : s.Coherent kind) (hid : s.Identified kind) {a : Act}
    (ha : s.Allowed p kind a) : (s.step p kind a).Other kind ↔
      Deleted s a ∨ ¬Ended p kind s a ∧ s.Other kind := by
  by_cases hend : Ended p kind s a
  · refine iff_of_false (not_other_of_none hend) (not_or.mpr ⟨?_, fun hno => hno.1 hend⟩)
    rintro ⟨rfl, hne⟩
    exact hne hend
  rw [and_iff_right hend]
  have hdel : (∀ config, a ≠ .edit config) → (Deleted s a ∨ s.Other kind ↔ s.Other kind) :=
    fun hne => or_iff_right fun hd => hne none hd.1
  cases a with
  | edit config => exact other_edit h hid config
  | observe | resync | receive => exact (hdel nofun).symm
  | check cause env fault =>
    rw [hdel nofun]
    obtain ⟨c', hc'⟩ := Option.ne_none_iff_exists'.mp hend
    obtain ⟨c, own, -, own', hc, -, hown, -, hown', -, hu, -⟩ := check_spec h.expected ha hc'
    rw [other_iff hc hown, other_iff hc' hown', hu]
    exact Iff.rfl
  | update fault =>
    rw [hdel nofun]
    obtain ⟨c, own, c', hc, -, hown, hc', -, hsite⟩ := update_spec h.expected ha
    rcases hsite with ⟨hok, -, hstored, hown'⟩ | ⟨-, -, hstored, hown'⟩
    · obtain ⟨-, c₁, own₁, hc₁, hown₁, old, hold, huid, -⟩ := hok
      rw [hc] at hc₁
      cases hc₁
      rw [hown] at hown₁
      cases hown₁
      rw [other_iff hc hown, other_iff hc' hown', hstored]
      exact iff_of_false (fun hne => hne _ rfl rfl) fun hne => hne old hold huid.symm
    · rw [other_iff hc hown, other_iff hc' hown', hstored]
  | start dir dnsNames faults =>
    have hnone : s.site.certifier = none := ha.1 _ rfl
    obtain ⟨hstored, -, hload⟩ := start_spec p kind hnone dir dnsNames faults
    rw [hdel nofun]
    refine iff_of_false ?_ (not_other_of_none hnone)
    rintro ⟨c, own, hc, hown, hne⟩
    exact hne own (by rw [hstored]; exact (hload c own hc hown).2) rfl
  | stop => exact absurd rfl hend

/-- **A configuration that comes back**: the configuration is the one that the certifier
has loaded exactly if it was not deleted while the certifier ran; once it was, no
update succeeds before the next start, whatever is created under its name. -/
theorem same_configuration_iff {tr : List (Publishing × Act)} (h : Run (publishing p kind) tr s)
    {c : WebhookCertifier} {own : WebhookConfiguration} (hc : s.site.certifier = some c)
    (hown : c.active = some (kind, own)) :
    ((∃ config, s.site.stored kind = some config ∧ config.uid = own.uid) ↔
      ¬Since Deleted (Ended p kind) tr) ∧
    (Since Deleted (Ended p kind) tr → ∀ fault, ¬s.Succeeds kind fault) := by
  have hflag : s.Other kind ↔ Since Deleted (Ended p kind) tr := by
    refine h.since_iff (fun s hi => ?_)
      fun _ _ _ hr ha => other_step (coherent_of_run hr) (identified_of_run hr) ha
    exact not_other_of_none hi.1
  rw [← hflag, other_iff hc hown]
  refine ⟨by simp, fun hne fault hok => ?_⟩
  obtain ⟨-, c', own', hc', hown', config, hconfig, huid, -⟩ := hok
  rw [hc] at hc'
  cases hc'
  rw [hown] at hown'
  cases hown'
  exact hne config hconfig huid.symm

/-- The configuration is deleted and created again. -/
def replaced : List (Publishing × Act) × Publishing :=
  played (publishing .plain .validating) [] { site := validated, dir := fun _ => some "1" }
    [.start (fun _ => some "1") ["webhook"] fun _ => none, .edit none,
      .edit (some (ruled "create"))]

theorem same_configuration_iff_replaced : Since Deleted (Ended .plain .validating) replaced.1 ∧
    ¬replaced.2.Succeeds .validating none := by
  have hdeleted : Since Deleted (Ended .plain .validating) replaced.1 := by
    refine ⟨[_], _, _, _, rfl, ⟨rfl, nofun⟩, ?_⟩
    simp only [List.forall_mem_singleton]
    exact nofun
  refine ⟨hdeleted, (same_configuration_iff (p := .plain) (.plays (.init ?_) ?_) rfl rfl).2
    hdeleted none⟩
  · exact ⟨rfl, rfl, rfl, rfl, rfl, numbered_validated⟩
  · refine ⟨⟨?_, trivial, ?_⟩, ⟨?_, trivial, ?_⟩, ⟨?_, trivial, ?_⟩, trivial⟩
    · rintro b ⟨⟩
      rfl
    · rintro c ⟨⟩
      exact ⟨_, rfl⟩
    · rintro b ⟨⟩
      trivial
    · rintro c ⟨⟩
      exact ⟨_, rfl⟩
    · rintro b ⟨⟩
      trivial
    · rintro c ⟨⟩
      exact ⟨_, rfl⟩

/-! ## Readiness -/

section

variable (p : PatchMaker) (kind : Kind)

/-- The process answers a probe with its readiness. -/
def Ready (s : Publishing) : Prop :=
  ∃ c, s.site.certifier = some c ∧ c.webhookCertBundleReadyzChecker = none

/-- A check finds nothing to update, or the update goes through. -/
def Publishes (s : Publishing) : Act → Prop
  | .check cause env fault => s.attempt p cause env fault = some .upToDate
  | .update fault => s.Succeeds kind fault
  | _ => False

/-- The configuration carries the bundle of the certificate in use, at the server or as the
informer has seen it. -/
def Published (s : Publishing) : Prop :=
  ∃ c own, s.site.certifier = some c ∧ c.active = some (kind, own) ∧ (own.names = [] ∨
    ∃ config, (s.site.stored kind = some config ∨ s.cache = some config) ∧
      config.Carries own.names s.ca)

end

theorem ready_iff_flag {c : WebhookCertifier} (hc : s.site.certifier = some c) :
    s.Ready ↔ c.webhookCertBundleReadyz = true := by
  unfold Ready
  rw [hc]
  simp only [Option.some.injEq, exists_eq_left']
  exact WebhookCertifier.webhookCertBundleReadyzChecker_eq_none

theorem not_ready_of_none (hc : s.site.certifier = none) : ¬s.Ready := by
  rintro ⟨c, hc', -⟩
  cases hc.symm.trans hc'

theorem published_check (hp : p.Sound) (h : s.Coherent kind) {cause : Cause} {env : CheckEnv}
    (henv : env.Issues) {fault : Option Err} (ha : s.Allowed p kind (.check cause env fault))
    {c' : WebhookCertifier}
    (hc' : (s.step p kind (.check cause env fault)).site.certifier = some c')
    (hattempt : s.attempt p cause env fault = some .upToDate) :
    (s.step p kind (.check cause env fault)).Published kind := by
  obtain ⟨c, own, desired, own', hc, -, hown, hcert, hown', hw, -⟩ := check_spec h.expected ha hc'
  rw [attempt_of_active hc hown hcert] at hattempt
  obtain ⟨-, hprep⟩ : s.needsUpdate cause env = true ∧
      prepareUpdate p (s.current fault) desired = .upToDate := by
    simpa using hattempt
  have hnames : own'.names = desired.names := by
    unfold WebhookConfiguration.names
    rw [hw]
  refine ⟨c', own', hc', hown', ?_⟩
  rw [hnames]
  refine (carries_of_upToDate hp henv hcert hprep kind cause).imp_right ?_
  rintro ⟨config, hcache, hcarries⟩
  exact ⟨config, .inr hcache, hcarries⟩

theorem ready_check (hp : p.Sound) (h : s.Coherent kind) {cause : Cause} {env : CheckEnv}
    (henv : env.Issues) {fault : Option Err} (ha : s.Allowed p kind (.check cause env fault))
    (hend : ¬Ended p kind s (.check cause env fault)) :
    (s.step p kind (.check cause env fault)).Ready ↔
      (s.Publishes p kind (.check cause env fault) ∧
        (s.step p kind (.check cause env fault)).Published kind) ∨ s.Ready := by
  obtain ⟨c', hc'⟩ := Option.ne_none_iff_exists'.mp hend
  obtain ⟨c, hc, -⟩ := ha.1 _ rfl
  obtain ⟨own, hown⟩ := h.expected c hc
  have hrun : c.afterCheck p (s.current fault) (checkOutcome env s.dnsNames s.dir).certificate
      (s.needsUpdate cause env) = some c' := by
    have : s.site.certifier.bind _ = some c' := hc'
    rwa [hc] at this
  have hattempt : s.Publishes p kind (.check cause env fault) ↔
      c.attempt p (s.current fault) (checkOutcome env s.dnsNames s.dir).certificate
        (s.needsUpdate cause env) = some .upToDate := by
    unfold Publishes attempt
    rw [hc]
    exact Iff.rfl
  have hpublished : s.Publishes p kind (.check cause env fault) →
      (s.step p kind (.check cause env fault)).Published kind := published_check hp h henv ha hc'
  rw [and_iff_left_of_imp hpublished, ready_iff_flag hc, ready_iff_flag hc',
    WebhookCertifier.readyz_afterCheck hown hrun, hattempt]

theorem ready_update (h : s.Coherent kind) {fault : Option Err}
    (ha : s.Allowed p kind (.update fault)) : (s.step p kind (.update fault)).Ready ↔
      (s.Publishes p kind (.update fault) ∧ (s.step p kind (.update fault)).Published kind) ∨
        s.Ready := by
  obtain ⟨c, hc, -⟩ := ha.1 _ rfl
  obtain ⟨own, hown⟩ := h.expected c hc
  have hsite : (s.step p kind (.update fault)).site = s.site.send fault c kind own :=
    Site.next_update hc hown fault
  obtain ⟨c₁, own₁, c', hc₁, hsending, hown₁, hc', -, hspec⟩ := update_spec h.expected ha
  cases hc.symm.trans hc₁
  cases hown.symm.trans hown₁
  have hpublished : s.Publishes p kind (.update fault) →
      (s.step p kind (.update fault)).Published kind := by
    intro hok
    rcases hspec with ⟨-, -, hstored, hown'⟩ | ⟨hno, -⟩
    · refine ⟨c', _, hc', hown', .inr ⟨_, .inl hstored, ?_⟩⟩
      exact WebhookConfiguration.carries_of_forall (h.prepared c own hc hown hsending)
    · exact absurd hok hno
  have hsucc : s.Succeeds kind fault ↔ fault = none ∧ s.site.Accepts kind own := by
    unfold Succeeds
    simp [hc, hown]
  have hflag : c'.webhookCertBundleReadyz = true ↔
      s.Succeeds kind fault ∨ c.webhookCertBundleReadyz = true := by
    rw [hsite] at hc'
    unfold Site.send at hc'
    rw [hsucc]
    split at hc'
    · next hok =>
      cases hc'
      exact iff_of_true rfl (.inl hok)
    · next hno =>
      cases hc'
      exact (or_iff_right hno).symm
  rw [and_iff_left_of_imp hpublished, ready_iff_flag hc, ready_iff_flag hc', hflag]
  exact Iff.rfl

theorem not_ready_start {dir : Dir} {dnsNames : List String} {faults : Kind → Option Err}
    (ha : s.Allowed p kind (.start dir dnsNames faults)) :
    ¬(s.step p kind (.start dir dnsNames faults)).Ready := by
  have hnone : s.site.certifier = none := ha.1 _ rfl
  show ¬∃ c, (s.site.next (.start faults)).certifier = some c ∧ _
  simp only [Site.next]
  cases hload : loadWebhookConfiguration fun kind => s.site.get (faults kind) kind with
  | error e =>
    rintro ⟨c, hc, -⟩
    cases hnone.symm.trans hc
  | ok c =>
    rintro ⟨_, ⟨⟩, hready⟩
    rw [WebhookCertifier.webhookCertBundleReadyzChecker_eq_none] at hready
    unfold loadWebhookConfiguration at hload
    grind

theorem ready_step (hp : p.Sound) (h : s.Coherent kind) {a : Act} (ha : s.Allowed p kind a)
    (henv : a.Issues) : (s.step p kind a).Ready ↔
      (s.Publishes p kind a ∧ (s.step p kind a).Published kind) ∨ ¬Ended p kind s a ∧ s.Ready := by
  by_cases hend : Ended p kind s a
  · refine iff_of_false (not_ready_of_none hend) (not_or.mpr ⟨?_, fun hno => hno.1 hend⟩)
    rintro ⟨-, c, own, hc, -⟩
    cases hend.symm.trans hc
  rw [and_iff_right hend]
  cases a with
  | check cause env fault => exact ready_check hp h henv ha hend
  | update fault => exact ready_update h ha
  | start dir dnsNames faults =>
    refine iff_of_false (not_ready_start ha) ?_
    rintro (⟨hpub, -⟩ | hready)
    · exact hpub
    · exact not_ready_of_none (ha.1 _ rfl) hready
  | stop => exact absurd rfl hend
  | edit | observe | resync | receive =>
    exact (or_iff_right fun hpub => hpub.1).symm

/-- **What readiness stands for**: the process reports that it is ready exactly if, since
the certifier has started, the configuration has carried the bundle at least once, or
had no webhooks to carry it: as an update that went through, or as a check has found
it. It is not taken back later. -/
theorem ready_iff (hp : p.Sound) {tr : List (Publishing × Act)}
    (h : Run (publishing p kind) tr s) (henv : ∀ x ∈ tr, x.2.Issues) :
    s.Ready ↔ Since (fun s a => s.Publishes p kind a ∧ (s.step p kind a).Published kind)
      (Ended p kind) tr := by
  refine Run.since_iff_of (D := fun _ a => a.Issues) (fun s hi => ?_)
    (fun _ _ _ hr ha => ready_step hp (coherent_of_run hr) ha) h henv
  exact not_ready_of_none hi.1

/-- The bundle is published, and then others put back what was there before. -/
def putBack : List (Publishing × Act) × Publishing :=
  played (publishing .plain .validating) [] { site := validated, dir := fun _ => some "1" }
    [.start (fun _ => some "1") ["webhook"] fun _ => none,
      .check .start (.numbered (.ok (.generation "1"))) none, .update none,
      .edit (some (ruled "create"))]

theorem ready_iff_putBack : putBack.2.Ready ∧
    Since (fun s a => s.Publishes .plain .validating a ∧
      (s.step .plain .validating a).Published .validating) (Ended .plain .validating)
        putBack.1 := by
  have hready : putBack.2.Ready := ⟨_, rfl, rfl⟩
  refine ⟨hready, (ready_iff sound_plain (.plays (.init ?_) ?_) ?_).mp hready⟩
  · exact ⟨rfl, rfl, rfl, rfl, rfl, numbered_validated⟩
  · refine ⟨⟨?_, trivial, ?_⟩, ⟨?_, rfl, ?_⟩, ⟨?_, trivial, ?_⟩, ⟨?_, trivial, ?_⟩, trivial⟩
    · rintro b ⟨⟩
      rfl
    · rintro c ⟨⟩
      exact ⟨_, rfl⟩
    · rintro b ⟨⟩
      exact ⟨_, rfl, rfl⟩
    · rintro c ⟨⟩
      exact ⟨_, rfl⟩
    · rintro b ⟨⟩
      exact ⟨_, rfl, rfl⟩
    · rintro c ⟨⟩
      exact ⟨_, rfl⟩
    · rintro b ⟨⟩
      trivial
    · rintro c ⟨⟩
      exact ⟨_, rfl⟩
  · refine forall_mem_played (List.forall_mem_nil _) ?_
    simp only [List.forall_mem_cons, Act.Issues]
    exact ⟨trivial, issues_numbered, trivial, trivial, List.forall_mem_nil _⟩

end Publishing

end ClusterRegistry.Cert
