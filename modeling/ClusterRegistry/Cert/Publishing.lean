import ClusterRegistry.Cert.Renewer

/-!
# Publishing the CA bundle

The certifier of `pkg/cert/webhook_certifier.go` as a system: the loop of
`Renewer.Start`, which checks when it starts, when it is triggered and every 30
seconds, and the handler of the informer, which passes update events on through
the unbuffered channel `triggers`. Other clients edit the configuration all the
time, and the cached client reads what the informer has seen.

A check that the ticker starts publishes only what it has just renewed. So a
publication that failed is not made up for by the ticker: `bundle_missing_iff`
says that the configuration lacks the bundle, when all is quiet, exactly if the
last attempt has left it so, or it was made anew since then.
-/

namespace ClusterRegistry.Cert

open Lib

/-- What starts a check. -/
inductive Cause where
  | start
  | trigger
  | tick
  deriving DecidableEq

def Cause.wasTriggered : Cause → Bool
  | .tick => false
  | _ => true

structure Publishing where
  site : Site
  dir : Dir
  /-- `dnsNames()` of the configuration that was loaded. -/
  dnsNames : List String := []
  /-- The configuration in the cache of the manager. -/
  cache : Option WebhookConfiguration := none
  /-- The update events that the handler has not been given yet. -/
  events : Nat := 0
  /-- The handler waits until the loop takes its trigger. -/
  sending : Bool := false
  /-- The first check of `Renewer.Start` is still ahead. -/
  starting : Bool := false

namespace Publishing

inductive Act where
  /-- Others create, change or delete the configuration. -/
  | edit (config : Option WebhookConfiguration)
  | observe (config : Option WebhookConfiguration)
  /-- The informer reports its cache once more, as it does periodically. -/
  | resync
  /-- `UpdateFunc` begins; `fault` is an error of its read call. -/
  | receive (fault : Option Err)
  | check (cause : Cause) (env : CheckEnv) (fault : Option Err)
  | update (fault : Option Err)
  /-- The process starts and finds `dir` in the directory. -/
  | start (dir : Dir) (dnsNames : List String) (faults : Kind → Option Err)
  | stop

variable (p : PatchMaker) (kind : Kind) (s : Publishing)

/-- The answer of the cached client. -/
def current (fault : Option Err) : Except Err WebhookConfiguration :=
  match fault with
  | some e => .error e
  | none =>
    match s.cache with
    | some config => .ok config
    | none => .error ⟨.notFound, "not found"⟩

/-- The step of the certifier that an action is. -/
def siteAct : Act → Option Cert.Act
  | .edit config => some (.edit kind config)
  | .check cause env fault =>
    some (.check p (s.current fault) cause.wasTriggered (checkOutcome env s.dnsNames s.dir))
  | .update fault => some (.update fault)
  | .start _ _ faults => some (.start faults)
  | .stop => some .stop
  | _ => none

def siteAfter (a : Act) : Site := ((s.siteAct p kind a).map s.site.next).getD s.site

def step (a : Act) : Publishing :=
  let site := s.siteAfter p kind a
  match a with
  | .observe config =>
    { s with
      cache := config
      -- additions and deletions have no handler
      events := if s.cache.isSome && config.isSome then s.events + 1 else s.events }
  | .resync => { s with events := s.events + 1 }
  | .receive fault =>
    { s with events := s.events - 1, sending := fault.isNone && s.cache.isSome }
  | .check cause env _ =>
    { s with
      site := site
      dir := (checkCertificate env s.dnsNames [] cause.wasTriggered s.dir).2
      sending := if cause = .trigger then false else s.sending
      starting := false }
  | .start dir dnsNames _ =>
    { site := site, dir := dir, dnsNames := dnsNames, cache := s.site.stored kind,
      starting := true }
  | _ => { s with site := site }

def Expected (kind : Kind) (site : Site) : Prop :=
  ∀ c, site.certifier = some c → ∃ config, c.active = some (kind, config)

def Requested : Act → Prop
  | .observe config => ∀ v, config = some v → v.resourceVersion ≤ s.site.rev
  | .resync => s.cache.isSome = true
  | .receive _ => 0 < s.events ∧ s.sending = false ∧ s.site.certifier ≠ none
  | .check .start _ _ => s.starting = true
  | .check .trigger _ _ => s.starting = false ∧ s.sending = true
  | .check .tick _ _ => s.starting = false
  | _ => True

/-- The certifier finds a configuration of this kind. -/
def Allowed (a : Act) : Prop :=
  (∀ b, s.siteAct p kind a = some b → s.site.Enabled b) ∧ s.Requested a ∧
    Expected kind (s.siteAfter p kind a)

/-- The resource versions and UIDs that are in use have been given out. -/
structure Numbered (kind : Kind) (site : Site) : Prop where
  rev : ∀ config, site.stored kind = some config → config.resourceVersion ≤ site.rev
  uid : ∀ config, site.stored kind = some config → config.uid ≤ site.rev

end Publishing

/-- No certifier runs yet. -/
def publishing (p : PatchMaker) (kind : Kind) : System Publishing Publishing.Act where
  init s := s.site.certifier = none ∧ s.cache = none ∧ s.events = 0 ∧ s.sending = false ∧
    s.starting = false ∧ Publishing.Numbered kind s.site
  ok _ s a := s.Allowed p kind a
  step s a := s.step p kind a

/-! ## A check -/

/-- The `x509` package makes and accepts no certificate whose CA certificate is empty. -/
structure CheckEnv.Issues (env : CheckEnv) : Prop where
  accepted : ∀ certificate, env.x509.signedBy "" certificate = false
  made : ∀ dnsNames c, env.newCertificate dnsNames = .ok c → c.caCertificate ≠ ""

theorem certificate_checkOutcome_ne {env : CheckEnv} (h : env.Issues) (dnsNames : List String)
    (dir : Dir) : (checkOutcome env dnsNames dir).certificate ≠ some "" := by
  unfold checkOutcome
  rcases @verifyCertificate_spec env dnsNames dir with ⟨-, certificate, err, hrun⟩ |
    ⟨-, c, hrun, -, hverify⟩
  · rw [hrun]
    rcases @renewCertificate_spec env dnsNames dir with ⟨-, e, dir', hrenew⟩ |
      ⟨-, c, dir', hnew, hrenew, -⟩
    · rw [hrenew]
      exact nofun
    · rw [hrenew]
      exact fun hca => h.made dnsNames c hnew (Option.some.inj hca)
  · rw [hrun]
    intro hca
    obtain ⟨name, hname⟩ : ∃ name, name ∈ checkedNames dnsNames := by
      unfold checkedNames
      cases dnsNames <;> exact ⟨_, List.mem_cons_self⟩
    have hsigned := hverify name hname
    unfold Certificate.verify at hsigned
    rw [show c.caCertificate = "" from Option.some.inj hca, h.accepted] at hsigned
    simp at hsigned

/-- The CA certificate that a check hands on is the one in the directory. -/
theorem dir_of_checkOutcome {env : CheckEnv} {dnsNames : List String} {dir : Dir} {ca : String}
    (h : (checkOutcome env dnsNames dir).certificate = some ca) (wasTriggered : Bool) :
    (checkCertificate env dnsNames [] wasTriggered dir).2 .caCertificate = some ca := by
  unfold checkOutcome at h
  unfold checkCertificate
  rcases @verifyCertificate_spec env dnsNames dir with ⟨-, certificate, err, hrun⟩ |
    ⟨-, c, hrun, hin, -⟩
  · rw [hrun] at h ⊢
    rcases @renewCertificate_spec env dnsNames dir with ⟨-, e, dir', hrenew⟩ |
      ⟨-, c, dir', -, hrenew, hin⟩
    · rw [hrenew] at h
      cases h
    · rw [hrenew] at h ⊢
      cases h
      exact hin .caCertificate
  · rw [hrun] at h ⊢
    cases h
    exact hin .caCertificate

theorem dir_of_valid {env : CheckEnv} {dnsNames : List String} {dir : Dir}
    (h : (checkOutcome env dnsNames dir).wasRenewed = false) (wasTriggered : Bool) :
    (checkCertificate env dnsNames [] wasTriggered dir).2 = dir := by
  unfold checkOutcome at h
  unfold checkCertificate
  rcases @verifyCertificate_spec env dnsNames dir with ⟨-, certificate, err, hrun⟩ | ⟨-, c, hrun, -⟩
  · rw [hrun] at h
    cases h
  · rw [hrun]
    rfl

namespace WebhookCertifier

variable {p : PatchMaker} {current : Except Err WebhookConfiguration}
  {certificate : Option String} {needsUpdate : Bool} {c c' : WebhookCertifier} {kind : Kind}
  {config : WebhookConfiguration}

/-- What becomes of the update that a check calls for, if it calls for one. -/
def attempt (p : PatchMaker) (current : Except Err WebhookConfiguration)
    (certificate : Option String) (needsUpdate : Bool) (c : WebhookCertifier) : Option Prepared :=
  c.active.bind fun (_, config) =>
    (config.certify certificate).bind fun desired =>
      if needsUpdate then some (prepareUpdate p current desired) else none

theorem webhooks_prepareUpdate {desired : WebhookConfiguration}
    (h : prepareUpdate p current desired = .send config) :
    config.webhooks = desired.webhooks ∧ config.uid = desired.uid := by
  unfold prepareUpdate at h
  grind

/-- A check changes the bundle and the policy of the copy, and prepares an update. -/
theorem afterCheck_spec (ha : c.active = some (kind, config))
    (h : c.afterCheck p current certificate needsUpdate = some c') :
    ∃ desired config', config.certify certificate = some desired ∧
      c'.active = some (kind, config') ∧ config'.webhooks = desired.webhooks ∧
      config'.uid = desired.uid ∧
      (c'.sending = true ↔ c.sending = true ∨
        ∃ sent, c.attempt p current certificate needsUpdate = some (.send sent)) := by
  have hsending : ∀ new, (c.setConfig new).sending = c.sending := by
    intro new
    unfold setConfig
    split <;> rfl
  unfold afterCheck at h
  unfold attempt
  rw [ha] at h ⊢
  cases hcert : config.certify certificate with
  | none => simp [hcert] at h
  | some desired =>
    simp only [hcert, Option.bind_some] at h ⊢
    cases needsUpdate with
    | false =>
      cases h
      exact ⟨desired, desired, rfl, active_setConfig ha desired, rfl, rfl, by simp [hsending]⟩
    | true =>
      simp only [if_true] at h ⊢
      cases hp : prepareUpdate p current desired with
      | failed e =>
        simp only [hp, Option.some.injEq] at h
        subst h
        exact ⟨desired, desired, rfl, active_setConfig ha desired, rfl, rfl, by simp [hsending]⟩
      | upToDate =>
        simp only [hp, Option.some.injEq] at h
        subst h
        exact ⟨desired, desired, rfl, active_setConfig ha desired, rfl, rfl, by simp [hsending]⟩
      | send sent =>
        simp only [hp, Option.some.injEq] at h
        subst h
        obtain ⟨hw, hu⟩ := webhooks_prepareUpdate hp
        exact ⟨desired, sent, rfl, active_setConfig ha sent, hw, hu, by simp⟩

end WebhookCertifier

/-! ## The bundle -/

/-- The webhook trusts this CA certificate and is enforced. -/
def Webhook.Carries (ca : Option String) (w : Webhook) : Prop :=
  some w.caBundle = ca ∧ w.failurePolicy = some .fail

namespace WebhookConfiguration

def names (config : WebhookConfiguration) : List String := config.webhooks.map (·.name)

def Carries (names : List String) (ca : Option String) (config : WebhookConfiguration) : Prop :=
  ∀ n ∈ names, ∃ w ∈ config.webhooks, w.name = n ∧ w.Carries ca

variable {config desired : WebhookConfiguration} {ca : Option String}

theorem carries_of_forall (h : ∀ w ∈ config.webhooks, w.Carries ca) :
    Carries config.names ca config := by
  intro n hn
  obtain ⟨w, hw, rfl⟩ := List.mem_map.mp hn
  exact ⟨w, hw, rfl, h w hw⟩

theorem names_certify (h : config.certify ca = some desired) : desired.names = config.names := by
  cases ca with
  | some ca =>
    cases h
    simp [names, Webhook.certify]
  | none =>
    simp only [certify] at h
    split at h <;> cases h
    rfl

theorem uid_certify (h : config.certify ca = some desired) : desired.uid = config.uid := by
  cases ca with
  | some ca =>
    cases h
    rfl
  | none =>
    simp only [certify] at h
    split at h <;> cases h
    rfl

/-- Without a certificate there are no webhooks. -/
theorem carries_certify (h : config.certify ca = some desired) :
    ∀ w ∈ desired.webhooks, w.Carries ca := by
  cases ca with
  | some ca =>
    cases h
    intro w hw
    obtain ⟨v, -, rfl⟩ := List.mem_map.mp hw
    exact ⟨rfl, rfl⟩
  | none =>
    simp only [certify] at h
    split at h
    · next hempty =>
      cases h
      rw [List.isEmpty_iff.mp hempty]
      exact fun _ hw => nomatch hw
    · cases h

end WebhookConfiguration

/-- Nothing is left to patch only if the webhooks are there with what is desired of them;
others may be there as well. An empty bundle or no policy is not looked for. -/
def PatchMaker.Sound (p : PatchMaker) : Prop :=
  ∀ current desired, p.calculate current desired = .ok true →
    ∀ w ∈ desired.webhooks, ∃ w' ∈ current.webhooks, w'.name = w.name ∧
      (w.caBundle ≠ "" → w'.caBundle = w.caBundle) ∧
      (w.failurePolicy ≠ none → w'.failurePolicy = w.failurePolicy)

theorem PatchMaker.Sound.carries {p : PatchMaker} (hp : p.Sound)
    {current desired : WebhookConfiguration} {ca : Option String}
    (h : p.calculate current desired = .ok true) (hd : ∀ w ∈ desired.webhooks, w.Carries ca)
    (hne : ∀ w ∈ desired.webhooks, w.caBundle ≠ "") : current.Carries desired.names ca := by
  intro n hn
  obtain ⟨w, hw, rfl⟩ := List.mem_map.mp hn
  obtain ⟨hbundle, hfail⟩ := hd w hw
  obtain ⟨w', hw', hname, hsame, hpolicy⟩ := hp current desired h w hw
  refine ⟨w', hw', hname, ?_, ?_⟩
  · rw [hsame (hne w hw), hbundle]
  · rw [hpolicy (hfail ▸ Option.some_ne_none _), hfail]

theorem prepareUpdate_eq_upToDate {p : PatchMaker} {current : Except Err WebhookConfiguration}
    {desired : WebhookConfiguration} (h : prepareUpdate p current desired = .upToDate) :
    ∃ config, p.calculate config desired = .ok true ∧ (current = .ok config ∨ config = {}) := by
  unfold prepareUpdate at h
  cases current with
  | ok config =>
    refine ⟨config, ?_, .inl rfl⟩
    grind
  | error e =>
    refine ⟨{}, ?_, .inr rfl⟩
    grind

namespace Publishing

variable (p : PatchMaker) (kind : Kind) (s : Publishing)

def ca : Option String := s.dir .caCertificate

/-- Something is under way that leads to a check or an update: a step of the loop, a
trigger, an event, or an event of a version that the informer has yet to see. -/
def Due : Prop :=
  s.starting = true ∨ s.sending = true ∨ 0 < s.events ∨
    (∃ c, s.site.certifier = some c ∧ c.sending = true) ∨
    ∃ v config, s.cache = some v ∧ s.site.stored kind = some config ∧ v ≠ config

/-- The configuration lacks the bundle of the running certifier. -/
def Lacks : Prop :=
  ∃ c own config, s.site.certifier = some c ∧ c.active = some (kind, own) ∧
    s.site.stored kind = some config ∧ ¬config.Carries own.names s.ca

def Missing : Prop := ¬s.Due kind ∧ s.Lacks kind

/-- The check renews the certificate or was triggered. -/
def needsUpdate (cause : Cause) (env : CheckEnv) : Bool :=
  (checkOutcome env s.dnsNames s.dir).wasRenewed || cause.wasTriggered

def attempt (cause : Cause) (env : CheckEnv) (fault : Option Err) : Option Prepared :=
  s.site.certifier.bind fun c =>
    c.attempt p (s.current fault) (checkOutcome env s.dnsNames s.dir).certificate
      (s.needsUpdate cause env)

/-- The update is answered without an error. -/
def Succeeds (fault : Option Err) : Prop :=
  fault = none ∧ ∃ c own, s.site.certifier = some c ∧ c.active = some (kind, own) ∧
    s.site.Accepts kind own

/-- Steps by which the bundle does not get published: a configuration is created or a
deletion is seen, which no handler is told; the handler cannot read; a check cannot
prepare its update; the server rejects it. -/
def Fails : Act → Prop
  | .edit _ => s.cache = none
  | .observe config => config = none
  | .receive fault => fault ≠ none ∨ s.cache = none
  | .check cause env fault => ∃ e, s.attempt p cause env fault = some (.failed e)
  | .update fault => ¬s.Succeeds kind fault
  | _ => False

/-- Steps that lead to an update. A check of the ticker is one only if it renews. -/
def Retries : Act → Prop
  | .observe config => s.cache ≠ none ∨ s.site.stored kind ≠ config
  | .check cause env _ => s.needsUpdate cause env = true
  | _ => True

/-- The step fails and leaves the configuration without the bundle. -/
def Strands (s : Publishing) (a : Act) : Prop :=
  s.Fails p kind a ∧ (s.step p kind a).Missing kind

def Attempts (s : Publishing) (a : Act) : Prop := s.Fails p kind a ∨ s.Retries kind a

/-- A check is made with the `x509` package as it is. -/
def Act.Issues : Act → Prop
  | .check _ env _ => env.Issues
  | _ => True

/-! ## Runs -/

/-- An update that is under way carries the bundle; the cache has nothing that the
server has not given out. -/
structure Coherent : Prop where
  expected : Expected kind s.site
  prepared : ∀ c own, s.site.certifier = some c → c.active = some (kind, own) →
    c.sending = true → ∀ w ∈ own.webhooks, w.Carries s.ca
  cached : ∀ v, s.cache = some v → v.resourceVersion ≤ s.site.rev
  stored : ∀ config, s.site.stored kind = some config → config.resourceVersion ≤ s.site.rev

variable {p : PatchMaker} {kind : Kind} {s : Publishing}

theorem lacks_iff {c : WebhookCertifier} {own : WebhookConfiguration}
    (hc : s.site.certifier = some c) (hown : c.active = some (kind, own)) :
    s.Lacks kind ↔
      ∃ config, s.site.stored kind = some config ∧ ¬config.Carries own.names s.ca := by
  constructor
  · rintro ⟨c', own', config, hc', hown', hlacks⟩
    rw [hc] at hc'
    cases hc'
    rw [hown] at hown'
    cases hown'
    exact ⟨config, hlacks⟩
  · exact fun ⟨config, hlacks⟩ => ⟨c, own, config, hc, hown, hlacks⟩

theorem attempt_of_active {c : WebhookCertifier} {own desired : WebhookConfiguration}
    {env : CheckEnv} (hc : s.site.certifier = some c) (hown : c.active = some (kind, own))
    (hcert : own.certify (checkOutcome env s.dnsNames s.dir).certificate = some desired)
    (cause : Cause) (fault : Option Err) : s.attempt p cause env fault =
      if s.needsUpdate cause env then some (prepareUpdate p (s.current fault) desired)
      else none := by
  simp only [attempt, WebhookCertifier.attempt, hc, hown, hcert, Option.bind_some]

/-- What is known of a check that the process survives. -/
theorem check_spec (h : Expected kind s.site) {cause : Cause} {env : CheckEnv}
    {fault : Option Err} (ha : s.Allowed p kind (.check cause env fault)) {c' : WebhookCertifier}
    (hc' : (s.step p kind (.check cause env fault)).site.certifier = some c') :
    ∃ c own desired own', s.site.certifier = some c ∧ c.sending = false ∧
      c.active = some (kind, own) ∧
      own.certify (checkOutcome env s.dnsNames s.dir).certificate = some desired ∧
      c'.active = some (kind, own') ∧ own'.webhooks = desired.webhooks ∧ own'.uid = own.uid ∧
      (c'.sending = true ↔ ∃ sent, s.attempt p cause env fault = some (.send sent)) := by
  obtain ⟨c, hc, hsending⟩ := ha.1 _ rfl
  obtain ⟨own, hown⟩ := h c hc
  have hrun : c.checkCertificate p (s.current fault) cause.wasTriggered
      (checkOutcome env s.dnsNames s.dir) = some c' := by
    have : s.site.certifier.bind _ = some c' := hc'
    rwa [hc] at this
  obtain ⟨desired, own', hcert, hown', hw, hu, hsend⟩ := WebhookCertifier.afterCheck_spec hown hrun
  refine ⟨c, own, desired, own', hc, hsending, hown, hcert, hown', hw,
    hu.trans (WebhookConfiguration.uid_certify hcert), hsend.trans ?_⟩
  unfold attempt needsUpdate
  rw [hsending, hc]
  simp

/-- The certificate that a check hands on, if there is a webhook for it. -/
theorem carries_after_check {env : CheckEnv} {own desired : WebhookConfiguration}
    (hcert : own.certify (checkOutcome env s.dnsNames s.dir).certificate = some desired)
    (kind : Kind) (cause : Cause) (fault : Option Err) :
    ∀ w ∈ desired.webhooks, w.Carries (s.step p kind (.check cause env fault)).ca := by
  cases hca : (checkOutcome env s.dnsNames s.dir).certificate with
  | some ca =>
    rw [show (s.step p kind (.check cause env fault)).ca = some ca from
      dir_of_checkOutcome hca cause.wasTriggered, ← hca]
    exact WebhookConfiguration.carries_certify hcert
  | none =>
    intro w hw
    rw [hca] at hcert
    cases (WebhookConfiguration.carries_certify hcert w hw).1

/-- A check that finds nothing to update has seen the bundle in the cache. -/
theorem carries_of_upToDate (hp : p.Sound) {env : CheckEnv} (henv : env.Issues)
    {own desired : WebhookConfiguration}
    (hcert : own.certify (checkOutcome env s.dnsNames s.dir).certificate = some desired)
    {fault : Option Err} (hprep : prepareUpdate p (s.current fault) desired = .upToDate)
    (kind : Kind) (cause : Cause) : desired.names = [] ∨ ∃ config, s.cache = some config ∧
      config.Carries desired.names (s.step p kind (.check cause env fault)).ca := by
  have hne : ∀ w ∈ desired.webhooks, w.caBundle ≠ "" := by
    intro w hw hempty
    refine certificate_checkOutcome_ne henv s.dnsNames s.dir ?_
    rw [← (WebhookConfiguration.carries_certify hcert w hw).1, hempty]
  obtain ⟨config, hcalc, hread⟩ := prepareUpdate_eq_upToDate hprep
  have hcarries := hp.carries hcalc (carries_after_check (p := p) hcert kind cause fault) hne
  rcases hread with hread | rfl
  · have hcache : s.cache = some config := by
      unfold current at hread
      grind
    exact .inr ⟨config, hcache, hcarries⟩
  · refine .inl (List.eq_nil_iff_forall_not_mem.mpr fun n hn => ?_)
    obtain ⟨w, hw, -⟩ := hcarries n hn
    cases hw

/-- What an update does, depending on the answer of the server. -/
theorem update_spec (h : Expected kind s.site) {fault : Option Err}
    (ha : s.Allowed p kind (.update fault)) :
    ∃ c own c', s.site.certifier = some c ∧ c.sending = true ∧ c.active = some (kind, own) ∧
      (s.step p kind (.update fault)).site.certifier = some c' ∧ c'.sending = false ∧
      ((s.Succeeds kind fault ∧ (s.step p kind (.update fault)).site.rev = s.site.rev + 1 ∧
          (s.step p kind (.update fault)).site.stored kind =
            some { own with resourceVersion := s.site.rev + 1 } ∧
          c'.active = some (kind, { own with resourceVersion := s.site.rev + 1 })) ∨
        (¬s.Succeeds kind fault ∧ (s.step p kind (.update fault)).site.rev = s.site.rev ∧
          (s.step p kind (.update fault)).site.stored = s.site.stored ∧
          c'.active = some (kind, own))) := by
  obtain ⟨c, hc, hsending⟩ := ha.1 _ rfl
  obtain ⟨own, hown⟩ := h c hc
  have hsite : (s.step p kind (.update fault)).site = s.site.send fault c kind own :=
    Site.next_update hc hown fault
  have hsucc : s.Succeeds kind fault ↔ fault = none ∧ s.site.Accepts kind own := by
    refine and_congr_right fun _ => ⟨?_, fun hacc => ⟨c, own, hc, hown, hacc⟩⟩
    rintro ⟨c', own', hc', hown', hacc⟩
    rw [hc] at hc'
    cases hc'
    rw [hown] at hown'
    cases hown'
    exact hacc
  rw [hsite, hsucc]
  unfold Site.send
  split
  · next hok =>
    refine ⟨c, own, _, hc, hsending, hown, rfl, rfl, .inl ⟨hok, rfl, Function.update_self .., ?_⟩⟩
    exact WebhookCertifier.active_setConfig hown _
  · next hno => exact ⟨c, own, _, hc, hsending, hown, rfl, rfl, .inr ⟨hno, rfl, rfl, hown⟩⟩

theorem load_spec {get : Kind → Except Err WebhookConfiguration} {c : WebhookCertifier}
    (h : loadWebhookConfiguration get = .ok c) :
    c.sending = false ∧ ∃ k config, c.active = some (k, config) ∧ get k = .ok config := by
  unfold loadWebhookConfiguration at h
  cases hm : get .mutating with
  | ok config =>
    simp only [hm, Except.ok.injEq] at h
    subst h
    exact ⟨rfl, .mutating, config, rfl, hm⟩
  | error e =>
    cases hv : get .validating with
    | ok config =>
      simp only [hm, hv, Except.ok.injEq] at h
      subst h
      exact ⟨rfl, .validating, config, rfl, hv⟩
    | error e' => simp [hm, hv] at h

variable (p kind) in
/-- Loading changes nothing at the server, and takes a copy of what is stored. -/
theorem start_spec (hnone : s.site.certifier = none) (dir : Dir) (dnsNames : List String)
    (faults : Kind → Option Err) :
    (s.step p kind (.start dir dnsNames faults)).site.stored = s.site.stored ∧
      (s.step p kind (.start dir dnsNames faults)).site.rev = s.site.rev ∧
      ∀ c own, (s.step p kind (.start dir dnsNames faults)).site.certifier = some c →
        c.active = some (kind, own) → c.sending = false ∧ s.site.stored kind = some own := by
  show (s.site.next (.start faults)).stored = _ ∧ (s.site.next (.start faults)).rev = _ ∧
    ∀ c own, (s.site.next (.start faults)).certifier = some c → _
  simp only [Site.next]
  cases hload : loadWebhookConfiguration fun kind => s.site.get (faults kind) kind with
  | error e =>
    refine ⟨rfl, rfl, fun c _ hc => ?_⟩
    rw [hnone] at hc
    cases hc
  | ok c =>
    refine ⟨rfl, rfl, fun d own hd hown => ?_⟩
    cases hd
    obtain ⟨hsending, k, config, hactive, hget⟩ := load_spec hload
    rw [hown] at hactive
    cases hactive
    refine ⟨hsending, ?_⟩
    unfold Site.get at hget
    grind

theorem Coherent.step (h : s.Coherent kind) {a : Act} (ha : s.Allowed p kind a) :
    (s.step p kind a).Coherent kind := by
  have hexp : Expected kind (s.step p kind a).site := by
    have := ha.2.2
    cases a <;> exact this
  cases a with
  | edit config =>
    refine ⟨hexp, h.prepared, fun v hv => (h.cached v hv).trans (Nat.le_succ _), ?_⟩
    intro v hv
    have hstored : Function.update s.site.stored kind (config.map (s.site.edited kind)) kind =
        some v := hv
    rw [Function.update_self] at hstored
    obtain ⟨w, -, rfl⟩ := Option.map_eq_some_iff.mp hstored
    exact le_rfl
  | observe config => exact ⟨hexp, h.prepared, ha.2.1, h.stored⟩
  | resync => exact ⟨hexp, h.prepared, h.cached, h.stored⟩
  | receive fault => exact ⟨hexp, h.prepared, h.cached, h.stored⟩
  | check cause env fault =>
    refine ⟨hexp, ?_, h.cached, h.stored⟩
    intro c' own' hc' hown' _
    obtain ⟨c, own, desired, own'', hc, -, hown, hcert, hown'', hw, -⟩ :=
      check_spec h.expected ha hc'
    rw [hown'] at hown''
    cases hown''
    rw [hw]
    exact carries_after_check hcert kind cause fault
  | update fault =>
    obtain ⟨c, own, c', hc, -, hown, hc', hsending, hsite⟩ := update_spec h.expected ha
    refine ⟨hexp, fun d _ hd _ htrue => ?_, ?_, ?_⟩
    · rw [hc'] at hd
      cases hd
      rw [hsending] at htrue
      cases htrue
    · rcases hsite with ⟨-, hrev, -⟩ | ⟨-, hrev, -⟩
      · rw [hrev]
        exact fun v hv => (h.cached v hv).trans (Nat.le_succ _)
      · rw [hrev]
        exact h.cached
    · rcases hsite with ⟨-, hrev, hstored, -⟩ | ⟨-, hrev, hstored, -⟩
      · rw [hrev, hstored]
        rintro v ⟨⟩
        exact le_rfl
      · rw [hrev, hstored]
        exact h.stored
  | start dir dnsNames faults =>
    obtain ⟨hstored, hrev, hload⟩ := start_spec p kind (ha.1 _ rfl) dir dnsNames
      faults
    refine ⟨hexp, fun c own hc hown htrue => ?_, ?_, ?_⟩
    · rw [(hload c own hc hown).1] at htrue
      cases htrue
    · rw [hrev]
      exact h.stored
    · rw [hstored, hrev]
      exact h.stored
  | stop =>
    refine ⟨hexp, fun c _ hc => ?_, h.cached, h.stored⟩
    cases hc

theorem coherent_of_run {tr : List (Publishing × Act)} (h : Run (publishing p kind) tr s) :
    s.Coherent kind := by
  refine h.invariant (P := Coherent kind) (fun s hi => ?_) fun _ _ _ _ hs ha => hs.step ha
  refine ⟨fun c hc => ?_, fun c _ hc => ?_, fun v hv => ?_, hi.2.2.2.2.2.rev⟩
  · rw [hi.1] at hc
    cases hc
  · rw [hi.1] at hc
    cases hc
  · rw [hi.2.1] at hv
    cases hv

/-! ## When the bundle is missing -/

theorem not_missing_edit (h : s.Coherent kind) {config : Option WebhookConfiguration}
    (hcache : s.cache ≠ none) : ¬(s.step p kind (.edit config)).Missing kind := by
  rintro ⟨hdue, c, own, stored, -, -, hstored, -⟩
  obtain ⟨v, hv⟩ := Option.ne_none_iff_exists'.mp hcache
  refine hdue (.inr (.inr (.inr (.inr ⟨v, stored, hv, hstored, ?_⟩))))
  rintro rfl
  have hmap : Function.update s.site.stored kind (config.map (s.site.edited kind)) kind =
      some v := hstored
  rw [Function.update_self] at hmap
  obtain ⟨w, -, rfl⟩ := Option.map_eq_some_iff.mp hmap
  exact absurd (h.cached _ hv) (Nat.not_succ_le_self _)

theorem not_missing_observe {config : Option WebhookConfiguration} (hsome : config ≠ none)
    (hretry : s.cache ≠ none ∨ s.site.stored kind ≠ config) :
    ¬(s.step p kind (.observe config)).Missing kind := by
  rintro ⟨hdue, c, own, stored, -, -, hstored, -⟩
  obtain ⟨v, rfl⟩ := Option.ne_none_iff_exists'.mp hsome
  refine hdue ?_
  by_cases hcache : s.cache = none
  · refine .inr (.inr (.inr (.inr ⟨v, stored, rfl, hstored, ?_⟩)))
    rintro rfl
    exact hretry.elim (fun hne => hne hcache) fun hne => hne hstored
  · obtain ⟨w, hw⟩ := Option.ne_none_iff_exists'.mp hcache
    refine .inr (.inr (.inl ?_))
    show 0 < if s.cache.isSome && true then s.events + 1 else s.events
    rw [hw]
    exact Nat.succ_pos _

/-- A check that calls for an update, and prepares it or finds nothing to do. -/
theorem not_missing_check (hp : p.Sound) (h : s.Coherent kind) {cause : Cause} {env : CheckEnv}
    (henv : env.Issues) {fault : Option Err} (ha : s.Allowed p kind (.check cause env fault))
    (hneeds : s.needsUpdate cause env = true)
    (hok : ∀ e, s.attempt p cause env fault ≠ some (.failed e)) :
    ¬(s.step p kind (.check cause env fault)).Missing kind := by
  rintro ⟨hdue, c', own', stored, hc', hown', hstored, hlacks⟩
  obtain ⟨c, own, desired, own'', hc, -, hown, hcert, hown'', hw, -, hsend⟩ :=
    check_spec h.expected ha hc'
  rw [hown'] at hown''
  cases hown''
  have hattempt := attempt_of_active (p := p) hc hown hcert cause fault
  rw [if_pos hneeds] at hattempt
  have hnames : own'.names = desired.names := by
    unfold WebhookConfiguration.names
    rw [hw]
  rw [hnames] at hlacks
  cases hprep : prepareUpdate p (s.current fault) desired with
  | failed e => exact hok e (by rw [hattempt, hprep])
  | send sent =>
    exact hdue (.inr (.inr (.inr (.inl ⟨c', hc', hsend.mpr ⟨sent, by rw [hattempt, hprep]⟩⟩))))
  | upToDate =>
    rcases carries_of_upToDate hp henv hcert hprep kind cause with hnil | ⟨config, hcache, hcarries⟩
    · refine hlacks fun n hn => ?_
      rw [hnil] at hn
      cases hn
    · by_cases heq : config = stored
      · exact hlacks (heq ▸ hcarries)
      · exact hdue (.inr (.inr (.inr (.inr ⟨config, stored, hcache, hstored, heq⟩))))

theorem not_missing_update (h : s.Coherent kind) {fault : Option Err}
    (ha : s.Allowed p kind (.update fault)) (hok : s.Succeeds kind fault) :
    ¬(s.step p kind (.update fault)).Missing kind := by
  rintro ⟨-, c₁, own₁, stored, hc₁, hown₁, hstored, hlacks⟩
  obtain ⟨c, own, c', hc, hsending, hown, hc', -, ⟨-, -, hstored', hown'⟩ | ⟨hno, -⟩⟩ :=
    update_spec h.expected ha
  · rw [hc'] at hc₁
    cases hc₁
    rw [hown'] at hown₁
    cases hown₁
    rw [hstored'] at hstored
    cases hstored
    exact hlacks (WebhookConfiguration.carries_of_forall (h.prepared c own hc hown hsending))
  · exact hno hok

theorem not_missing_of_retries (hp : p.Sound) (h : s.Coherent kind) {a : Act}
    (ha : s.Allowed p kind a) (henv : a.Issues) (hok : ¬s.Fails p kind a)
    (hretry : s.Retries kind a) : ¬(s.step p kind a).Missing kind := by
  cases a with
  | edit config => exact not_missing_edit h hok
  | observe config => exact not_missing_observe hok hretry
  | resync => exact fun hm => hm.1 (.inr (.inr (.inl (Nat.succ_pos _))))
  | receive fault =>
    obtain ⟨hfault, hcache⟩ := not_or.mp hok
    obtain rfl := not_not.mp hfault
    obtain ⟨v, hv⟩ := Option.ne_none_iff_exists'.mp hcache
    refine fun hm => hm.1 (.inr (.inl ?_))
    show (true && s.cache.isSome) = true
    rw [hv]
    rfl
  | check cause env fault =>
    exact not_missing_check hp h henv ha hretry fun e he => hok ⟨e, he⟩
  | update fault => exact not_missing_update h ha (not_not.mp hok)
  | start dir dnsNames faults => exact fun hm => hm.1 (.inl rfl)
  | stop =>
    rintro ⟨-, c, own, stored, hc, -⟩
    cases hc

/-- The ticker finds a certificate that is valid. -/
theorem missing_of_valid (h : s.Coherent kind) {cause : Cause} {env : CheckEnv}
    {fault : Option Err} (ha : s.Allowed p kind (.check cause env fault))
    (hidle : s.needsUpdate cause env = false) :
    (s.step p kind (.check cause env fault)).Missing kind ↔ s.Missing kind := by
  obtain ⟨hvalid, htick⟩ := Bool.or_eq_false_iff.mp hidle
  obtain rfl : cause = .tick := by
    cases cause
    case tick => rfl
    all_goals cases htick
  have hca : (s.step p kind (.check .tick env fault)).ca = s.ca :=
    congrFun (dir_of_valid hvalid Cause.tick.wasTriggered) _
  obtain ⟨c, hc, -⟩ := ha.1 _ rfl
  obtain ⟨own, hown⟩ := h.expected c hc
  obtain ⟨c', hc'⟩ : ∃ c', (s.step p kind (.check .tick env fault)).site.certifier = some c' := by
    refine Option.ne_none_iff_exists'.mp fun hnone => ?_
    have hrun : s.site.certifier.bind _ = none := hnone
    rw [hc] at hrun
    obtain ⟨k, config, -, hcert⟩ := WebhookCertifier.afterCheck_eq_none.mp hrun
    have hnil := (WebhookConfiguration.certify_eq_none.mp hcert).1
    cases hout : checkOutcome env s.dnsNames s.dir with
    | valid ca => rw [hout] at hnil; cases hnil
    | renewed ca => rw [hout] at hvalid; cases hvalid
  obtain ⟨c₀, own₀, desired, own', hc₀, hsending, hown₀, hcert, hown', hw, -, hsend⟩ :=
    check_spec h.expected ha hc'
  rw [hc] at hc₀
  cases hc₀
  rw [hown] at hown₀
  cases hown₀
  have hidle' : c'.sending = false := by
    rw [attempt_of_active hc hown hcert, hidle] at hsend
    simpa using hsend
  have hnames : own'.names = own.names := by
    rw [← WebhookConfiguration.names_certify hcert]
    unfold WebhookConfiguration.names
    rw [hw]
  refine and_congr (not_congr ?_) ?_
  · have hstart : s.starting = false := ha.2.1
    unfold Due
    rw [hc, hc', hstart]
    simp only [Option.some.injEq, exists_eq_left', hidle', hsending]
    exact Iff.rfl
  · rw [lacks_iff hc hown, lacks_iff hc' hown', hca, hnames]
    exact Iff.rfl

/-- An addition is seen, or the ticker finds a certificate that is valid. -/
theorem missing_of_idle (h : s.Coherent kind) {a : Act} (ha : s.Allowed p kind a)
    (hok : ¬s.Fails p kind a) (hidle : ¬s.Retries kind a) :
    (s.step p kind a).Missing kind ↔ s.Missing kind := by
  cases a with
  | observe config =>
    obtain ⟨hcache, hstored⟩ := not_or.mp hidle
    have hcache := not_not.mp hcache
    have hstored := not_not.mp hstored
    have hevents : (s.step p kind (.observe config)).events = s.events := by
      show (if s.cache.isSome && config.isSome then s.events + 1 else s.events) = _
      rw [hcache]
      rfl
    refine and_congr_left fun _ => not_congr ?_
    unfold Due
    rw [hevents]
    refine or_congr Iff.rfl (or_congr Iff.rfl (or_congr Iff.rfl (or_congr Iff.rfl ?_)))
    constructor
    · rintro ⟨v, stored, hv, hs, hne⟩
      have hs : s.site.stored kind = some stored := hs
      rw [hstored, show config = some v from hv] at hs
      cases hs
      exact absurd rfl hne
    · rintro ⟨v, stored, hv, -⟩
      rw [hcache] at hv
      cases hv
  | check cause env fault =>
    exact missing_of_valid h ha (Bool.not_eq_true _ ▸ hidle)
  | edit | resync | receive | update | start | stop => exact absurd trivial hidle

theorem missing_step (hp : p.Sound) (h : s.Coherent kind) {a : Act} (ha : s.Allowed p kind a)
    (henv : a.Issues) :
    (s.step p kind a).Missing kind ↔
      Strands p kind s a ∨ ¬Attempts p kind s a ∧ s.Missing kind := by
  unfold Strands Attempts
  by_cases hfails : s.Fails p kind a
  · simp [hfails]
  by_cases hretry : s.Retries kind a
  · simp [hfails, hretry, not_missing_of_retries hp h ha henv hfails hretry]
  · simp [hfails, hretry, missing_of_idle h ha hfails hretry]

/-- **A bundle that is missing**: when nothing is under way any more, the configuration
lacks the bundle of the certificate in use exactly if the last attempt to publish
it has failed and left it so, or since then the configuration was made anew or seen
to be deleted, of which no handler is told. The checks of the ticker in between do
not count. -/
theorem bundle_missing_iff (hp : p.Sound) {tr : List (Publishing × Act)}
    (h : Run (publishing p kind) tr s) (henv : ∀ x ∈ tr, x.2.Issues) {c : WebhookCertifier}
    {own config : WebhookConfiguration}
    (hc : s.site.certifier = some c) (hown : c.active = some (kind, own))
    (hstored : s.site.stored kind = some config) (hrest : ¬s.Due kind) :
    ¬config.Carries own.names s.ca ↔ Since (Strands p kind) (Attempts p kind) tr := by
  have hflag : s.Missing kind ↔ Since (Strands p kind) (Attempts p kind) tr := by
    refine Run.since_iff_of (D := fun _ a => a.Issues) (fun s hi hm => ?_)
      (fun _ _ _ hr ha => missing_step hp (coherent_of_run hr) ha) h henv
    obtain ⟨-, c, -, -, hc, -⟩ := hm
    rw [hi.1] at hc
    cases hc
  rw [← hflag]
  unfold Missing
  rw [and_iff_right hrest, lacks_iff hc hown, hstored]
  simp

theorem sound_plain : PatchMaker.plain.Sound := by
  intro current desired h w hw
  have heq : current.webhooks = desired.webhooks := by simpa [PatchMaker.plain] using h
  exact ⟨w, by rw [heq]; exact hw, rfl, fun _ => rfl, fun _ => rfl⟩

theorem issues_numbered : (CheckEnv.numbered (.ok (.generation "1"))).Issues := by
  refine ⟨fun _ => rfl, ?_⟩
  rintro dnsNames c ⟨⟩
  decide

theorem numbered_validated : Numbered .validating validated := by
  refine ⟨?_, ?_⟩ <;>
  · rintro config ⟨⟩
    exact le_rfl

/-- The first check cannot read the configuration; the ticker runs once more. -/
def unread : List (Publishing × Act) × Publishing :=
  played (publishing .plain .validating) [] { site := validated, dir := fun _ => some "1" }
    [.start (fun _ => some "1") ["webhook"] fun _ => none,
      .check .start (.numbered (.ok (.generation "1"))) (some (.new "timeout")),
      .check .tick (.numbered (.ok (.generation "1"))) none]

theorem bundle_missing_iff_unread : unread.2.Lacks .validating ∧
    Since (Strands .plain .validating) (Attempts .plain .validating) unread.1 := by
  have hlacks : ¬(ruled "create").Carries ["w"] unread.2.ca := by
    intro h
    obtain ⟨w, hw, -, hca, -⟩ := h "w" List.mem_cons_self
    cases List.mem_singleton.mp hw
    exact absurd hca (by decide)
  obtain ⟨c, own, hc, hown, hnames⟩ : ∃ c own, unread.2.site.certifier = some c ∧
      c.active = some (.validating, own) ∧ own.names = ["w"] := ⟨_, _, rfl, rfl, rfl⟩
  rw [← hnames] at hlacks
  refine ⟨⟨c, own, _, hc, hown, rfl, hlacks⟩,
    (bundle_missing_iff sound_plain (.plays (.init ?_) ?_) ?_ hc hown rfl ?_).mp hlacks⟩
  · exact ⟨rfl, rfl, rfl, rfl, rfl, numbered_validated⟩
  · refine ⟨⟨?_, trivial, ?_⟩, ⟨?_, rfl, ?_⟩, ⟨?_, rfl, ?_⟩, trivial⟩
    · rintro b ⟨⟩
      rfl
    · rintro c ⟨⟩
      exact ⟨_, rfl⟩
    · rintro b ⟨⟩
      exact ⟨_, rfl, rfl⟩
    · rintro c ⟨⟩
      exact ⟨_, rfl⟩
    · rintro b ⟨⟩
      exact ⟨_, rfl, rfl⟩
    · rintro c ⟨⟩
      exact ⟨_, rfl⟩
  · refine forall_mem_played (List.forall_mem_nil _) ?_
    simp only [List.forall_mem_cons, Act.Issues]
    exact ⟨trivial, issues_numbered, issues_numbered, List.forall_mem_nil _⟩
  · rintro (h | h | h | ⟨c', hc', hsending⟩ | ⟨v, config, ⟨⟩, ⟨⟩, hne⟩)
    · cases h
    · cases h
    · exact absurd h (by decide)
    · cases hc'
      cases hsending
    · exact hne rfl

end Publishing

end ClusterRegistry.Cert
