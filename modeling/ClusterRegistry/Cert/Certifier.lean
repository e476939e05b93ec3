import ClusterRegistry.Api.Types
import ClusterRegistry.Lib.Run

/-!
# The webhook certifier

`pkg/cert/webhook_certifier.go` with the check of `pkg/cert/renewer.go`. The
certifier loads the webhook configuration once and keeps it: each check writes
the certificate into that copy, and an update sends the whole copy under the
resource version that is current by then. Only a successful update replaces
the copy, by the answer of the server; the configuration that the informer
reads is thrown away.

What others have changed since the copy was made is therefore undone by the
next update, without a conflict. An update is right exactly when they have
changed nothing but what it overwrites anyway.
-/

namespace ClusterRegistry.Cert

open Lib

inductive FailurePolicy where
  | ignore
  | fail
  deriving DecidableEq, Repr

/-- A webhook; `rest` stands for its rules, selectors and other fields. -/
structure Webhook where
  name : String
  caBundle : String := ""
  failurePolicy : Option FailurePolicy := none
  rest : String := ""
  deriving DecidableEq

/-- A mutating or a validating webhook configuration. The resource version 0 is
the empty one. -/
structure WebhookConfiguration where
  uid : Nat := 0
  resourceVersion : Nat := 0
  labels : StringMap := ∅
  annotations : StringMap := ∅
  webhooks : List Webhook := []
  deriving DecidableEq

inductive Kind where
  | mutating
  | validating
  deriving DecidableEq, Repr

def lastAppliedConfig : String := "banzaicloud.com/last-applied"

/-- Third-party code: whether the patch between two configurations is empty, and
the annotation that records a configuration. -/
structure PatchMaker where
  calculate : WebhookConfiguration → WebhookConfiguration → Except Err Bool
  lastApplied : WebhookConfiguration → Except Err String

/-! ## The certifier -/

structure WebhookCertifier where
  mutatingWebhookConfiguration : Option WebhookConfiguration
  validatingWebhookConfiguration : Option WebhookConfiguration
  webhookCertBundleReadyz : Bool := false
  /-- An update has been prepared and not been sent yet. -/
  sending : Bool := false
  /-- Not in the source: the copy as it was loaded, or as the server answered it. -/
  origin : WebhookConfiguration

namespace WebhookCertifier

/-- The switch over the two configurations. -/
def active (c : WebhookCertifier) : Option (Kind × WebhookConfiguration) :=
  match c.mutatingWebhookConfiguration, c.validatingWebhookConfiguration with
  | some config, _ => some (.mutating, config)
  | none, some config => some (.validating, config)
  | none, none => none

def setConfig (c : WebhookCertifier) (config : WebhookConfiguration) : WebhookCertifier :=
  match c.mutatingWebhookConfiguration with
  | some _ => { c with mutatingWebhookConfiguration := some config }
  | none => { c with validatingWebhookConfiguration := some config }

end WebhookCertifier

/-- `loadWebhookConfiguration`, for the answers to the two read calls. -/
def loadWebhookConfiguration (get : Kind → Except Err WebhookConfiguration) :
    Except Err WebhookCertifier :=
  match get .mutating with
  | .ok config =>
    .ok { mutatingWebhookConfiguration := some config, validatingWebhookConfiguration := none,
          origin := config }
  | .error mutatingErr =>
    match get .validating with
    | .ok config =>
      .ok { mutatingWebhookConfiguration := none, validatingWebhookConfiguration := some config,
            origin := config }
    | .error validatingErr =>
      .error ((Err.new (mutatingErr.msg ++ "; " ++ validatingErr.msg)).wrapIf
        "retrieving webhook configuration failed for each known webhook type")

def Webhook.certify (ca : String) (w : Webhook) : Webhook :=
  { w with failurePolicy := some .fail, caBundle := ca }

/-- The loop over the webhooks in the after check function; without a certificate
the first turn of the loop panics. -/
def WebhookConfiguration.certify (certificate : Option String) (config : WebhookConfiguration) :
    Option WebhookConfiguration :=
  match certificate with
  | some ca => some { config with webhooks := config.webhooks.map (·.certify ca) }
  | none => if config.webhooks.isEmpty then some config else none

/-- What `updateCertificate` comes to before the update is sent. -/
inductive Prepared where
  | failed (err : Err)
  | upToDate
  | send (config : WebhookConfiguration)

/-- `updateCertificate` up to the update, for the answer to its read call. -/
def prepareUpdate (p : PatchMaker) (current : Except Err WebhookConfiguration)
    (desired : WebhookConfiguration) : Prepared :=
  let found : Except Err WebhookConfiguration :=
    match current with
    | .ok config => .ok config
    | .error e =>
      if e.reason = .notFound then .ok {}
      else .error (e.wrapIf "retrieving webhook configuration failed")
  match found with
  | .error e => .failed e
  | .ok currentConfig =>
    match p.calculate currentConfig desired with
    | .error e => .failed (e.wrapIf "calculating config patch failed")
    | .ok true => .upToDate
    | .ok false =>
      match p.lastApplied desired with
      | .error e =>
        .failed (e.wrapIf "setting last applied annotation on webhook configuration failed")
      | .ok value =>
        .send { desired with
          annotations := desired.annotations.insert lastAppliedConfig value
          resourceVersion := currentConfig.resourceVersion }

/-- The outcome of verifying the certificate, and of renewing an invalid one:
the CA certificate, if there is one. -/
inductive Verified where
  | valid (ca : String)
  | renewed (ca : Option String)

namespace Verified

def certificate : Verified → Option String
  | valid ca => some ca
  | renewed ca => ca

def wasRenewed : Verified → Bool
  | valid _ => false
  | renewed _ => true

end Verified

namespace WebhookCertifier

/-- The after check function; `none` is a panic. -/
def afterCheck (p : PatchMaker) (current : Except Err WebhookConfiguration)
    (certificate : Option String) (needsUpdate : Bool) (c : WebhookCertifier) :
    Option WebhookCertifier :=
  match c.active with
  -- invalid certifier, all known webhook configurations are nil
  | none => some c
  | some (_, config) =>
    match config.certify certificate with
    | none => none
    | some desired =>
      if needsUpdate then
        match prepareUpdate p current desired with
        | .failed _ => some (c.setConfig desired)
        | .upToDate => some { c.setConfig desired with webhookCertBundleReadyz := true }
        | .send config => some { c.setConfig config with sending := true }
      else some (c.setConfig desired)

/-- `checkCertificate`, triggered by the informer or by the ticker. -/
def checkCertificate (p : PatchMaker) (current : Except Err WebhookConfiguration)
    (wasTriggered : Bool) (verified : Verified) (c : WebhookCertifier) :
    Option WebhookCertifier :=
  c.afterCheck p current verified.certificate (verified.wasRenewed || wasTriggered)

end WebhookCertifier

/-! ## The API server and others -/

structure Site where
  stored : Kind → Option WebhookConfiguration
  rev : Nat
  /-- The running certifier, if any. -/
  certifier : Option WebhookCertifier := none

inductive Act where
  /-- Others create, change or delete a configuration. -/
  | edit (kind : Kind) (config : Option WebhookConfiguration)
  | start (faults : Kind → Option Err)
  /-- The read call goes to a cache that may lag: any answer is possible. -/
  | check (p : PatchMaker) (current : Except Err WebhookConfiguration) (wasTriggered : Bool)
      (verified : Verified)
  | update (fault : Option Err)
  | stop

namespace Site

def get (s : Site) (fault : Option Err) (kind : Kind) : Except Err WebhookConfiguration :=
  match fault with
  | some e => .error e
  | none =>
    match s.stored kind with
    | some config => .ok config
    | none => .error ⟨.notFound, "not found"⟩

/-- The UID and the version come from the server. -/
def edited (s : Site) (kind : Kind) (config : WebhookConfiguration) : WebhookConfiguration :=
  { config with
    uid := ((s.stored kind).map (·.uid)).getD (s.rev + 1), resourceVersion := s.rev + 1 }

/-- The update is for what is stored, under its version. -/
def Accepts (s : Site) (kind : Kind) (desired : WebhookConfiguration) : Prop :=
  ∃ config, s.stored kind = some config ∧ desired.uid = config.uid ∧
    desired.resourceVersion = config.resourceVersion

instance (s : Site) (kind : Kind) (desired : WebhookConfiguration) :
    Decidable (s.Accepts kind desired) :=
  inferInstanceAs (Decidable (∃ config ∈ s.stored kind, _))

/-- `Update`, and what the certifier does with the answer. -/
def send (s : Site) (fault : Option Err) (c : WebhookCertifier) (kind : Kind)
    (desired : WebhookConfiguration) : Site :=
  if fault = none ∧ s.Accepts kind desired then
    let answer := { desired with resourceVersion := s.rev + 1 }
    { stored := Function.update s.stored kind (some answer)
      rev := s.rev + 1
      certifier := some { c.setConfig answer with
        webhookCertBundleReadyz := true, sending := false, origin := answer } }
  else { s with certifier := some { c with sending := false } }

def next (s : Site) : Act → Site
  | .edit kind config =>
    { s with
      stored := Function.update s.stored kind (config.map (s.edited kind))
      rev := s.rev + 1 }
  | .start faults =>
    match loadWebhookConfiguration fun kind => s.get (faults kind) kind with
    | .ok c => { s with certifier := some c }
    | .error _ => s
  | .check p current wasTriggered verified =>
    { s with certifier := s.certifier.bind (·.checkCertificate p current wasTriggered verified) }
  | .update fault =>
    match s.certifier with
    | none => s
    | some c =>
      match c.active with
      | none => s
      | some (kind, desired) => s.send fault c kind desired
  | .stop => { s with certifier := none }

/-- One thing at a time: an update that has been prepared is sent first. -/
def Enabled (s : Site) : Act → Prop
  | .edit _ _ => True
  | .start _ => s.certifier = none
  | .check _ _ _ _ => ∃ c, s.certifier = some c ∧ c.sending = false
  | .update _ => ∃ c, s.certifier = some c ∧ c.sending = true
  | .stop => True

end Site

def certification : System Site Act where
  init := fun s => s.certifier = none
  ok := fun _ s a => s.Enabled a
  step := Site.next

/-! ## What an update may change -/

def Webhook.frame (w : Webhook) : Webhook := { w with caBundle := "", failurePolicy := none }

/-- Everything but the CA bundles, the failure policies, the annotation of the
patch maker and the version. -/
def WebhookConfiguration.frame (c : WebhookConfiguration) : WebhookConfiguration :=
  { c with
    resourceVersion := 0
    annotations := c.annotations.erase lastAppliedConfig
    webhooks := c.webhooks.map Webhook.frame }

namespace WebhookConfiguration

theorem frame_certify {certificate : Option String} {c c' : WebhookConfiguration}
    (h : c.certify certificate = some c') : c'.frame = c.frame := by
  unfold certify at h
  split at h
  · next ca =>
    cases h
    unfold frame
    rw [List.map_map]
    rfl
  · split at h
    · cases h
      rfl
    · cases h

end WebhookConfiguration

theorem erase_insert (m : StringMap) (k v : String) : (m.insert k v).erase k = m.erase k := by
  refine Finmap.ext_lookup fun a => ?_
  rw [Map.lookup_erase_if, Map.lookup_erase_if, Map.lookup_insert_if]
  split <;> rfl

theorem frame_prepareUpdate {p : PatchMaker} {current : Except Err WebhookConfiguration}
    {desired config : WebhookConfiguration} (h : prepareUpdate p current desired = .send config) :
    config.frame = desired.frame := by
  unfold prepareUpdate at h
  dsimp only at h
  split at h
  · cases h
  · split at h
    · cases h
    · cases h
    · split at h
      · cases h
      · cases h
        unfold WebhookConfiguration.frame
        rw [erase_insert]

namespace WebhookCertifier

variable {c c' : WebhookCertifier} {kind : Kind} {config : WebhookConfiguration}

/-- The copy is as it was loaded or answered, but for what updates may change. -/
def Tracks (c : WebhookCertifier) : Prop :=
  ∀ kind config, c.active = some (kind, config) → config.frame = c.origin.frame

theorem active_setConfig (h : c.active = some (kind, config)) (new : WebhookConfiguration) :
    (c.setConfig new).active = some (kind, new) := by
  obtain ⟨mutating, validating, ready, sending, origin⟩ := c
  cases mutating with
  | some _ =>
    cases h
    rfl
  | none =>
    cases validating with
    | some _ =>
      cases h
      rfl
    | none => cases h

theorem origin_setConfig (new : WebhookConfiguration) : (c.setConfig new).origin = c.origin := by
  unfold setConfig
  split <;> rfl

/-- The flags play no part. -/
theorem Tracks.congr (h : c.Tracks) (hactive : c'.active = c.active)
    (horigin : c'.origin = c.origin) : c'.Tracks := by
  unfold Tracks
  rw [hactive, horigin]
  exact h

theorem Tracks.setConfig (h : c.Tracks) (ha : c.active = some (kind, config))
    {new : WebhookConfiguration} (hnew : new.frame = config.frame) : (c.setConfig new).Tracks := by
  intro kind' config' ha'
  rw [active_setConfig ha] at ha'
  cases ha'
  rw [origin_setConfig]
  exact hnew.trans (h kind config ha)

theorem tracks_load {get : Kind → Except Err WebhookConfiguration}
    (h : loadWebhookConfiguration get = .ok c) : c.Tracks := by
  intro kind config ha
  unfold loadWebhookConfiguration at h
  split at h
  · cases h
    cases ha
    rfl
  · split at h
    · cases h
      cases ha
      rfl
    · cases h

theorem Tracks.checkCertificate (h : c.Tracks) {p : PatchMaker}
    {current : Except Err WebhookConfiguration} {wasTriggered : Bool} {verified : Verified}
    (hc : c.checkCertificate p current wasTriggered verified = some c') : c'.Tracks := by
  unfold WebhookCertifier.checkCertificate afterCheck at hc
  split at hc
  · cases hc
    exact h
  · next kind config ha =>
    split at hc
    · cases hc
    · next desired hdesired =>
      have hset := h.setConfig ha (WebhookConfiguration.frame_certify hdesired)
      split at hc
      · split at hc
        · cases hc
          exact hset
        · cases hc
          exact hset.congr rfl rfl
        · next sent hsent =>
          cases hc
          have hsent :=
            (frame_prepareUpdate hsent).trans (WebhookConfiguration.frame_certify hdesired)
          exact (h.setConfig ha hsent).congr rfl rfl
      · cases hc
        exact hset

end WebhookCertifier

/-! ## Runs -/

namespace Site

def Tracks (s : Site) : Prop := ∀ c, s.certifier = some c → c.Tracks

theorem tracks_send {s : Site} {fault : Option Err} {c : WebhookCertifier} {kind : Kind}
    {desired : WebhookConfiguration} (h : c.Tracks) (ha : c.active = some (kind, desired)) :
    (s.send fault c kind desired).Tracks := by
  intro c' hc'
  unfold send at hc'
  split at hc'
  · cases hc'
    intro kind' config' ha'
    have hactive :=
      WebhookCertifier.active_setConfig ha { desired with resourceVersion := s.rev + 1 }
    cases hactive.symm.trans ha'
    rfl
  · cases hc'
    exact h.congr rfl rfl

/-- **One step** keeps the copy in line with its origin. -/
theorem Tracks.next {s : Site} (h : s.Tracks) (a : Act) : (s.next a).Tracks := by
  cases a with
  | edit kind config => exact h
  | start faults =>
    unfold Site.next
    dsimp only
    split
    · next c hload =>
      intro c' hc'
      cases hc'
      exact WebhookCertifier.tracks_load hload
    · exact h
  | check p current wasTriggered verified =>
    intro c' hc'
    obtain ⟨c, hc, hcheck⟩ := Option.bind_eq_some_iff.mp hc'
    exact (h c hc).checkCertificate hcheck
  | update fault =>
    unfold Site.next
    dsimp only
    split
    · exact h
    · next c hc =>
      split
      · exact h
      · next kind desired ha => exact tracks_send (h c hc) ha
  | stop => exact nofun

/-- An update leaves alone what it has no business with. -/
def Framed (s : Site) : Act → Prop
  | .update fault => ∀ kind, ((s.next (.update fault)).stored kind).map (·.frame) =
      (s.stored kind).map (·.frame)
  | _ => True

/-- What is stored when an update is accepted is as it was loaded or last
answered, but for what updates may change. -/
def Undisturbed (s : Site) : Act → Prop
  | .update fault => ∀ c kind desired config, s.certifier = some c →
      c.active = some (kind, desired) → fault = none → s.Accepts kind desired →
        s.stored kind = some config → config.frame = c.origin.frame
  | _ => True

theorem next_update {s : Site} {c : WebhookCertifier} {kind : Kind}
    {desired : WebhookConfiguration} (hc : s.certifier = some c)
    (ha : c.active = some (kind, desired)) (fault : Option Err) :
    s.next (.update fault) = s.send fault c kind desired := by
  simp only [next, hc, ha]

/-- The update that is accepted replaces what is stored by the copy. -/
theorem framed_send_iff {s : Site} {c : WebhookCertifier} {kind : Kind}
    {desired config : WebhookConfiguration} (hframe : desired.frame = c.origin.frame)
    (hconfig : s.stored kind = some config) (hacc : s.Accepts kind desired) :
    (∀ k, ((s.send none c kind desired).stored k).map (·.frame) = (s.stored k).map (·.frame)) ↔
      config.frame = c.origin.frame := by
  have hstored : ∀ k, (s.send none c kind desired).stored k =
      if k = kind then some { desired with resourceVersion := s.rev + 1 } else s.stored k := by
    intro k
    unfold send
    rw [if_pos ⟨rfl, hacc⟩]
    exact Function.update_apply _ _ _ _
  constructor
  · intro h
    have hkind := h kind
    rw [hstored, if_pos rfl, hconfig] at hkind
    exact (Option.some.inj hkind).symm.trans hframe
  · intro hsame k
    rw [hstored]
    split
    · next e =>
      subst e
      rw [hconfig]
      exact congrArg some (hframe.trans hsame.symm)
    · rfl

theorem framed_update_iff {s : Site} (h : s.Tracks) (fault : Option Err) :
    s.Framed (.update fault) ↔ s.Undisturbed (.update fault) := by
  by_cases hsend : ∃ c kind desired, s.certifier = some c ∧ c.active = some (kind, desired) ∧
      fault = none ∧ s.Accepts kind desired
  · obtain ⟨c, kind, desired, hc, ha, rfl, hacc⟩ := hsend
    obtain ⟨config, hconfig, -⟩ := id hacc
    show (∀ k, ((s.next (.update none)).stored k).map (·.frame) = (s.stored k).map (·.frame)) ↔ _
    rw [next_update hc ha, framed_send_iff (h c hc kind desired ha) hconfig hacc]
    constructor
    · intro hsame c' kind' desired' config' hc' ha' _ _ hconfig'
      cases hc.symm.trans hc'
      cases ha.symm.trans ha'
      cases hconfig.symm.trans hconfig'
      exact hsame
    · exact fun hu => hu c kind desired config hc ha rfl hacc hconfig
  · refine iff_of_true (fun k => ?_) fun c kind desired _ hc ha hf hacc =>
      absurd ⟨c, kind, desired, hc, ha, hf, hacc⟩ hsend
    have hsame : (s.next (.update fault)).stored = s.stored := by
      cases hc : s.certifier with
      | none => simp only [next, hc]
      | some c =>
        cases ha : c.active with
        | none => simp only [next, hc, ha]
        | some active =>
          rw [next_update hc ha]
          unfold send
          rw [if_neg fun hacc => hsend ⟨c, active.1, active.2, hc, ha, hacc⟩]
    rw [hsame]

end Site

/-- **Updates leave the rest alone** exactly when nobody else has changed it
since the configuration was loaded or last answered. -/
theorem update_framed_iff {tr : List (Site × Act)} {s : Site} (h : Run certification tr s) :
    ∀ p ∈ tr, p.1.Framed p.2 ↔ p.1.Undisturbed p.2 := by
  rintro ⟨v, a⟩ hm
  obtain ⟨tr', hv, -⟩ := h.of_mem hm
  have htracks : v.Tracks := by
    refine hv.invariant (P := Site.Tracks) (fun v hi c hc => ?_) fun _ _ a _ hs _ => hs.next a
    rw [show v.certifier = none from hi] at hc
    cases hc
  cases a with
  | update fault => exact Site.framed_update_iff htracks fault
  | edit kind config => exact Iff.rfl
  | start faults => exact Iff.rfl
  | check p current wasTriggered verified => exact Iff.rfl
  | stop => exact Iff.rfl

/-- A patch maker that looks at the webhooks. -/
def PatchMaker.plain : PatchMaker where
  calculate current desired := .ok (current.webhooks = desired.webhooks)
  lastApplied _ := .ok "applied"

/-- A validating configuration with one webhook. -/
def ruled (rules : String) : WebhookConfiguration :=
  { uid := 1, resourceVersion := 1, webhooks := [{ name := "w", rest := rules }] }

def validated : Site where
  stored
    | .mutating => none
    | .validating => some (ruled "create")
  rev := 1

/-- The certifier starts and reads the configuration. -/
def loaded : List Act := [.start fun _ => none]

/-- A check that the informer has triggered, and the update. -/
def checked (version : Nat) (rules : String) : List Act :=
  [.check .plain (.ok { ruled rules with resourceVersion := version }) true (.valid "ca"),
    .update none]

/-- The rules are changed after the configuration was loaded. -/
def rerouted : Act := .edit .validating (some (ruled "create or update"))

def undisturbed : List (Site × Act) × Site :=
  played certification [] validated (loaded ++ checked 1 "create")

def disturbed : List (Site × Act) × Site :=
  played certification [] validated (loaded ++ rerouted :: checked 2 "create or update")

theorem run_undisturbed : Run certification undisturbed.1 undisturbed.2 :=
  Run.plays (.init rfl) ⟨rfl, ⟨_, rfl, rfl⟩, ⟨_, rfl, rfl⟩, trivial⟩

theorem run_disturbed : Run certification disturbed.1 disturbed.2 :=
  Run.plays (.init rfl) ⟨rfl, trivial, ⟨_, rfl, rfl⟩, ⟨_, rfl, rfl⟩, trivial⟩

theorem update_framed_iff_undisturbed : ∃ v, (v, Act.update none) ∈ undisturbed.1 ∧
    v.Undisturbed (.update none) ∧ v.Framed (.update none) := by
  have hlast : ∃ v, (v, Act.update none) ∈ undisturbed.1 ∧ v.Undisturbed (.update none) := by
    refine ⟨_, List.mem_cons_self .., ?_⟩
    intro c kind desired config hc ha _ _ hs
    cases hc
    cases ha
    cases hs
    decide +kernel
  obtain ⟨v, hm, hu⟩ := hlast
  exact ⟨v, hm, hu, (update_framed_iff run_undisturbed _ hm).mpr hu⟩

/-- The update puts the old rules back. -/
theorem not_framed_disturbed : Run certification disturbed.1 disturbed.2 ∧
    ∃ v, (v, Act.update none) ∈ disturbed.1 ∧ ¬v.Framed (.update none) := by
  refine ⟨run_disturbed, _, List.mem_cons_self .., fun h => ?_⟩
  exact absurd (h .validating) (by decide +kernel)

end ClusterRegistry.Cert
