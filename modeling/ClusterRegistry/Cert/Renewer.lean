import ClusterRegistry.Cert.Certifier
import ClusterRegistry.Lib.Effect

/-!
# The renewal of certificates

`pkg/cert/renewer.go` and `pkg/cert/certificate.go`. A certificate is four files
in a directory. A check loads and verifies it, and renews it if it is invalid:
the new one is written file by file, in the order of a map loop, and a failure
leaves the files of two generations behind. The errors of all this are logged;
then the after check functions run in any case, with whatever certificate there
is.

The cryptography is ideal: `X509` says which key belongs to which certificate,
which one has signed it, and for which names and times it is good.
-/

namespace ClusterRegistry.Cert

open Lib

/-! ## Certificates -/

inductive FileName where
  | caCertificate
  | caPrivateKey
  | serverCertificate
  | serverPrivateKey
  deriving DecidableEq, Repr

def FileName.all : List FileName :=
  [.caCertificate, .caPrivateKey, .serverCertificate, .serverPrivateKey]

theorem FileName.mem_all (f : FileName) : f ∈ FileName.all := by
  cases f <;> decide

structure Certificate where
  caCertificate : String
  caPrivateKey : String
  serverCertificate : String
  serverPrivateKey : String
  deriving DecidableEq

/-- The content of a file of the certificate. -/
def Certificate.file (c : Certificate) : FileName → String
  | .caCertificate => c.caCertificate
  | .caPrivateKey => c.caPrivateKey
  | .serverCertificate => c.serverCertificate
  | .serverPrivateKey => c.serverPrivateKey

def newCertificateFromFileContents (fileContents : FileName → String) : Certificate where
  caCertificate := fileContents .caCertificate
  caPrivateKey := fileContents .caPrivateKey
  serverCertificate := fileContents .serverCertificate
  serverPrivateKey := fileContents .serverPrivateKey

theorem file_newCertificateFromFileContents (fileContents : FileName → String) (f : FileName) :
    (newCertificateFromFileContents fileContents).file f = fileContents f := by
  cases f <;> rfl

/-- What is true of PEM encoded certificates and keys. -/
structure X509 where
  /-- The key belongs to the certificate. -/
  keyPair : (certificate key : String) → Bool
  signedBy : (ca certificate : String) → Bool
  listed : (certificate dnsName : String) → Bool
  /-- Both certificates are within their validity. -/
  validAt : (ca certificate : String) → (time : Nat) → Bool

/-- `Verify`; an empty name is not looked for in the certificate. -/
def Certificate.verify (x : X509) (c : Certificate) (dnsName : String) (checkTime : Nat) : Bool :=
  x.keyPair c.serverCertificate c.serverPrivateKey &&
  x.signedBy c.caCertificate c.serverCertificate &&
  (dnsName == "" || x.listed c.serverCertificate dnsName) &&
  x.validAt c.caCertificate c.serverCertificate checkTime

/-! ## The directory -/

/-- The files in the certificate directory. -/
abbrev Dir : Type := FileName → Option String

/-- What a check cannot control: third-party code, the file system, the order of
the loops over files, and the clock, which is read as half a year ahead. -/
structure CheckEnv where
  x509 : X509
  checkTime : Nat := 0
  readFault : FileName → Option Err := fun _ => none
  readOrder : Shuffle FileName := .refl _
  /-- `NewCertificate`: RSA keys and x509 certificates are third-party code. -/
  newCertificate : (dnsNames : List String) → Except Err Certificate
  mkdirAll : Option Err := none
  /-- The error of writing a file, with what is left of it. -/
  writeFault : FileName → Option (Err × Option String) := fun _ => none
  writeOrder : Shuffle FileName := .refl _

section

variable (env : CheckEnv)

/-- `os.ReadFile`. -/
def readFile (dir : Dir) (f : FileName) : Except Err String :=
  match env.readFault f with
  | some e => .error e
  | none =>
    match dir f with
    | some content => .ok content
    | none => .error ⟨.notFound, "no such file or directory"⟩

/-- The error of reading a file, if any. -/
def readError (dir : Dir) (f : FileName) : Option String :=
  match readFile env dir f with
  | .error e => some (e.wrapIf "reading certificate file failed").msg
  | .ok _ => none

def newCertificateFromDirectory (dir : Dir) : Except Err Certificate :=
  match (env.readOrder.arrange FileName.all).filterMap (readError env dir) with
  | [] => .ok (newCertificateFromFileContents fun f => (readFile env dir f).toOption.getD "")
  | errs => .error (.new (String.intercalate "; " errs))

/-- The loop of `Write` over the files. -/
def writeFiles (c : Certificate) : List FileName → Eff Dir Err Unit
  | [] => fun dir => (.ok (), dir)
  | f :: rest => fun dir =>
    match env.writeFault f with
    | some (e, left) =>
      (.error (e.wrapIf "writing certificate file failed"), Function.update dir f left)
    | none => writeFiles c rest (Function.update dir f (some (c.file f)))

def Certificate.write (c : Certificate) : Eff Dir Err Unit := fun dir =>
  match env.mkdirAll with
  | some e => (.error (e.wrapIf "creating directory path failed"), dir)
  | none => writeFiles env c (env.writeOrder.arrange FileName.all) dir

/-! ## The check -/

/-- An empty list stands for the empty name. -/
def checkedNames (dnsNames : List String) : List String :=
  if dnsNames.isEmpty then [""] else dnsNames

def verifyCertificate (dnsNames : List String) (dir : Dir) :
    Bool × Option Certificate × Option Err :=
  match newCertificateFromDirectory env dir with
  | .error e => (false, none, some (e.wrapIf "loading certificate from directory failed"))
  | .ok c => ((checkedNames dnsNames).all (c.verify env.x509 · env.checkTime), some c, none)

def renewCertificate (dnsNames : List String) : Eff Dir Err Certificate := fun dir =>
  match env.newCertificate dnsNames with
  | .error e => (.error (e.wrapIf "creating new certificate for DNS names failed"), dir)
  | .ok c =>
    match c.write env dir with
    | (.error e, dir) =>
      (.error (e.wrapIf "writing renewed certificate to directory failed"), dir)
    | (.ok _, dir) => (.ok c, dir)

/-- A call of an after check function; the certificate may be nil. -/
structure Call where
  certificate : Option Certificate
  needsUpdate : Bool

abbrev AfterCheckFunction : Type := Call → Option Err

/-- `checkCertificate`: the calls it makes with their errors, which are logged, and
the directory they find. -/
def checkCertificate (dnsNames : List String) (afterCheckFunctions : List AfterCheckFunction)
    (wasTriggered : Bool) (dir : Dir) : List (Call × Option Err) × Dir :=
  let (isValid, certificate, _) := verifyCertificate env dnsNames dir
  let (certificate, wasRenewed, dir) :=
    if isValid then (certificate, false, dir)
    else
      match renewCertificate env dnsNames dir with
      | (.ok c, dir) => (some c, true, dir)
      -- the error is logged, and the certificate is nil
      | (.error _, dir) => (none, true, dir)
  let call : Call := ⟨certificate, wasRenewed || wasTriggered⟩
  (afterCheckFunctions.map fun f => (call, f call), dir)

end

/-! ## What is in the directory -/

/-- The files are those of the certificate. -/
def Certificate.IsIn (c : Certificate) (dir : Dir) : Prop := ∀ f, dir f = some (c.file f)

section

variable {env : CheckEnv} {dir : Dir} {c : Certificate}

theorem readError_eq_none {f : FileName} :
    readError env dir f = none ↔ ∃ content, readFile env dir f = .ok content := by
  unfold readError
  cases readFile env dir f <;> simp

theorem readFile_eq_ok {f : FileName} {content : String} :
    readFile env dir f = .ok content ↔ env.readFault f = none ∧ dir f = some content := by
  unfold readFile
  cases env.readFault f with
  | some e => simp
  | none => cases dir f <;> simp

/-- **Loading**: all four files can be read, and they are the certificate. -/
theorem newCertificateFromDirectory_eq_ok :
    newCertificateFromDirectory env dir = .ok c ↔
      (∀ f, env.readFault f = none) ∧ c.IsIn dir := by
  have hall : (env.readOrder.arrange FileName.all).filterMap (readError env dir) = [] ↔
      ∀ f, ∃ content, readFile env dir f = .ok content := by
    rw [List.filterMap_eq_nil_iff]
    simp only [Shuffle.mem, FileName.mem_all, true_imp_iff, readError_eq_none]
  unfold newCertificateFromDirectory
  constructor
  · intro h
    split at h
    · next hnil =>
      cases h
      have hread := hall.mp hnil
      refine ⟨fun f => ?_, fun f => ?_⟩
      · obtain ⟨content, hf⟩ := hread f
        exact (readFile_eq_ok.mp hf).1
      · obtain ⟨content, hf⟩ := hread f
        rw [file_newCertificateFromFileContents, hf]
        exact (readFile_eq_ok.mp hf).2
    · cases h
  · rintro ⟨hfault, hin⟩
    have hread : ∀ f, readFile env dir f = .ok (c.file f) := fun f =>
      readFile_eq_ok.mpr ⟨hfault f, hin f⟩
    rw [hall.mpr fun f => ⟨_, hread f⟩]
    simp only [hread]
    rfl

/-- **Writing**: the loop goes through exactly if no file fails, and then every
file it has visited is new. -/
theorem writeFiles_spec (files : List FileName) (dir : Dir) :
    (∃ f ∈ files, env.writeFault f ≠ none) ∧ (∃ e, (writeFiles env c files dir).1 = .error e) ∨
    (∀ f ∈ files, env.writeFault f = none) ∧ (writeFiles env c files dir).1 = .ok () ∧
      ∀ f, (writeFiles env c files dir).2 f = if f ∈ files then some (c.file f) else dir f := by
  induction files generalizing dir with
  | nil => exact .inr ⟨by simp, rfl, fun f => by simp [writeFiles]⟩
  | cons f files ih =>
    unfold writeFiles
    cases hf : env.writeFault f with
    | some fault => exact .inl ⟨⟨f, List.mem_cons_self, by simp [hf]⟩, _, rfl⟩
    | none =>
      rcases ih (Function.update dir f (some (c.file f))) with ⟨⟨g, hg, hfault⟩, herr⟩ |
        ⟨hnone, hok, hdir⟩
      · exact .inl ⟨⟨g, List.mem_cons_of_mem _ hg, hfault⟩, herr⟩
      · refine .inr ⟨List.forall_mem_cons.mpr ⟨hf, hnone⟩, hok, fun g => ?_⟩
        rw [hdir g]
        by_cases hg : g = f
        · subst hg
          simp
        · simp [hg]

end

/-- A new certificate can be made and all of its files can be written. -/
def CheckEnv.Renews (env : CheckEnv) (dnsNames : List String) : Prop :=
  (∃ c, env.newCertificate dnsNames = .ok c) ∧ env.mkdirAll = none ∧ ∀ f, env.writeFault f = none

/-- A valid certificate can be loaded from the directory. -/
def CheckEnv.Loads (env : CheckEnv) (dnsNames : List String) (dir : Dir) : Prop :=
  (∀ f, env.readFault f = none) ∧ ∃ c : Certificate, c.IsIn dir ∧
    ∀ dnsName ∈ checkedNames dnsNames, c.verify env.x509 dnsName env.checkTime = true

section

variable {env : CheckEnv}

theorem write_spec (c : Certificate) (dir : Dir) :
    ¬(env.mkdirAll = none ∧ ∀ f, env.writeFault f = none) ∧
      (∃ e dir', c.write env dir = (.error e, dir')) ∨
    (env.mkdirAll = none ∧ ∀ f, env.writeFault f = none) ∧
      ∃ dir', c.write env dir = (.ok (), dir') ∧ c.IsIn dir' := by
  unfold Certificate.write
  cases hm : env.mkdirAll with
  | some e =>
    refine .inl ⟨?_, _, _, rfl⟩
    rintro ⟨h, -⟩
    cases h
  | none =>
    dsimp only
    rcases hrun : writeFiles env c (env.writeOrder.arrange FileName.all) dir with ⟨r, dir'⟩
    have hspec := @writeFiles_spec env c (env.writeOrder.arrange FileName.all) dir
    rw [hrun] at hspec
    rcases hspec with ⟨⟨f, -, hf⟩, e, rfl⟩ | ⟨hnone, rfl, hdir⟩
    · exact .inl ⟨fun h => hf (h.2 f), e, dir', rfl⟩
    · simp only [Shuffle.mem, FileName.mem_all, if_true, true_imp_iff] at hnone hdir
      exact .inr ⟨⟨rfl, hnone⟩, dir', rfl, hdir⟩

theorem renewCertificate_spec (dnsNames : List String) (dir : Dir) :
    ¬env.Renews dnsNames ∧ (∃ e dir', renewCertificate env dnsNames dir = (.error e, dir')) ∨
    env.Renews dnsNames ∧ ∃ c dir', env.newCertificate dnsNames = .ok c ∧
      renewCertificate env dnsNames dir = (.ok c, dir') ∧ c.IsIn dir' := by
  unfold renewCertificate CheckEnv.Renews
  cases hnew : env.newCertificate dnsNames with
  | error e =>
    refine .inl ⟨?_, _, _, rfl⟩
    rintro ⟨⟨c, hc⟩, -⟩
    cases hc
  | ok c =>
    dsimp only
    rcases @write_spec env c dir with ⟨hnot, e, dir', hrun⟩ | ⟨hpass, dir', hrun, hin⟩
    · rw [hrun]
      exact .inl ⟨fun h => hnot h.2, _, _, rfl⟩
    · rw [hrun]
      exact .inr ⟨⟨⟨c, rfl⟩, hpass⟩, c, dir', rfl, rfl, hin⟩

theorem verifyCertificate_spec (dnsNames : List String) (dir : Dir) :
    ¬env.Loads dnsNames dir ∧
      (∃ certificate err, verifyCertificate env dnsNames dir = (false, certificate, err)) ∨
    env.Loads dnsNames dir ∧ ∃ c : Certificate,
      verifyCertificate env dnsNames dir = (true, some c, none) ∧ c.IsIn dir ∧
        ∀ dnsName ∈ checkedNames dnsNames, c.verify env.x509 dnsName env.checkTime = true := by
  unfold verifyCertificate
  cases hload : newCertificateFromDirectory env dir with
  | error e =>
    refine .inl ⟨?_, _, _, rfl⟩
    rintro ⟨hread, c, hin, -⟩
    cases hload.symm.trans (newCertificateFromDirectory_eq_ok.mpr ⟨hread, hin⟩)
  | ok c =>
    obtain ⟨hread, hin⟩ := newCertificateFromDirectory_eq_ok.mp hload
    dsimp only
    cases hall : (checkedNames dnsNames).all (c.verify env.x509 · env.checkTime) with
    | true =>
      have hverify := List.all_eq_true.mp hall
      exact .inr ⟨⟨hread, c, hin, hverify⟩, c, rfl, hin, hverify⟩
    | false =>
      refine .inl ⟨?_, _, _, rfl⟩
      rintro ⟨-, c', hin', hverify⟩
      have hload' := newCertificateFromDirectory_eq_ok.mpr ⟨hread, hin'⟩
      cases hload.symm.trans hload'
      exact absurd (List.all_eq_true.mpr hverify) (by simp [hall])

end

/-! ## What is published -/

/-- The certificate is the one in the directory, and it is accepted for every name. -/
def CheckEnv.Accepts (env : CheckEnv) (dnsNames : List String) (dir : Dir) (c : Certificate) :
    Prop :=
  c.IsIn dir ∧ ∀ dnsName ∈ dnsNames, c.verify env.x509 dnsName env.checkTime = true

/-- A new certificate is accepted for the names it was made for. -/
def CheckEnv.Fresh (env : CheckEnv) (dnsNames : List String) : Prop :=
  ∀ c, env.newCertificate dnsNames = .ok c →
    ∀ dnsName ∈ checkedNames dnsNames, c.verify env.x509 dnsName env.checkTime = true

/-- Somebody is to be told, there is no valid certificate, and the renewal fails. -/
def CheckEnv.Stranded (env : CheckEnv) (dnsNames : List String)
    (afterCheckFunctions : List AfterCheckFunction) (dir : Dir) : Prop :=
  afterCheckFunctions ≠ [] ∧ ¬env.Loads dnsNames dir ∧ ¬env.Renews dnsNames

section

variable {env : CheckEnv} {dnsNames : List String}

theorem mem_checkedNames {dnsName : String} (h : dnsName ∈ dnsNames) :
    dnsName ∈ checkedNames dnsNames := by
  unfold checkedNames
  rw [if_neg (by simpa using List.ne_nil_of_mem h)]
  exact h

/-- **One check**: the functions get a certificate that is accepted, or nil. -/
theorem checkCertificate_spec (hfresh : env.Fresh dnsNames) (wasTriggered : Bool) (dir : Dir) :
    ∃ call dir', (∀ afterCheckFunctions,
      checkCertificate env dnsNames afterCheckFunctions wasTriggered dir =
        (afterCheckFunctions.map fun f => (call, f call), dir')) ∧
      ((env.Loads dnsNames dir ∨ env.Renews dnsNames) ∧
          (∃ c, call.certificate = some c ∧ env.Accepts dnsNames dir' c) ∨
        ¬env.Loads dnsNames dir ∧ ¬env.Renews dnsNames ∧ call.certificate = none) := by
  unfold checkCertificate
  rcases @verifyCertificate_spec env dnsNames dir with ⟨hnot, certificate, err, hrun⟩ |
    ⟨hloads, c, hrun, hin, hverify⟩
  · rw [hrun]
    rcases @renewCertificate_spec env dnsNames dir with ⟨hfail, e, dir', hrenew⟩ |
      ⟨hrenews, c, dir', hnew, hrenew, hin⟩
    · refine ⟨⟨none, true || wasTriggered⟩, dir', fun fs => ?_, .inr ⟨hnot, hfail, rfl⟩⟩
      simp only [hrenew, Bool.false_eq_true, if_false]
    · refine ⟨⟨some c, true || wasTriggered⟩, dir', fun fs => ?_, .inl ⟨.inr hrenews, c, rfl, hin,
        fun dnsName h => hfresh c hnew dnsName (mem_checkedNames h)⟩⟩
      simp only [hrenew, Bool.false_eq_true, if_false]
  · refine ⟨⟨some c, false || wasTriggered⟩, dir, fun fs => ?_, .inl ⟨.inl hloads, c, rfl, hin,
      fun dnsName h => hverify dnsName (mem_checkedNames h)⟩⟩
    rw [hrun]
    rfl

/-- **Only verified certificates are published**: every after check function that
is called gets the certificate in the directory, which is accepted for every DNS
name, and none is called when there is no such certificate, unless there was no
valid certificate and the renewal failed. -/
theorem published_verified_iff (env : CheckEnv) (dnsNames : List String)
    (hfresh : env.Fresh dnsNames) (afterCheckFunctions : List AfterCheckFunction)
    (wasTriggered : Bool) (dir : Dir) :
    ((∀ p ∈ (checkCertificate env dnsNames afterCheckFunctions wasTriggered dir).1,
        ∃ c, p.1.certificate = some c ∧ env.Accepts dnsNames
          (checkCertificate env dnsNames afterCheckFunctions wasTriggered dir).2 c) ∧
      ((¬∃ c, env.Accepts dnsNames
          (checkCertificate env dnsNames afterCheckFunctions wasTriggered dir).2 c) →
        (checkCertificate env dnsNames afterCheckFunctions wasTriggered dir).1 = [])) ↔
    ¬env.Stranded dnsNames afterCheckFunctions dir := by
  obtain ⟨call, dir', hrun, hcase⟩ := checkCertificate_spec hfresh wasTriggered dir
  rw [hrun]
  constructor
  · rintro ⟨hall, -⟩ ⟨hne, hload, hrenew⟩
    rcases hcase with ⟨h, -⟩ | ⟨-, -, hnone⟩
    · exact h.elim hload hrenew
    · obtain ⟨f, hf⟩ := List.exists_mem_of_ne_nil _ hne
      obtain ⟨c, hc, -⟩ := hall (call, f call) (List.mem_map_of_mem hf)
      cases hnone.symm.trans hc
  · intro hnot
    rcases hcase with ⟨-, c, hc, haccept⟩ | ⟨hload, hrenew, -⟩
    · refine ⟨fun p hp => ?_, fun hno => absurd ⟨c, haccept⟩ hno⟩
      obtain ⟨f, -, rfl⟩ := List.mem_map.mp hp
      exact ⟨c, hc, haccept⟩
    · have hnil : afterCheckFunctions = [] := by_contra fun hne => hnot ⟨hne, hload, hrenew⟩
      subst hnil
      exact ⟨by simp, fun _ => rfl⟩

end

/-- Certificates that are told apart by their generation: one that is all of
generation 1 is good for the name `webhook` until the time 10. -/
def X509.numbered : X509 where
  keyPair certificate key := certificate == key
  signedBy ca certificate := ca != "" && ca == certificate
  listed _ dnsName := dnsName == "webhook"
  validAt _ certificate time := certificate == "1" && decide (time < 10)

def Certificate.generation (n : String) : Certificate := ⟨n, n, n, n⟩

/-- A check at the time 5, for an outcome of making a new certificate. -/
def CheckEnv.numbered (new : Except Err Certificate) : CheckEnv where
  x509 := .numbered
  checkTime := 5
  newCertificate _ := new

/-- Two files of a new generation have been written over those of an old one. -/
def mixed : Dir
  | .caCertificate => some "1"
  | .caPrivateKey => some "1"
  | _ => some "0"

theorem published_verified_iff_mixed :
    (CheckEnv.numbered (.ok (.generation "1"))).Fresh ["webhook"] ∧
      ∀ p ∈ (checkCertificate (.numbered (.ok (.generation "1"))) ["webhook"] [fun _ => none]
          false mixed).1,
        ∃ c, p.1.certificate = some c ∧
          (CheckEnv.numbered (.ok (.generation "1"))).Accepts ["webhook"]
            (checkCertificate (.numbered (.ok (.generation "1"))) ["webhook"] [fun _ => none]
              false mixed).2 c := by
  have hfresh : (CheckEnv.numbered (.ok (.generation "1"))).Fresh ["webhook"] := by
    intro c hc
    cases hc
    decide
  refine ⟨hfresh, ((published_verified_iff _ _ hfresh _ _ _).mpr ?_).1⟩
  rintro ⟨-, -, hnot⟩
  exact hnot ⟨⟨_, rfl⟩, rfl, fun _ => rfl⟩

theorem nil_published_mixed :
    (checkCertificate (.numbered (.error (.new "entropy source failed"))) ["webhook"]
      [fun _ => none] false mixed).1.map (·.1.certificate) = [none] := by
  decide +kernel

/-! ## The certifier -/

/-- The outcome of a check as the certifier takes it: the CA certificate. -/
def checkOutcome (env : CheckEnv) (dnsNames : List String) (dir : Dir) : Verified :=
  match verifyCertificate env dnsNames dir with
  | (true, some c, _) => .valid c.caCertificate
  | _ => .renewed ((renewCertificate env dnsNames dir).1.toOption.map (·.caCertificate))

section

variable {env : CheckEnv} {dnsNames : List String}

theorem certificate_checkOutcome_eq_none (dir : Dir) :
    (checkOutcome env dnsNames dir).certificate = none ↔
      ¬env.Loads dnsNames dir ∧ ¬env.Renews dnsNames := by
  unfold checkOutcome
  rcases @verifyCertificate_spec env dnsNames dir with ⟨hnot, certificate, err, hrun⟩ |
    ⟨hloads, c, hrun, -⟩
  · rw [hrun]
    rcases @renewCertificate_spec env dnsNames dir with ⟨hfail, e, dir', hrenew⟩ |
      ⟨hrenews, c, dir', -, hrenew, -⟩
    · rw [hrenew]
      exact iff_of_true rfl ⟨hnot, hfail⟩
    · rw [hrenew]
      exact iff_of_false nofun fun h => h.2 hrenews
  · rw [hrun]
    exact iff_of_false nofun fun h => h.1 hloads

/-- The calls of a check are what the certifier's runs are made of. -/
theorem call_checkOutcome {afterCheckFunctions : List AfterCheckFunction} {wasTriggered : Bool}
    {dir : Dir} {p : Call × Option Err}
    (hp : p ∈ (checkCertificate env dnsNames afterCheckFunctions wasTriggered dir).1) :
    p.1.certificate.map (·.caCertificate) = (checkOutcome env dnsNames dir).certificate ∧
      p.1.needsUpdate = ((checkOutcome env dnsNames dir).wasRenewed || wasTriggered) := by
  unfold checkCertificate at hp
  unfold checkOutcome
  rcases @verifyCertificate_spec env dnsNames dir with ⟨-, certificate, err, hrun⟩ |
    ⟨-, c, hrun, -⟩
  · rw [hrun] at hp ⊢
    rcases hrenew : renewCertificate env dnsNames dir with ⟨e | c, dir'⟩
    · simp only [hrenew, Bool.false_eq_true, if_false] at hp
      obtain ⟨f, -, rfl⟩ := List.mem_map.mp hp
      exact ⟨rfl, rfl⟩
    · simp only [hrenew, Bool.false_eq_true, if_false] at hp
      obtain ⟨f, -, rfl⟩ := List.mem_map.mp hp
      exact ⟨rfl, rfl⟩
  · rw [hrun] at hp ⊢
    obtain ⟨f, -, rfl⟩ := List.mem_map.mp hp
    exact ⟨rfl, rfl⟩

theorem WebhookConfiguration.certify_eq_none {certificate : Option String}
    {config : WebhookConfiguration} :
    config.certify certificate = none ↔ certificate = none ∧ config.webhooks ≠ [] := by
  unfold certify
  cases certificate with
  | some ca => simp
  | none => cases config.webhooks <;> simp

theorem WebhookCertifier.afterCheck_eq_none {p : PatchMaker}
    {current : Except Err WebhookConfiguration} {certificate : Option String} {needsUpdate : Bool}
    {c : WebhookCertifier} : c.afterCheck p current certificate needsUpdate = none ↔
      ∃ kind config, c.active = some (kind, config) ∧ config.certify certificate = none := by
  unfold afterCheck
  cases c.active with
  | none => simp
  | some active =>
    cases hcertify : active.2.certify certificate with
    | none => simpa [hcertify] using ⟨active.1, active.2, rfl, hcertify⟩
    | some desired =>
      refine iff_of_false ?_ ?_
      · simp only [hcertify]
        split
        · split <;> exact nofun
        · exact nofun
      · rintro ⟨kind, config, h, hnone⟩
        cases h
        cases hcertify.symm.trans hnone

/-- **The certifier panics** exactly if there is a webhook to write the missing
certificate into. -/
theorem checkCertificate_eq_none_iff (p : PatchMaker) (current : Except Err WebhookConfiguration)
    (wasTriggered : Bool) (dir : Dir) (c : WebhookCertifier) :
    c.checkCertificate p current wasTriggered (checkOutcome env dnsNames dir) = none ↔
      (¬env.Loads dnsNames dir ∧ ¬env.Renews dnsNames) ∧
        ∃ kind config, c.active = some (kind, config) ∧ config.webhooks ≠ [] := by
  rw [← certificate_checkOutcome_eq_none]
  refine WebhookCertifier.afterCheck_eq_none.trans ?_
  simp only [WebhookConfiguration.certify_eq_none]
  constructor
  · rintro ⟨kind, config, hactive, hnone, hw⟩
    exact ⟨hnone, kind, config, hactive, hw⟩
  · rintro ⟨hnone, kind, config, hactive, hw⟩
    exact ⟨kind, config, hactive, hnone, hw⟩

end

end ClusterRegistry.Cert
