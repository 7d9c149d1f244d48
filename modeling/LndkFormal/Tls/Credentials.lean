import LndkFormal.Async.Effects
import Mathlib.Data.List.Infix

/-!
# TLS credentials

`generate_tls_creds` makes a key and a certificate if one of the two files is
missing.  Every file operation may fail, a write that fails may have written a
part, and the process may stop between any two operations; the next start finds
what is left in the directory.  The two files stay a pair over any number of
starts, unless one is cut off between creating the key and finishing the
certificate while there is a certificate.
-/

set_option autoImplicit false

namespace LndkFormal.Tls

open LndkFormal.Async

abbrev Text := List UInt8

structure KeyFile where
  content : Text
  mode : UInt32
  deriving DecidableEq

/-- The credentials in LNDK's data directory, `tls-key.pem` and `tls-cert.pem`. -/
structure DataDir where
  key : Option KeyFile
  cert : Option Text
  deriving DecidableEq

structure IoError where
  debug : String
  deriving DecidableEq

structure RcgenError where
  debug : String
  deriving DecidableEq

inductive CertificateGenFailure where
  | rcgenError (error : RcgenError)
  | ioError (error : IoError)
  deriving DecidableEq

inductive FileOp where
  | keyExists
  | certExists
  | createKey
  | keyPermissions
  | setKeyPermissions (mode : UInt32)
  | writeKey (text : Text)
  | writeCert (text : Text)

abbrev FileOp.Reply : FileOp → Type
  | .keyExists => Bool
  | .certExists => Bool
  | .keyPermissions => Except IoError UInt32
  | _ => Except IoError Unit

/-- What an operation may do.  `exists` answers `false` when it fails, and a write that
fails may have written a part. -/
inductive FileEffect : (op : FileOp) → DataDir → op.Reply → DataDir → Prop where
  | keyExists {dir : DataDir} {found : Bool} (there : found = true → dir.key.isSome = true) :
      FileEffect .keyExists dir found dir
  | certExists {dir : DataDir} {found : Bool} (there : found = true → dir.cert.isSome = true) :
      FileEffect .certExists dir found dir
  | createKey {dir : DataDir} {mode : UInt32}
      (kept : ∀ file, dir.key = some file → mode = file.mode) :
      FileEffect .createKey dir (.ok ()) { dir with key := some ⟨[], mode⟩ }
  | createKeyFails {dir : DataDir} (e : IoError) : FileEffect .createKey dir (.error e) dir
  | keyPermissions {dir : DataDir} {file : KeyFile} (there : dir.key = some file) :
      FileEffect .keyPermissions dir (.ok file.mode) dir
  | keyPermissionsFails {dir : DataDir} (e : IoError) :
      FileEffect .keyPermissions dir (.error e) dir
  | setKeyPermissions {dir : DataDir} {file : KeyFile} {mode : UInt32}
      (there : dir.key = some file) :
      FileEffect (.setKeyPermissions mode) dir (.ok ())
        { dir with key := some ⟨file.content, mode⟩ }
  | setKeyPermissionsFails {dir : DataDir} {mode : UInt32} (e : IoError) :
      FileEffect (.setKeyPermissions mode) dir (.error e) dir
  | writeKey {dir : DataDir} {file : KeyFile} {text : Text} (there : dir.key = some file) :
      FileEffect (.writeKey text) dir (.ok ()) { dir with key := some ⟨text, file.mode⟩ }
  | writeKeyFails {dir : DataDir} {file : KeyFile} {text part : Text} (e : IoError)
      (there : dir.key = some file) (begun : part <+: text) :
      FileEffect (.writeKey text) dir (.error e) { dir with key := some ⟨part, file.mode⟩ }
  | writeCert {dir : DataDir} {text : Text} :
      FileEffect (.writeCert text) dir (.ok ()) { dir with cert := some text }
  | writeCertFails {dir : DataDir} {text : Text} (e : IoError) :
      FileEffect (.writeCert text) dir (.error e) dir
  | writeCertBreaks {dir : DataDir} {text part : Text} (e : IoError) (begun : part <+: text) :
      FileEffect (.writeCert text) dir (.error e) { dir with cert := some part }

/-! ## The program -/

section Program

variable (Belongs : Text → Text → Prop)

/-- What rcgen makes, as the PEM texts that are written: a key and a certificate for it. -/
structure CertifiedKey where
  signingKey : Text
  cert : Text
  belongs : Belongs signingKey cert

abbrev TlsSig : Signature where
  Access := FileOp
  AccessReply := FileOp.Reply
  Call := List String
  CallReply _ := Except RcgenError (CertifiedKey Belongs)

def collectTlsIps (tlsIpsStr : Option String) : Option (List String) :=
  tlsIpsStr.map fun tlsIpsStr => tlsIpsStr.splitOn ","

def subjectAltNames (tlsIps : Option (List String)) : List String := "localhost" :: tlsIps.getD []

abbrev operate (op : FileOp) : Prog (TlsSig Belongs) op.Reply :=
  @Prog.enter (TlsSig Belongs) op

/-- `!key_path.exists() || !cert_path.exists()`. -/
def credentialsMissing : Prog (TlsSig Belongs) Bool := do
  if ← operate Belongs .keyExists then
    let certExists ← operate Belongs .certExists
    return !certExists
  else return true

/-- The files of `generate_tls_creds`, the key before the certificate. -/
def storeTlsCreds (generated : CertifiedKey Belongs) :
    Prog (TlsSig Belongs) (Except CertificateGenFailure Unit) :=
  ((operate Belongs .createKey).mapError .ioError).andThen fun () =>
  -- `set_mode` replaces the whole mode that `metadata` reports
  ((operate Belongs .keyPermissions).mapError .ioError).andThen fun _ =>
  ((operate Belongs (.setKeyPermissions 0o600)).mapError .ioError).andThen fun () =>
  ((operate Belongs (.writeKey generated.signingKey)).mapError .ioError).andThen fun () =>
  (operate Belongs (.writeCert generated.cert)).mapError .ioError

def generateTlsCreds (tlsIpsString : Option String) :
    Prog (TlsSig Belongs) (Except CertificateGenFailure Unit) := do
  if ← credentialsMissing Belongs then
    ((@Prog.request (TlsSig Belongs) (subjectAltNames (collectTlsIps tlsIpsString))).mapError
      .rcgenError).andThen (storeTlsCreds Belongs)
  else return .ok ()

end Program

/-! ## A pair on disk -/

/-- What `read_tls` reads where both files are there: the certificate and the key. -/
def readTls (dir : DataDir) : Option (Text × Text) :=
  dir.cert.bind fun cert => dir.key.map fun key => (cert, key.content)

section Pairs

variable (Belongs : Text → Text → Prop)

/-- Both files are completely written and belong together. -/
def Paired (dir : DataDir) : Prop :=
  ∃ cert key, readTls dir = some (cert, key) ∧ Belongs key cert

/-- No credentials, a pair, or one file of a pair. -/
def Fresh (dir : DataDir) : Prop :=
  (dir.key = none ∧ dir.cert = none) ∨ Paired Belongs dir ∨
    ∃ key cert, Belongs key cert ∧
      ((dir.key = none ∧ dir.cert = some cert) ∨
        (dir.key.map KeyFile.content = some key ∧ dir.cert = none))

/-- What can be seen of a start: its operations with their replies, what is left of it and the
directory it leaves. -/
abbrev StartGuard :=
  List (Event (TlsSig Belongs)) → Prog (TlsSig Belongs) (Except CertificateGenFailure Unit) →
    DataDir → Prop

/-- Any number of starts, each of which stops anywhere or runs to its end. -/
inductive Starts (allowed : StartGuard Belongs) (initial : DataDir) : DataDir → Prop where
  | none : Starts allowed initial initial
  | next {before after : DataDir} {tlsIps : Option String} {log : List (Event (TlsSig Belongs))}
      {rest : Prog (TlsSig Belongs) (Except CertificateGenFailure Unit)}
      (earlier : Starts allowed initial before)
      (start : Executes FileEffect (generateTlsCreds Belongs tlsIps) before log rest after)
      (permitted : allowed log rest after) : Starts allowed initial after

/-- `File::create` of the key, which empties it. -/
def keyCreated : Event (TlsSig Belongs) := .access .createKey (.ok ())

/-- The start has failed or stopped between creating the key and finishing the certificate, and
there is a certificate: the one from before, or the beginning of the new one. -/
structure Torn (log : List (Event (TlsSig Belongs)))
    (rest : Prog (TlsSig Belongs) (Except CertificateGenFailure Unit)) (dir : DataDir) : Prop where
  created : keyCreated Belongs ∈ log
  unfinished : rest ≠ .ret (.ok ())
  cert : dir.cert.isSome = true

/-- No start is cut off in that way. -/
def whole : StartGuard Belongs := fun log rest dir => ¬ Torn Belongs log rest dir

def Untouched (dir : DataDir) (log : List (Event (TlsSig Belongs))) (now : DataDir) : Prop :=
  now = dir ∨ keyCreated Belongs ∈ log

/-- A start that returns `Ok` saw both files and changed nothing, or wrote both. -/
def Completed (dir : DataDir) (result : Except CertificateGenFailure Unit)
    (_ : List (Event (TlsSig Belongs))) (after : DataDir) : Prop :=
  result = .ok () →
    (after = dir ∧ dir.key.isSome = true ∧ dir.cert.isSome = true) ∨ Paired Belongs after

/-- Two files are a pair. -/
def Sound (dir : DataDir) : Prop :=
  dir.key.isSome = true → dir.cert.isSome = true → Paired Belongs dir

variable {Belongs} {dir now : DataDir} {log : List (Event (TlsSig Belongs))}

theorem completed_error {after : DataDir} (e : CertificateGenFailure) :
    Completed Belongs dir (.error e) log after := by
  intro ok
  cases ok

theorem paired_written {mode : UInt32} (generated : CertifiedKey Belongs) :
    Paired Belongs ⟨some ⟨generated.signingKey, mode⟩, some generated.cert⟩ :=
  ⟨generated.cert, generated.signingKey, rfl, generated.belongs⟩

theorem Fresh.sound (fresh : Fresh Belongs dir) : Sound Belongs dir := by
  intro key cert
  rcases fresh with ⟨noKey, _⟩ | paired | ⟨_, _, _, ⟨noKey, _⟩ | ⟨_, noCert⟩⟩
  · rw [noKey] at key
    cases key
  · exact paired
  · rw [noKey] at key
    cases key
  · rw [noCert] at cert
    cases cert

/-- `credentialsMissing` changes nothing and finds nothing missing only if nothing is. -/
theorem credentialsMissing_ensures (dir : DataDir) :
    (credentialsMissing Belongs).Ensures FileEffect (Untouched Belongs dir)
      (fun missing _ after => after = dir ∧
        (missing = false → dir.key.isSome = true ∧ dir.cert.isSome = true)) [] dir := by
  refine Prog.ensures_access (.inl rfl) fun keyFound afterKey keyActs => ?_
  cases keyActs with
  | keyExists keyThere =>
  cases keyFound with
  | false => exact ⟨.inl rfl, rfl, fun found => by cases found⟩
  | true =>
  refine Prog.ensures_access (.inl rfl) fun certFound afterCert certActs => ?_
  cases certActs with
  | certExists certThere =>
      refine ⟨.inl rfl, rfl, fun found => ⟨keyThere rfl, certThere ?_⟩⟩
      simpa using found

theorem storeTlsCreds_ensures (now : DataDir) (untouched : Untouched Belongs dir log now)
    (generated : CertifiedKey Belongs) :
    (storeTlsCreds Belongs generated).Ensures FileEffect (Untouched Belongs dir)
      (Completed Belongs dir) log now := by
  -- every operation that fails ends the start with its error
  refine Prog.ensures_access untouched fun created afterCreate createActs => ?_
  cases createActs with
  | createKeyFails e =>
      refine ⟨?_, completed_error (.ioError e)⟩
      exact untouched.imp_right (List.mem_append_left _)
  | createKey kept =>
  have begun : keyCreated Belongs ∈ log ++ [.access .createKey (.ok ())] :=
    List.mem_append_right _ List.mem_cons_self
  generalize log ++ [.access .createKey (.ok ())] = log at begun
  refine Prog.ensures_access (.inr begun) fun permissions afterPermissions permissionsActs => ?_
  replace begun := List.mem_append_left [.access .keyPermissions permissions] begun
  cases permissionsActs with
  | keyPermissionsFails e => exact ⟨.inr begun, completed_error (.ioError e)⟩
  | keyPermissions there =>
  refine Prog.ensures_access (.inr begun) fun set afterSet setActs => ?_
  replace begun := List.mem_append_left [.access (.setKeyPermissions 0o600) set] begun
  cases setActs with
  | setKeyPermissionsFails e => exact ⟨.inr begun, completed_error (.ioError e)⟩
  | setKeyPermissions there =>
  refine Prog.ensures_access (.inr begun) fun wroteKey afterKey keyActs => ?_
  replace begun := List.mem_append_left [.access (.writeKey generated.signingKey) wroteKey] begun
  cases keyActs with
  | writeKeyFails e there part => exact ⟨.inr begun, completed_error (.ioError e)⟩
  | writeKey there =>
  refine Prog.ensures_access (.inr begun) fun wroteCert afterCert certActs => ?_
  replace begun := List.mem_append_left [.access (.writeCert generated.cert) wroteCert] begun
  cases certActs with
  | writeCertFails e => exact ⟨.inr begun, completed_error (.ioError e)⟩
  | writeCertBreaks e part => exact ⟨.inr begun, completed_error (.ioError e)⟩
  | writeCert => exact ⟨.inr begun, fun _ => .inr (paired_written generated)⟩

theorem generateTlsCreds_ensures (tlsIps : Option String) (dir : DataDir) :
    (generateTlsCreds Belongs tlsIps).Ensures FileEffect (Untouched Belongs dir)
      (Completed Belongs dir) [] dir := by
  refine (credentialsMissing_ensures dir).bind ?_
  intro missing log after untouched checked
  obtain ⟨rfl, complete⟩ := checked
  cases missing with
  | false => exact ⟨.inl rfl, fun _ => .inl ⟨rfl, complete rfl⟩⟩
  | true =>
      refine Prog.ensures_call (.inl rfl) fun reply => ?_
      cases reply with
      | error e => exact ⟨.inl rfl, completed_error (.rcgenError e)⟩
      | ok generated => exact storeTlsCreds_ensures after (.inl rfl) generated

variable {initial before after : DataDir} {tlsIps : Option String}

/-- A start that returns `Ok` leaves a pair, if two files were a pair when it began. -/
theorem Sound.paired (sound : Sound Belongs before)
    (went : Executes FileEffect (generateTlsCreds Belongs tlsIps) before log (.ret (.ok ()))
      after) :
    Paired Belongs after := by
  have completed := ((generateTlsCreds_ensures tlsIps before).executes went).2
  rcases completed rfl with ⟨rfl, key, cert⟩ | written
  · exact sound key cert
  · exact written

theorem Sound.start {rest : Prog (TlsSig Belongs) (Except CertificateGenFailure Unit)}
    (sound : Sound Belongs before)
    (went : Executes FileEffect (generateTlsCreds Belongs tlsIps) before log rest after)
    (permitted : whole Belongs log rest after) : Sound Belongs after := by
  intro key cert
  by_cases finished : rest = .ret (.ok ())
  · subst finished
    exact sound.paired went
  · have untouched := ((generateTlsCreds_ensures tlsIps before).executes went).here
    rcases untouched with rfl | created
    · exact sound key cert
    · exact absurd ⟨created, finished, cert⟩ permitted

theorem Starts.sound (starts : Starts Belongs (whole Belongs) initial before)
    (fresh : Fresh Belongs initial) : Sound Belongs before := by
  induction starts with
  | none => exact fresh.sound
  | next _ went permitted ih => exact ih.start went permitted

/-- Whenever `generate_tls_creds` returns `Ok`, after any number of starts from a directory
without credentials, with a pair or with one file of a pair, the two files are a pair: as long
as no start was cut off between creating the key and finishing the certificate while there was
a certificate. -/
theorem starts_paired (initial before after : DataDir) (tlsIps : Option String)
    (log : List (Event (TlsSig Belongs))) (fresh : Fresh Belongs initial)
    (starts : Starts Belongs (whole Belongs) initial before)
    (went : Executes FileEffect (generateTlsCreds Belongs tlsIps) before log (.ret (.ok ()))
      after) :
    Paired Belongs after :=
  (starts.sound fresh).paired went

end Pairs

abbrev SameByte (key cert : Text) : Prop := key = cert ∧ key.length = 1

def generatedByte : CertifiedKey SameByte := ⟨[8], [8], by decide⟩

def onlyKey : DataDir := ⟨some ⟨[], 0o644⟩, none⟩

def completeLog : List (Event (TlsSig SameByte)) :=
  [.access .keyExists true, .access .certExists false,
    .call (subjectAltNames (collectTlsIps none)) (.ok generatedByte), .access .createKey (.ok ()),
    .access .keyPermissions (.ok 0o644), .access (.setKeyPermissions 0o600) (.ok ()),
    .access (.writeKey [8]) (.ok ()), .access (.writeCert [8]) (.ok ())]

/-- The first start stops when it has created the key; there is no certificate, so the second
one writes both files. -/
theorem starts_paired_second :
    Fresh SameByte ⟨none, none⟩ ∧ Starts SameByte (whole SameByte) ⟨none, none⟩ onlyKey ∧
      Executes FileEffect (generateTlsCreds SameByte none) onlyKey completeLog (.ret (.ok ()))
        ⟨some ⟨[8], 0o600⟩, some [8]⟩ ∧
      Paired SameByte ⟨some ⟨[8], 0o600⟩, some [8]⟩ := by
  have fresh : Fresh SameByte ⟨none, none⟩ := .inl ⟨rfl, rfl⟩
  have noKey : FileEffect .keyExists ⟨none, none⟩ false ⟨none, none⟩ :=
    .keyExists fun found => by cases found
  have created : FileEffect .createKey ⟨none, none⟩ (.ok ()) onlyKey :=
    .createKey fun file there => by cases there
  have first : Executes FileEffect (generateTlsCreds SameByte none) ⟨none, none⟩ _ _ onlyKey :=
    .access noKey (.call (Except.ok generatedByte) (.access created (.refl _ _)))
  have starts : Starts SameByte (whole SameByte) ⟨none, none⟩ onlyKey :=
    .next .none first fun torn => by cases torn.cert
  have key : FileEffect .keyExists onlyKey true onlyKey := .keyExists fun _ => rfl
  have noCert : FileEffect .certExists onlyKey false onlyKey :=
    .certExists fun found => by cases found
  have emptied : FileEffect .createKey onlyKey (.ok ()) onlyKey :=
    .createKey fun file there => by cases there; rfl
  have mode : FileEffect .keyPermissions onlyKey (.ok 0o644) onlyKey :=
    @FileEffect.keyPermissions _ ⟨[], 0o644⟩ rfl
  have restricted : FileEffect (.setKeyPermissions 0o600) onlyKey (.ok ())
      ⟨some ⟨[], 0o600⟩, none⟩ := @FileEffect.setKeyPermissions onlyKey ⟨[], 0o644⟩ _ rfl
  have wroteKey : FileEffect (.writeKey [8]) ⟨some ⟨[], 0o600⟩, none⟩ (.ok ())
      ⟨some ⟨[8], 0o600⟩, none⟩ := @FileEffect.writeKey _ ⟨[], 0o600⟩ _ rfl
  have wroteCert : FileEffect (.writeCert [8]) ⟨some ⟨[8], 0o600⟩, none⟩ (.ok ())
      ⟨some ⟨[8], 0o600⟩, some [8]⟩ := .writeCert
  have second : Executes FileEffect (generateTlsCreds SameByte none) onlyKey completeLog
      (.ret (.ok ())) ⟨some ⟨[8], 0o600⟩, some [8]⟩ := by
    refine .access key (.access noCert ?_)
    apply Executes.call
    refine .access emptied (.access mode (.access restricted (.access wroteKey ?_)))
    exact .access wroteCert (.refl _ _)
  exact ⟨fresh, starts, second, starts_paired _ _ _ _ _ fresh starts second⟩

def onlyCert : DataDir := ⟨none, some [7]⟩

def cutOff : DataDir := ⟨some ⟨[], 0o644⟩, some [7]⟩

/-- A start stops when it has created the key, beside the certificate from before.  The next
start sees two files, returns `Ok` and leaves them. -/
theorem starts_unpaired :
    Fresh SameByte onlyCert ∧ Starts SameByte (fun _ _ _ => True) onlyCert cutOff ∧
      (∃ log, Executes FileEffect (generateTlsCreds SameByte none) cutOff log (.ret (.ok ()))
        cutOff) ∧
      ¬ Paired SameByte cutOff := by
  have noKey : FileEffect .keyExists onlyCert false onlyCert :=
    .keyExists fun found => by cases found
  have created : FileEffect .createKey onlyCert (.ok ()) cutOff :=
    .createKey fun file there => by cases there
  have stopped : Executes FileEffect (generateTlsCreds SameByte none) onlyCert _ _ cutOff :=
    .access noKey (.call (Except.ok generatedByte) (.access created (.refl _ _)))
  have sawKey : FileEffect .keyExists cutOff true cutOff := .keyExists fun _ => rfl
  have sawCert : FileEffect .certExists cutOff true cutOff := .certExists fun _ => rfl
  refine ⟨.inr (.inr ⟨[7], [7], by decide, .inl ⟨rfl, rfl⟩⟩), .next .none stopped trivial,
    ⟨_, .access sawKey (.access sawCert (.refl _ _))⟩, ?_⟩
  rintro ⟨cert, key, read, belongs⟩
  cases read
  exact absurd belongs (by decide)

end LndkFormal.Tls
