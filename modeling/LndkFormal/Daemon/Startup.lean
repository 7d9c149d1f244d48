import LndkFormal.Lnd.Version
import LndkFormal.RateLimit.Limiter
import LndkFormal.Server.Rpc
import LndkFormal.Tls.Credentials

/-!
# Starting LNDK

`main` reads the configuration, checks the credentials, connects to LND, gets its TLS
files ready and derives the seed of the offer handler from a signature of LND.  It then
serves gRPC requests beside the onion messenger, which does checks of its own before it
runs.  A Rust panic is a panic of the program; `exit` is a result of its own.
-/

set_option autoImplicit false

namespace LndkFormal.Daemon

open LndkFormal.Async
open LndkFormal.Lnd
open LndkFormal.Ldk
open LndkFormal.Offers
open LndkFormal.RateLimit
open LndkFormal.Server

inductive Creds where
  | path (macaroon cert : String)
  | string (macaroon cert : String)
  deriving DecidableEq

inductive ValidationError where
  | certOnlyOne
  | macaroonOnlyOne
  | certRequired
  | macaroonRequired
  | credMismatch
  deriving DecidableEq

def validateLndCreds (certPath certPem macaroonPath macaroonHex : Option String) :
    Except ValidationError Creds :=
  if certPath.isNone && certPem.isNone then .error .certRequired
  else if certPath.isSome && certPem.isSome then .error .certOnlyOne
  else if macaroonPath.isNone && macaroonHex.isNone then .error .macaroonRequired
  else if macaroonPath.isSome && macaroonHex.isSome then .error .macaroonOnlyOne
  else
    match certPath, certPem with
    | some cert, _ =>
        match macaroonPath with
        | some macaroon => .ok (.path macaroon cert)
        | none => .error .credMismatch
    | none, some cert =>
        match macaroonHex with
        | some macaroon => .ok (.string macaroon cert)
        | none => .error .credMismatch
    -- The source unwraps `cert_pem` here, which the first check has made sure of.
    | none, none => .error .certRequired

structure LndCfg where
  address : String
  creds : Creds
  deriving DecidableEq

/-- `GetInfo` with the features, which `run` checks. -/
structure NodeState where
  info : GetInfoResponse
  features : List UInt32

structure KeyLocator where
  keyFamily : Int32
  keyIndex : Int32
  deriving DecidableEq

structure SignMessageReq where
  msg : List UInt8
  keyLoc : Option KeyLocator
  doubleHash : Bool
  schnorrSig : Bool
  deriving DecidableEq

structure Identity where
  cert : String
  key : String
  deriving DecidableEq

inductive SignalKind where
  | terminate
  | interrupt

inductive StartCall where
  | homeDir
  | createDirAll (path : String)
  /-- The log file is opened and the logger set. -/
  | initLogger (path : String)
  | registerSignal (kind : SignalKind)
  | connectLnd (cfg : LndCfg)
  | getInfo
  | getVersion
  | readToString (path : String)
  | generateTlsCreds (dataDir : String) (tlsIps : Option String)
  | readTls (dataDir : String)
  | signMessage (request : SignMessageReq)

abbrev StartCall.Reply : StartCall → Type
  | .homeDir => Option String
  | .createDirAll _ => Except String Unit
  | .initLogger _ => Except String Unit
  | .registerSignal _ => Except String Unit
  | .connectLnd _ => Except String Unit
  | .getInfo => Except Status NodeState
  | .getVersion => Except Status Version
  | .readToString _ => Except String String
  | .generateTlsCreds _ _ => Except Tls.CertificateGenFailure Unit
  | .readTls _ => Except String Identity
  | .signMessage _ => Except Status (List UInt8)

abbrev StartSig : Signature where
  Access := Empty
  AccessReply := Empty.elim
  Call := StartCall
  CallReply := StartCall.Reply

abbrev consult (call : StartCall) : Prog StartSig call.Reply := @Prog.request StartSig call

structure StartParts where
  ldk : Library
  sha256 : List UInt8 → BitVec 256
  isLogLevel : String → Bool
  isSocketAddr : String → Bool
  acceptsIdentity : Identity → Bool

/-! ## The programs -/

structure Config where
  address : String
  certPath : Option String
  certPem : Option String
  tlsIp : Option String
  macaroonPath : Option String
  macaroonHex : Option String
  dataDir : Option String
  logFile : Option String
  logLevel : Option String
  grpcHost : Option String
  grpcPort : Option UInt16
  skipVersionCheck : Bool
  responseInvoiceTimeout : Option UInt32
  rateLimitCount : UInt8
  rateLimitPeriodSecs : UInt64

inductive StartError where
  | failed
  | exit (code : UInt8)
  deriving DecidableEq

structure Cfg where
  lnd : LndCfg
  skipVersionCheck : Bool
  rateLimitCount : UInt8
  rateLimitPeriodSecs : UInt64
  deriving DecidableEq

structure LndkServer where
  offerHandler : OfferHandler
  nodeId : PublicKey
  lndCert : String
  address : String

/-- What `main` runs at its end: the server at an address, and the onion messenger. -/
structure Ready where
  server : LndkServer
  identity : Identity
  addr : String
  args : Cfg

def DEFAULT_SERVER_HOST : String := "127.0.0.1"

def DEFAULT_SERVER_PORT : UInt16 := 7000

def DEFAULT_LNDK_DIR : String := ".lndk"

def DEFAULT_DATA_DIR : String := "data"

def DEFAULT_LOG_FILE : String := "lndk.log"

def DEFAULT_RESPONSE_INVOICE_TIMEOUT : UInt32 := 15

def SEED_KEY_FAMILY : Int32 := 4

def SEED_KEY_INDEX : Int32 := 425

def join (path name : String) : String := path ++ "/" ++ name

section Programs

variable (parts : StartParts)

def defaultDataDir : Prog StartSig String := do
  match ← consult .homeDir with
  | none => .panic "called `Option::unwrap()` on a `None` value"
  | some home => return join (join home DEFAULT_LNDK_DIR) DEFAULT_DATA_DIR

def createDataDir (dataDir : Option String) : Prog StartSig (Except StartError String) := do
  let path ← match dataDir with
    | some dir => .ret dir
    | none => defaultDataDir
  match ← consult (.createDirAll path) with
  | .error _ => return .error .failed
  | .ok () => return .ok path

def setupLogger (logLevel logFile : Option String) : Prog StartSig (Except StartError Unit) :=
  match logLevel.filter fun level => !parts.isLogLevel level with
  | some _ => .ret (.error .failed)
  | none => do
      let path ← match logFile with
        | some file => .ret file
        | none => defaultDataDir >>= fun dir => .ret (join dir DEFAULT_LOG_FILE)
      match ← consult (.initLogger path) with
      | .error _ => .panic "called `Result::unwrap()` on an `Err` value"
      | .ok () => return .ok ()

def Creds.getCertificateString : Creds → Prog StartSig (Except StartError String)
  | .string _ cert => .ret (.ok cert)
  | .path _ cert => do
      match ← consult (.readToString cert) with
      | .error _ => return .error .failed
      | .ok text => return .ok text

def seedRequest : SignMessageReq where
  msg := "LNDK:DO NOT SIGN THIS MANUALLY:SEED".toUTF8.toList
  keyLoc := some ⟨SEED_KEY_FAMILY, SEED_KEY_INDEX⟩
  doubleHash := false
  schnorrSig := true

/-- `sign_message` panics if LND does not sign. -/
def buildSeedFromLndNode : Prog StartSig (BitVec 256) := do
  match ← consult (.signMessage seedRequest) with
  | .error _ => .panic "Failed to sign message"
  | .ok signature => return parts.sha256 signature

def newOfferHandler (responseInvoiceTimeout : Option UInt32) (seed : BitVec 256) :
    OfferHandler where
  expandedKey := ⟨seed⟩
  responseInvoiceTimeout := responseInvoiceTimeout.getD DEFAULT_RESPONSE_INVOICE_TIMEOUT
  client := true

def registerSignals : Prog StartSig (Except StartError Unit) := do
  match ← consult (.registerSignal .terminate) with
  | .error _ => return .error .failed
  | .ok () =>
      match ← consult (.registerSignal .interrupt) with
      | .error _ => return .error .failed
      | .ok () => return .ok ()

/-- `get_lnd_client` and `get_info`, where the texts of the two callers differ. -/
def connectToLnd (expected : String) (cfg : LndCfg) : Prog StartSig NodeState := do
  match ← consult (.connectLnd cfg) with
  | .error _ => .panic expected
  | .ok () =>
      match ← consult .getInfo with
      | .error _ => .panic "failed to get info"
      | .ok state => return state

def readIdentity (dataDir : String) (tlsIp : Option String) :
    Prog StartSig (Except StartError Identity) := do
  match ← consult (.generateTlsCreds dataDir tlsIp) with
  | .error _ => return .error .failed
  | .ok () =>
      match ← consult (.readTls dataDir) with
      | .error _ => return .error .failed
      | .ok identity => return .ok identity

def Config.addr (config : Config) : String :=
  config.grpcHost.getD DEFAULT_SERVER_HOST ++ ":" ++
    toString (config.grpcPort.getD DEFAULT_SERVER_PORT)

def prepare (config : Config) (dataDir : String) (creds : Creds) (state : NodeState) :
    Prog StartSig (Except StartError Ready) :=
  if parts.isSocketAddr config.addr then
    creds.getCertificateString.andThen fun lndCert =>
      (readIdentity dataDir config.tlsIp).andThen fun identity => do
        let seed ← buildSeedFromLndNode parts
        match parts.ldk.publicKeyFromStr state.info.identityPubkey with
        | none => .panic "called `Result::unwrap()` on an `Err` value"
        | some nodeId =>
            if parts.acceptsIdentity identity then
              return .ok
                { server :=
                    { offerHandler := newOfferHandler config.responseInvoiceTimeout seed
                      nodeId
                      lndCert
                      address := config.address }
                  identity
                  addr := config.addr
                  args :=
                    { lnd := ⟨config.address, creds⟩
                      skipVersionCheck := config.skipVersionCheck
                      rateLimitCount := config.rateLimitCount
                      rateLimitPeriodSecs := config.rateLimitPeriodSecs } }
            else .panic "couldn't configure tls"
  else .ret (.error .failed)

/-- `main` up to the point where it serves. -/
def startUp (config : Config) : Prog StartSig (Except StartError Ready) :=
  (createDataDir config.dataDir).andThen fun dataDir =>
    let logFile := config.logFile.or (config.dataDir.map fun dir => join dir DEFAULT_LOG_FILE)
    (setupLogger parts config.logLevel logFile).andThen fun _ =>
      match validateLndCreds config.certPath config.certPem config.macaroonPath
          config.macaroonHex with
      | .error _ => .ret (.error .failed)
      | .ok creds =>
          registerSignals.andThen fun _ =>
            if config.responseInvoiceTimeout = some 0 then .ret (.error (.exit 1))
            else do
              let state ← connectToLnd "failed to connect to lnd" ⟨config.address, creds⟩
              prepare parts config dataDir creds state

structure MessengerStart where
  network : Network
  pubkey : PublicKey
  limits : RateLimiterCfg

/-- The clock of the rate limiter counts nanoseconds. -/
def fromSecs (seconds : UInt64) : Nat := seconds.toNat * 1000000000

/-- `LndkOnionMessenger::run` up to `run_onion_messenger`. -/
def runChecks (args : Cfg) : Prog StartSig (Except Unit MessengerStart) := do
  let state ← connectToLnd "failed to connect" args.lnd
  match getNetwork state.info with
  | .error _ => .panic "failed to get network"
  | .ok network =>
      match parts.ldk.publicKeyFromStr state.info.identityPubkey with
      | none => .panic "called `Result::unwrap()` on an `Err` value"
      | some pubkey =>
          if !featuresSupportOnionMessages state.features then return .error ()
          else
            match ← consult .getVersion with
            | .error _ => .panic "failed to get version"
            | .ok version =>
                if !hasBuildTags version none then return .error ()
                else if !args.skipVersionCheck && !hasVersion version none then return .error ()
                else
                  return .ok
                    { network, pubkey
                      limits := ⟨args.rateLimitCount, fromSecs args.rateLimitPeriodSecs⟩ }

end Programs

def signatureAfter (before : Option (List UInt8)) : Event StartSig → Option (List UInt8)
  | .call (.signMessage _) (.ok signature) => some signature
  | _ => before

/-- LND signs nothing but the message for the seed, and signs it once. -/
def signing : Monitor StartSig (Option (List UInt8)) where
  demand
    | signed, .call (.signMessage request) _ => request = seedRequest ∧ signed = none
    | _, _ => True
  next := signatureAfter
  panicOk _ := True

def Unsigning : Event StartSig → Prop
  | .call (.signMessage _) _ => False
  | _ => True

theorem unsigning_signing {α : Type} {p : Prog StartSig α} (within : p.Within Unsigning)
    (signed : Option (List UInt8)) :
    p.Satisfies signing (fun _ final => final = signed) signed := by
  refine within.satisfies ?_ trivial
  intro event unsigning
  cases event with
  | access op reply => exact op.elim
  | call request reply => cases request <;> first | exact unsigning.elim | exact ⟨trivial, rfl⟩

section Signing

variable (parts : StartParts)

theorem defaultDataDir_unsigning : defaultDataDir.Within Unsigning := by
  refine Prog.within_request_bind.mpr fun home => ⟨trivial, ?_⟩
  cases home <;> trivial

theorem createDataDir_unsigning (dataDir : Option String) :
    (createDataDir dataDir).Within Unsigning := by
  cases dataDir with
  | none =>
      refine defaultDataDir_unsigning.bind fun path => ?_
      refine Prog.within_request_bind.mpr fun created => ⟨trivial, ?_⟩
      cases created <;> trivial
  | some dir =>
      refine Prog.within_request_bind.mpr fun created => ⟨trivial, ?_⟩
      cases created <;> trivial

theorem setupLogger_unsigning (logLevel logFile : Option String) :
    (setupLogger parts logLevel logFile).Within Unsigning := by
  unfold setupLogger
  split
  · trivial
  cases logFile with
  | none =>
      refine Prog.Within.bind (defaultDataDir_unsigning.bind fun dir => ?_) fun path => ?_
      · exact Prog.satisfies_ret _ |>.mpr trivial
      · refine Prog.within_request_bind.mpr fun opened => ⟨trivial, ?_⟩
        cases opened <;> trivial
  | some file =>
      refine Prog.within_request_bind.mpr fun opened => ⟨trivial, ?_⟩
      cases opened <;> trivial

theorem registerSignals_unsigning : registerSignals.Within Unsigning := by
  refine Prog.within_request_bind.mpr fun first => ⟨trivial, ?_⟩
  cases first with
  | error e => trivial
  | ok _ =>
      refine Prog.within_request_bind.mpr fun second => ⟨trivial, ?_⟩
      cases second <;> trivial

theorem connectToLnd_unsigning (expected : String) (cfg : LndCfg) :
    (connectToLnd expected cfg).Within Unsigning := by
  refine Prog.within_request_bind.mpr fun connected => ⟨trivial, ?_⟩
  cases connected with
  | error e => trivial
  | ok _ =>
      refine Prog.within_request_bind.mpr fun state => ⟨trivial, ?_⟩
      cases state <;> trivial

theorem getCertificateString_unsigning (creds : Creds) :
    creds.getCertificateString.Within Unsigning := by
  cases creds with
  | string macaroon cert => trivial
  | path macaroon cert =>
      refine Prog.within_request_bind.mpr fun text => ⟨trivial, ?_⟩
      cases text <;> trivial

theorem readIdentity_unsigning (dataDir : String) (tlsIp : Option String) :
    (readIdentity dataDir tlsIp).Within Unsigning := by
  refine Prog.within_request_bind.mpr fun generated => ⟨trivial, ?_⟩
  cases generated with
  | error e => trivial
  | ok _ =>
      refine Prog.within_request_bind.mpr fun identity => ⟨trivial, ?_⟩
      cases identity <;> trivial

def KeyedBy (result : Except StartError Ready) (signed : Option (List UInt8)) : Prop :=
  ∀ ready, result = .ok ready → ∃ signature, signed = some signature ∧
    ready.server.offerHandler.expandedKey = ⟨parts.sha256 signature⟩ ∧
    ready.server.offerHandler.client = true

theorem keyedBy_error (e : StartError) (signed : Option (List UInt8)) :
    KeyedBy parts (.error e) signed := by
  intro ready impossible
  cases impossible

theorem prepare_signing (config : Config) (dataDir : String) (creds : Creds)
    (state : NodeState) :
    (prepare parts config dataDir creds state).Satisfies signing (KeyedBy parts) none := by
  unfold prepare
  split
  · refine (unsigning_signing (getCertificateString_unsigning creds) none).andThen ?_ ?_
    · intro e signed _
      exact keyedBy_error parts e signed
    intro lndCert signed unsigned
    rw [unsigned]
    refine (unsigning_signing (readIdentity_unsigning dataDir config.tlsIp) none).andThen ?_ ?_
    · intro e signed _
      exact keyedBy_error parts e signed
    intro identity signed unsigned
    rw [unsigned]
    refine Prog.satisfies_request_bind.mpr fun reply => ⟨⟨rfl, rfl⟩, ?_⟩
    cases reply with
    | error e => trivial
    | ok signature =>
        change Prog.Satisfies signing (KeyedBy parts) (some signature) (match
          parts.ldk.publicKeyFromStr state.info.identityPubkey with
          | none => _
          | some nodeId => _)
        split
        · trivial
        · split
          · intro ready same
            cases same
            exact ⟨signature, rfl, rfl, rfl⟩
          · trivial
  · exact keyedBy_error parts _ _

theorem startUp_signing (config : Config) :
    (startUp parts config).Satisfies signing (KeyedBy parts) none := by
  refine (unsigning_signing (createDataDir_unsigning config.dataDir) none).andThen ?_ ?_
  · intro e signed _
    exact keyedBy_error parts e signed
  intro dataDir signed unsigned
  rw [unsigned]
  refine (unsigning_signing (setupLogger_unsigning parts config.logLevel _) none).andThen ?_ ?_
  · intro e signed _
    exact keyedBy_error parts e signed
  intro _ signed unsigned
  rw [unsigned]
  split
  · exact keyedBy_error parts _ _
  refine (unsigning_signing registerSignals_unsigning none).andThen ?_ ?_
  · intro e signed _
    exact keyedBy_error parts e signed
  intro _ signed unsigned
  rw [unsigned]
  split
  · exact keyedBy_error parts _ _
  refine (unsigning_signing (connectToLnd_unsigning _ _) none).bind ?_
  intro state signed unsigned
  rw [unsigned]
  exact prepare_signing parts config dataDir _ state

end Signing

theorem signed_logged {signed : Option (List UInt8)} {trace : List (Event StartSig)}
    (along : signing.Along signing.demand none trace)
    (held : signing.after none trace = signed) (signature : List UInt8)
    (same : signed = some signature) :
    .call (.signMessage seedRequest) (.ok signature) ∈ trace := by
  have all := Monitor.along_invariant signing (I := fun signed past => ∀ signature,
    signed = some signature → .call (.signMessage seedRequest) (.ok signature) ∈ past)
    (by simp) ?_ along
  · exact all signature (held.trans same)
  · intro before past event known demanded signature now
    have old : before = some signature →
        .call (.signMessage seedRequest) (.ok signature) ∈ past ++ [event] :=
      fun was => List.mem_append_left _ (known signature was)
    cases event with
    | access op reply => exact op.elim
    | call request reply =>
        cases request with
        | signMessage request =>
            obtain ⟨rfl, _⟩ := demanded
            cases reply with
            | error e => exact old now
            | ok given =>
                cases now
                exact List.mem_append_right _ (.head _)
        | _ => exact old now

/-- If LNDK serves, its handler's key is the hash of a signature that LND has given for the
message of the seed. -/
theorem startUp_keyed {parts : StartParts} {config : Config} {trace : List (Event StartSig)}
    {ready : Ready} (started : Reaches (startUp parts config) trace (.ret (.ok ready))) :
    ∃ signature, .call (.signMessage seedRequest) (.ok signature) ∈ trace ∧
      ready.server.offerHandler.expandedKey = ⟨parts.sha256 signature⟩ ∧
      ready.server.offerHandler.client = true := by
  obtain ⟨along, post⟩ := satisfies_reaches (startUp_signing parts config) started
  obtain ⟨signature, held, keyed⟩ := post ready rfl
  exact ⟨signature, signed_logged along rfl signature held, keyed⟩

theorem connectToLnd_told {expected : String} {cfg : LndCfg} {trace : List (Event StartSig)}
    {state : NodeState} (connected : Reaches (connectToLnd expected cfg) trace (.ret state)) :
    .call .getInfo (.ok state) ∈ trace := by
  obtain ⟨reply, later, rfl, rest⟩ := reaches_request_bind connected
  cases reply with
  | error e => cases rest
  | ok _ =>
      obtain ⟨reply, later, rfl, last⟩ := reaches_request_bind rest
      cases reply with
      | error e => cases last
      | ok told =>
          cases last
          exact .tail _ (.head _)

/-- The onion messenger runs only with an LND that passes the checks. -/
theorem runChecks_admitted {parts : StartParts} {args : Cfg} {trace : List (Event StartSig)}
    {start : MessengerStart} (checked : Reaches (runChecks parts args) trace (.ret (.ok start))) :
    ∃ state version, .call .getInfo (.ok state) ∈ trace ∧
      .call .getVersion (.ok version) ∈ trace ∧
      getNetwork state.info = .ok start.network ∧
      featuresSupportOnionMessages state.features = true ∧
      admitsLnd args.skipVersionCheck version = true := by
  obtain ⟨first, second, state, rfl, connected, checks⟩ := reaches_bind_ret checked
  have told := connectToLnd_told connected
  split at checks
  · cases checks
  rename_i network found
  split at checks
  · cases checks
  split at checks
  · cases checks
  rename_i supported
  obtain ⟨reply, later, rfl, rest⟩ := reaches_request_bind checks
  cases reply with
  | error e => cases rest
  | ok version =>
      change Reaches (ite _ _ _) _ _ at rest
      split at rest
      · cases rest
      rename_i tagged
      split at rest
      · cases rest
      rename_i recent
      cases rest
      refine ⟨state, version, List.mem_append_left _ told,
        List.mem_append_right _ (.head _), found, by simpa using supported, ?_⟩
      have built : hasBuildTags version none = true := by simpa using tagged
      have new : args.skipVersionCheck = true ∨ hasVersion version none = true := by
        simpa [or_iff_not_imp_left] using recent
      simpa [admitsLnd, built] using new

end LndkFormal.Daemon
