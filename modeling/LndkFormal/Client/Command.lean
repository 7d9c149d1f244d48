import LndkFormal.Async.Recording
import LndkFormal.Daemon.Startup
import LndkFormal.Server.CreateOffer

/-!
# The command line client

`lndk-cli` decodes offers and invoices by itself.  For the other commands it reads a
certificate and a macaroon, connects to LNDK's server and sends one request.
-/

set_option autoImplicit false

namespace LndkFormal.Client

open LndkFormal.Async
open LndkFormal.Daemon
open LndkFormal.Lnd
open LndkFormal.Ldk
open LndkFormal.Offers
open LndkFormal.Server

/-- The two options for a limit on fees, which clap does not accept together. -/
structure FeeArgs where
  feeLimit : Option UInt32
  feeLimitPercent : Option UInt32
  conflicts : feeLimit = none ∨ feeLimitPercent = none

inductive Commands where
  | decodeOffer (offerString : String)
  | decodeInvoice (invoiceString : String)
  | payOffer (offerString : String) (amount : Option UInt64) (payerNote : Option String)
      (responseInvoiceTimeout : Option UInt32) (fees : FeeArgs)
  | getInvoice (offerString : String) (amount : Option UInt64) (payerNote : Option String)
      (responseInvoiceTimeout : Option UInt32)
  | payInvoice (invoiceString : String) (amount : Option UInt64) (fees : FeeArgs)
  | createOffer (amount : Option UInt64) (description issuer : Option String)
      (expiry quantity : Option UInt64)

structure Cli where
  network : String
  macaroonPath : Option String
  macaroonHex : Option String
  certPem : Option String
  certPath : Option String
  grpcHost : String
  grpcPort : UInt16
  command : Commands

structure ClientTlsConfig where
  caCertificate : String
  domainName : String

inductive ChannelError where
  | endpoint (debug : String)
  | tls (debug : String)
  | connect (debug : String)

inductive Rpc where
  | payOffer (request : PayOfferRequest)
  | getInvoice (request : GetInvoiceRequest)
  | payInvoice (request : PayInvoiceRequest)
  | createOffer (request : CreateOfferRequest)

inductive CliCall where
  | println (text : String)
  | homeDir
  | readToString (path : String)
  | readToEnd (path : String)
  | connectChannel (endpoint : String) (tls : ClientTlsConfig)
  | rpc (rpc : Rpc)

/-- Each response of the server has one text: a preimage, an invoice or an offer. -/
abbrev CliCall.Reply : CliCall → Type
  | .println _ => Unit
  | .homeDir => Option String
  | .readToString _ => Except String String
  | .readToEnd _ => Except String (List UInt8)
  | .connectChannel _ _ => Except ChannelError Unit
  | .rpc _ => Except Status String

abbrev CliSig : Signature where
  Access := Empty
  AccessReply := Empty.elim
  Call := CliCall
  CallReply := CliCall.Reply

abbrev perform (call : CliCall) : Prog CliSig call.Reply := @Prog.request CliSig call

structure ClientParts where
  ldk : Library
  offerToString : Offer → String
  /-- The macaroon as tonic's metadata, as the server finds it. -/
  metadata : String → Except String Metadata
  debugOffer : Offer → String
  debugInvoice : Bolt12Invoice → String
  debugGetInvoice : String → String
  debugCreateOffer : String → String

inductive ExitCode where
  | success
  | failure
  deriving DecidableEq

/-! ## The program -/

def offerErrorText (e : OfferError) : String := "ERROR (" ++ e.code ++ "): " ++ e.display

def statusText (status : Status) : String :=
  match status.reason with
  | some reason => "ERROR (" ++ reason ++ "): " ++ status.message
  | none => "ERROR: " ++ status.message

def TLS_CERT_FILENAME : String := "tls-cert.pem"

def readHomeDir : Prog CliSig String := do
  match ← perform .homeDir with
  | none => .panic "called `Option::unwrap()` on a `None` value"
  | some home => return home

def readCertFile (path : String) : Prog CliSig (Except String String) := do
  match ← perform (.readToString path) with
  | .error e => return .error ("ERROR: failed to read cert: " ++ e)
  | .ok pem => return .ok pem

def readPem : Option String → Option String → Prog CliSig (Except String String)
  | some pem, _ => .ret (.ok pem)
  | none, some certPath => readCertFile certPath
  | none, none => readHomeDir >>= fun home =>
      readCertFile (join (join (join home DEFAULT_LNDK_DIR) DEFAULT_DATA_DIR) TLS_CERT_FILENAME)

def readCertFromArgs (certPem certPath : Option String) :
    Prog CliSig (Except String ClientTlsConfig) :=
  if certPath.isSome && certPem.isSome then
    .ret (.error "ERROR: Only one of `cert_path` or `cert_pem` should be set.")
  else (readPem certPem certPath).andThen fun pem => .ret (.ok ⟨pem, "localhost"⟩)

def createGrpcChannel (grpcHost : String) (grpcPort : UInt16) (tls : ClientTlsConfig) :
    Prog CliSig (Except String Unit) := do
  match ← perform (.connectChannel (grpcHost ++ ":" ++ toString grpcPort) tls) with
  | .error (.endpoint e) => return .error ("ERROR: failed to create endpoint " ++ e)
  | .error (.tls e) => return .error ("ERROR: failed to configure tls " ++ e)
  | .error (.connect e) => return .error ("ERROR: failed to connect " ++ e)
  | .ok () => return .ok ()

def readMacaroonFromFile (path : String) : Prog CliSig (Except String String) := do
  match ← perform (.readToEnd path) with
  | .error e => return .error ("ERROR: failed to read macaroon from file " ++ e)
  | .ok buffer => return .ok (hexEncode buffer)

def macaroonPathDefault (home network : String) : String :=
  join home (".lnd/data/chain/bitcoin/" ++ network ++ "/admin.macaroon")

def readMacaroonFromArgs (macaroonPath macaroonHex : Option String) (network : String) :
    Prog CliSig (Except String String) :=
  if macaroonPath.isSome && macaroonHex.isSome then
    .ret (.error "ERROR: Only one of `macaroon_path` or `macaroon_hex` should be set.")
  else
    match macaroonPath, macaroonHex with
    | some path, _ => readMacaroonFromFile path
    | none, some macaroon => .ret (.ok macaroon)
    | none, none => readHomeDir >>= fun home =>
        readMacaroonFromFile (macaroonPathDefault home network)

/-- What the commands for the server have in common: the macaroon, once the client is
connected. -/
def createClient (args : Cli) : Prog CliSig (Except String String) :=
  (readCertFromArgs args.certPem args.certPath).andThen fun tls =>
    (createGrpcChannel args.grpcHost args.grpcPort tls).andThen fun _ =>
      readMacaroonFromArgs args.macaroonPath args.macaroonHex args.network

section Program

variable (parts : ClientParts)

def addMetadata (macaroon : String) : Except String Metadata :=
  (parts.metadata macaroon).mapError fun e =>
    "ERROR: failed to parse provided macaroon string into tonic metadata " ++ e

def report : Rpc → String → String
  | .payOffer _, _ => "Successfully paid for offer!"
  | .getInvoice _, invoice => "Invoice: " ++ parts.debugGetInvoice invoice ++ "."
  | .payInvoice _, _ => "Successfully paid for offer!"
  | .createOffer _, offer => "Offer: " ++ parts.debugCreateOffer offer ++ "."

def send (rpc : Rpc) : Prog CliSig (Except String Unit) := do
  match ← perform (.rpc rpc) with
  | .ok text => do
      perform (.println (report parts rpc text))
      return .ok ()
  | .error status => return .error (statusText status)

def decodeTyped (offerString : String) : Prog CliSig (Except String Offer) :=
  .ret ((decode parts.ldk offerString).mapError offerErrorText)

def decodeOfferCommand (offerString : String) : Prog CliSig (Except String Unit) := do
  perform (.println ("Decoding offer: " ++ offerString ++ "."))
  match decode parts.ldk offerString with
  | .ok offer => do
      perform (.println ("Decoded offer: " ++ parts.debugOffer offer ++ "."))
      return .ok ()
  | .error e => return .error (offerErrorText e)

def decodeInvoiceCommand (invoiceString : String) : Prog CliSig (Except String Unit) := do
  perform (.println ("Decoding invoice: " ++ invoiceString ++ "."))
  match bolt12InvoiceFromString parts.ldk invoiceString with
  | .ok invoice => do
      perform (.println ("Decoded invoice: " ++ parts.debugInvoice invoice ++ "."))
      return .ok ()
  | .error e => return .error (offerErrorText e)

def runCommand (args : Cli) : Prog CliSig (Except String Unit) :=
  match args.command with
  | .decodeOffer offerString => decodeOfferCommand parts offerString
  | .decodeInvoice invoiceString => decodeInvoiceCommand parts invoiceString
  | .payOffer offerString amount payerNote responseInvoiceTimeout fees =>
      (createClient args).andThen fun macaroon =>
        (decodeTyped parts offerString).andThen fun offer =>
          (Prog.ret (addMetadata parts macaroon)).andThen fun metadata =>
            send parts (.payOffer
              { metadata, offer := parts.offerToString offer, amount, payerNote
                responseInvoiceTimeout, feeLimit := fees.feeLimit
                feeLimitPercent := fees.feeLimitPercent })
  | .getInvoice offerString amount payerNote responseInvoiceTimeout =>
      (createClient args).andThen fun macaroon =>
        (decodeTyped parts offerString).andThen fun offer =>
          (Prog.ret (addMetadata parts macaroon)).andThen fun metadata =>
            send parts (.getInvoice
              { metadata, offer := parts.offerToString offer, amount, payerNote
                responseInvoiceTimeout })
  | .payInvoice invoiceString amount fees =>
      (createClient args).andThen fun macaroon =>
        (Prog.ret (addMetadata parts macaroon)).andThen fun metadata =>
          send parts (.payInvoice
            { metadata, invoice := invoiceString, amount, feeLimit := fees.feeLimit
              feeLimitPercent := fees.feeLimitPercent })
  | .createOffer amount description issuer expiry quantity =>
      (createClient args).andThen fun macaroon =>
        (Prog.ret (addMetadata parts macaroon)).andThen fun metadata =>
          send parts (.createOffer { metadata, amount, description, issuer, quantity, expiry })

/-- `exit_gracefully` prints the text of the error and exits with 1. -/
def main (args : Cli) : Prog CliSig ExitCode := do
  match ← runCommand parts args with
  | .ok () => return .success
  | .error text => do
      perform (.println text)
      return .failure

end Program

def Commands.remote : Commands → Bool
  | .decodeOffer _ => false
  | .decodeInvoice _ => false
  | _ => true

def isRpc : Event CliSig → Bool
  | .call (.rpc _) _ => true
  | _ => false

def Unsent (past : List (Event CliSig)) : Prop := ∀ event ∈ past, isRpc event = false

/-- The macaroon is the one of the command line, or what was read from the file it names. -/
inductive Obtained (args : Cli) (past : List (Event CliSig)) : String → Prop where
  | file {path : String} {buffer : List UInt8} (given : args.macaroonPath = some path)
      (read : .call (.readToEnd path) (.ok buffer) ∈ past) : Obtained args past (hexEncode buffer)
  | typed {hex : String} (noFile : args.macaroonPath = none) (given : args.macaroonHex = some hex) :
      Obtained args past hex
  | default {home : String} {buffer : List UInt8} (noFile : args.macaroonPath = none)
      (noText : args.macaroonHex = none) (found : .call .homeDir (some home) ∈ past)
      (read : .call (.readToEnd (macaroonPathDefault home args.network)) (.ok buffer) ∈ past) :
      Obtained args past (hexEncode buffer)

/-- The request has the command's own fields, and an offer in the words of LDK. -/
inductive Spells (parts : ClientParts) (metadata : Metadata) : Commands → Rpc → Prop where
  | payOffer {offerString : String} {offer : Offer} {amount : Option UInt64}
      {payerNote : Option String} {timeout : Option UInt32} {fees : FeeArgs}
      (decoded : decode parts.ldk offerString = .ok offer) :
      Spells parts metadata (.payOffer offerString amount payerNote timeout fees)
        (.payOffer ⟨metadata, parts.offerToString offer, amount, payerNote, timeout,
          fees.feeLimit, fees.feeLimitPercent⟩)
  | getInvoice {offerString : String} {offer : Offer} {amount : Option UInt64}
      {payerNote : Option String} {timeout : Option UInt32}
      (decoded : decode parts.ldk offerString = .ok offer) :
      Spells parts metadata (.getInvoice offerString amount payerNote timeout)
        (.getInvoice ⟨metadata, parts.offerToString offer, amount, payerNote, timeout⟩)
  | payInvoice {invoiceString : String} {amount : Option UInt64} {fees : FeeArgs} :
      Spells parts metadata (.payInvoice invoiceString amount fees)
        (.payInvoice ⟨metadata, invoiceString, amount, fees.feeLimit, fees.feeLimitPercent⟩)
  | createOffer {amount : Option UInt64} {description issuer : Option String}
      {expiry quantity : Option UInt64} :
      Spells parts metadata (.createOffer amount description issuer expiry quantity)
        (.createOffer ⟨metadata, amount, description, issuer, quantity, expiry⟩)

/-- A request is sent at most once, with the macaroon and the fields of the command line. -/
def SentOnce (parts : ClientParts) (args : Cli) (past : List (Event CliSig)) :
    Event CliSig → Prop
  | .call (.rpc rpc) _ => Unsent past ∧
      ∃ macaroon metadata, Obtained args past macaroon ∧
        parts.metadata macaroon = .ok metadata ∧ Spells parts metadata args.command rpc
  | _ => True

def sending (parts : ClientParts) (args : Cli) : Monitor CliSig (List (Event CliSig)) :=
  .recording (SentOnce parts args)

def exitCode {α : Type} : Except Status α → ExitCode
  | .ok _ => .success
  | .error _ => .failure

def lastLine (parts : ClientParts) (rpc : Rpc) : Except Status String → String
  | .ok text => report parts rpc text
  | .error status => statusText status

/-- A finished run has sent nothing, and has not done what needs the server, or its last line and
its exit code are those of the answer. -/
def Concluded (parts : ClientParts) (args : Cli) (exit : ExitCode)
    (trace : List (Event CliSig)) : Prop :=
  (Unsent trace ∧ (exit = .success → args.command.remote = false)) ∨
    ∃ pre rpc result, trace = pre ++ [.call (.rpc rpc) result,
        .call (.println (lastLine parts rpc result)) ()] ∧
      exit = exitCode result

theorem unsent_nil : Unsent [] := fun _ member => by cases member

theorem Unsent.append {past : List (Event CliSig)} (unsent : Unsent past) {event : Event CliSig}
    (other : isRpc event = false) : Unsent (past ++ [event]) := by
  intro now member
  rcases List.mem_append.mp member with before | last
  · exact unsent now before
  · rw [List.mem_singleton.mp last]
    exact other

section Programs

variable (parts : ClientParts) (args : Cli)

theorem unsent_sending {α : Type} {p : Prog CliSig α}
    (within : p.Within fun event => isRpc event = false) {past : List (Event CliSig)}
    (unsent : Unsent past) :
    p.Satisfies (sending parts args) (fun _ final => Unsent final) past := by
  refine within.keeps unsent ?_ fun _ _ => trivial
  intro sofar event unsent other
  refine ⟨?_, unsent.append other⟩
  cases event with
  | access op reply => trivial
  | call call reply => cases call <;> trivial

theorem readHomeDir_unsent : readHomeDir.Within fun event => isRpc event = false := by
  refine Prog.within_request_bind.mpr fun home => ⟨rfl, ?_⟩
  cases home <;> trivial

theorem readHomeDir_sending {past : List (Event CliSig)} (unsent : Unsent past) :
    readHomeDir.Satisfies (sending parts args)
      (fun home final => Unsent final ∧ .call .homeDir (some home) ∈ final) past := by
  refine Prog.satisfies_request_bind.mpr fun home => ⟨trivial, ?_⟩
  cases home with
  | none => trivial
  | some home => exact ⟨unsent.append rfl, List.mem_append_right _ (.head _)⟩

theorem readCertFromArgs_unsent (certPem certPath : Option String) :
    (readCertFromArgs certPem certPath).Within fun event => isRpc event = false := by
  have file : ∀ path, (readCertFile path).Within fun event => isRpc event = false := by
    intro path
    refine Prog.within_request_bind.mpr fun pem => ⟨rfl, ?_⟩
    cases pem <;> trivial
  have pem : (readPem certPem certPath).Within fun event => isRpc event = false := by
    unfold readPem
    split
    · trivial
    · exact file _
    · exact readHomeDir_unsent.bind fun home => file _
  unfold readCertFromArgs
  split
  · trivial
  · exact pem.andThen fun _ => trivial

theorem createGrpcChannel_unsent (grpcHost : String) (grpcPort : UInt16) (tls : ClientTlsConfig) :
    (createGrpcChannel grpcHost grpcPort tls).Within fun event => isRpc event = false := by
  refine Prog.within_request_bind.mpr fun connected => ⟨rfl, ?_⟩
  rcases connected with (_ | _ | _) | _ <;> trivial

def Returned (result : Except String String) (final : List (Event CliSig)) : Prop :=
  Unsent final ∧ ∀ macaroon, result = .ok macaroon → Obtained args final macaroon

theorem returned_error {text : String} {final : List (Event CliSig)} (unsent : Unsent final) :
    Returned args (.error text) final := by
  refine ⟨unsent, ?_⟩
  intro macaroon impossible
  cases impossible

theorem readMacaroonFromFile_sending (path : String) {past : List (Event CliSig)}
    (unsent : Unsent past) :
    (readMacaroonFromFile path).Satisfies (sending parts args)
      (fun result final => Unsent final ∧ (∀ event ∈ past, event ∈ final) ∧
        ∀ macaroon, result = .ok macaroon → ∃ buffer,
          .call (.readToEnd path) (.ok buffer) ∈ final ∧ macaroon = hexEncode buffer) past := by
  refine Prog.satisfies_request_bind.mpr fun read => ⟨trivial, ?_⟩
  cases read with
  | error e =>
      refine ⟨unsent.append rfl, fun _ => List.mem_append_left _, ?_⟩
      intro macaroon impossible
      cases impossible
  | ok buffer =>
      refine ⟨unsent.append rfl, fun _ => List.mem_append_left _, ?_⟩
      rintro macaroon ⟨⟩
      exact ⟨buffer, List.mem_append_right _ (.head _), rfl⟩

theorem readMacaroonFromArgs_sending {past : List (Event CliSig)} (unsent : Unsent past) :
    (readMacaroonFromArgs args.macaroonPath args.macaroonHex args.network).Satisfies
      (sending parts args) (Returned args) past := by
  unfold readMacaroonFromArgs
  cases named : args.macaroonPath with
  | some path =>
      cases given : args.macaroonHex with
      | some hex => exact returned_error args unsent
      | none =>
          refine (readMacaroonFromFile_sending parts args path unsent).mono ?_
          intro result final ⟨unsent, _, read⟩
          refine ⟨unsent, fun macaroon same => ?_⟩
          obtain ⟨buffer, happened, rfl⟩ := read macaroon same
          exact .file named happened
  | none =>
      cases given : args.macaroonHex with
      | some hex =>
          refine ⟨unsent, ?_⟩
          rintro macaroon ⟨⟩
          exact .typed named given
      | none =>
          refine Prog.Satisfies.bind (readHomeDir_sending parts args unsent) ?_
          intro home final ⟨unsent, found⟩
          refine (readMacaroonFromFile_sending parts args _ unsent).mono ?_
          intro result final ⟨unsent, kept, read⟩
          refine ⟨unsent, fun macaroon same => ?_⟩
          obtain ⟨buffer, happened, rfl⟩ := read macaroon same
          exact .default named given (kept _ found) happened

theorem createClient_sending :
    (createClient args).Satisfies (sending parts args) (Returned args) [] := by
  refine (unsent_sending parts args (readCertFromArgs_unsent _ _) unsent_nil).andThen
    (fun _ _ unsent => returned_error args unsent) ?_
  intro tls final unsent
  refine (unsent_sending parts args (createGrpcChannel_unsent _ _ tls) unsent).andThen
    (fun _ _ unsent => returned_error args unsent) ?_
  exact fun _ final unsent => readMacaroonFromArgs_sending parts args unsent

def Ran (result : Except String Unit) (trace : List (Event CliSig)) : Prop :=
  (Unsent trace ∧ (result = .ok () → args.command.remote = false)) ∨ ∃ pre rpc,
    (∃ text, result = .ok () ∧ trace = pre ++ [.call (.rpc rpc) (.ok text),
      .call (.println (report parts rpc text)) ()]) ∨
    ∃ status, result = .error (statusText status) ∧
      trace = pre ++ [.call (.rpc rpc) (.error status)]

theorem ran_error {text : String} {trace : List (Event CliSig)} (unsent : Unsent trace) :
    Ran parts args (.error text) trace := by
  refine .inl ⟨unsent, ?_⟩
  intro impossible
  cases impossible

theorem send_sending {past : List (Event CliSig)} {rpc : Rpc} {macaroon : String}
    {metadata : Metadata} (unsent : Unsent past) (obtained : Obtained args past macaroon)
    (wire : parts.metadata macaroon = .ok metadata)
    (spells : Spells parts metadata args.command rpc) :
    (send parts rpc).Satisfies (sending parts args) (Ran parts args) past := by
  refine Prog.satisfies_request_bind.mpr fun reply =>
    ⟨⟨unsent, macaroon, metadata, obtained, wire, spells⟩, ?_⟩
  cases reply with
  | ok text =>
      refine Prog.satisfies_request_bind.mpr fun _ => ⟨trivial, ?_⟩
      exact .inr ⟨past, rpc, .inl ⟨text, rfl, List.append_assoc _ _ _⟩⟩
  | error status => exact .inr ⟨past, rpc, .inr ⟨status, rfl, rfl⟩⟩

theorem addMetadata_then {past : List (Event CliSig)} {macaroon : String} (unsent : Unsent past)
    (obtained : Obtained args past macaroon) {rpc : Metadata → Rpc}
    (spells : ∀ metadata, Spells parts metadata args.command (rpc metadata)) :
    ((Prog.ret (addMetadata parts macaroon)).andThen fun metadata =>
      send parts (rpc metadata)).Satisfies (sending parts args) (Ran parts args) past := by
  refine Prog.satisfies_checked (fun _ _ => ran_error parts args unsent) fun metadata wire => ?_
  exact send_sending parts args unsent obtained wire (spells metadata)

theorem decodeOfferCommand_unsent (offerString : String) :
    (decodeOfferCommand parts offerString).Within fun event => isRpc event = false := by
  refine Prog.within_request_bind.mpr fun _ => ⟨rfl, ?_⟩
  split
  · exact Prog.within_request_bind.mpr fun _ => ⟨rfl, trivial⟩
  · trivial

theorem decodeInvoiceCommand_unsent (invoiceString : String) :
    (decodeInvoiceCommand parts invoiceString).Within fun event => isRpc event = false := by
  refine Prog.within_request_bind.mpr fun _ => ⟨rfl, ?_⟩
  split
  · exact Prog.within_request_bind.mpr fun _ => ⟨rfl, trivial⟩
  · trivial

theorem runCommand_sending :
    (runCommand parts args).Satisfies (sending parts args) (Ran parts args) [] := by
  have failed : ∀ text final, Returned args (.error text) final →
      Ran parts args (.error text) final :=
    fun _ _ returned => ran_error parts args returned.1
  unfold runCommand
  split
  next offerString command =>
    refine (unsent_sending parts args (decodeOfferCommand_unsent parts offerString)
      unsent_nil).mono ?_
    exact fun _ _ unsent => .inl ⟨unsent, fun _ => by rw [command]; rfl⟩
  next invoiceString command =>
    refine (unsent_sending parts args (decodeInvoiceCommand_unsent parts invoiceString)
      unsent_nil).mono ?_
    exact fun _ _ unsent => .inl ⟨unsent, fun _ => by rw [command]; rfl⟩
  next command =>
    refine (createClient_sending parts args).andThen failed ?_
    intro macaroon final ⟨unsent, obtained⟩
    refine Prog.satisfies_checked (fun _ _ => ran_error parts args unsent) fun offer decoded => ?_
    refine addMetadata_then parts args unsent (obtained macaroon rfl) fun metadata => ?_
    rw [command]
    exact .payOffer decoded
  next command =>
    refine (createClient_sending parts args).andThen failed ?_
    intro macaroon final ⟨unsent, obtained⟩
    refine Prog.satisfies_checked (fun _ _ => ran_error parts args unsent) fun offer decoded => ?_
    refine addMetadata_then parts args unsent (obtained macaroon rfl) fun metadata => ?_
    rw [command]
    exact .getInvoice decoded
  next command =>
    refine (createClient_sending parts args).andThen failed ?_
    intro macaroon final ⟨unsent, obtained⟩
    refine addMetadata_then parts args unsent (obtained macaroon rfl) fun metadata => ?_
    rw [command]
    exact .payInvoice
  next command =>
    refine (createClient_sending parts args).andThen failed ?_
    intro macaroon final ⟨unsent, obtained⟩
    refine addMetadata_then parts args unsent (obtained macaroon rfl) fun metadata => ?_
    rw [command]
    exact .createOffer

theorem main_sending :
    (main parts args).Satisfies (sending parts args) (Concluded parts args) [] := by
  refine (runCommand_sending parts args).bind ?_
  rintro (text | _) final ran
  · refine Prog.satisfies_request_bind.mpr fun _ => ⟨trivial, ?_⟩
    rcases ran with ⟨unsent, _⟩ | ⟨pre, rpc, ⟨_, impossible, _⟩ | ⟨status, same, rfl⟩⟩
    · exact .inl ⟨unsent.append rfl, nofun⟩
    · cases impossible
    · cases same
      exact .inr ⟨pre, rpc, .error status, List.append_assoc _ _ _, rfl⟩
  · rcases ran with ⟨unsent, done⟩ | ⟨pre, rpc, ⟨text, _, rfl⟩ | ⟨_, impossible, _⟩⟩
    · exact .inl ⟨unsent, fun _ => done rfl⟩
    · exact .inr ⟨pre, rpc, .ok text, rfl, rfl⟩
    · cases impossible

end Programs

end LndkFormal.Client
