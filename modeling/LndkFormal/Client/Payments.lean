import LndkFormal.Client.Command
import LndkFormal.System.Endpoints
import LndkFormal.System.FeeLimits
import LndkFormal.System.QueriedAmounts
import LndkFormal.System.Statuses

/-!
# From the command line to LND

A command typed into `lndk-cli`, the request it becomes, and what the server does for that
request while it serves others: the amount, the limit on fees and the macaroon that reach LND
are the ones of the command line, and the exit code tells whether LND has paid.
-/

set_option autoImplicit false

namespace LndkFormal.Client

open LndkFormal.Async
open LndkFormal.Lnd
open LndkFormal.Ldk
open LndkFormal.Offers
open LndkFormal.Server
open LndkFormal.System

/-- The server's call for a request.  CreateOffer does not touch what the others share. -/
def Rpc.call : Rpc → Option Request
  | .payOffer request => some (.payOfferRpc request)
  | .getInvoice request => some (.getInvoiceRpc request)
  | .payInvoice request => some (.payInvoiceRpc request)
  | .createOffer _ => none

def Commands.fees : Commands → Option FeeArgs
  | .payOffer _ _ _ _ fees => some fees
  | .payInvoice _ _ fees => some fees
  | _ => none

/-- LND gets the limit of the command line, and none if there is none. -/
def FeesKept (fees : FeeArgs) (sent : Option FeeLimit) : Prop :=
  (fees.feeLimit = none ∧ fees.feeLimitPercent = none ∧ sent = none) ∨
    CarriesLimit fees.feeLimit fees.feeLimitPercent sent

theorem feesKept_createFeeLimit (fees : FeeArgs) :
    FeesKept fees (createFeeLimit fees.feeLimit fees.feeLimitPercent) := by
  obtain ⟨fixed, percent, conflicts⟩ := fees
  by_cases set : fixed.isSome = true ∨ percent.isSome = true
  · right
    refine (carriesLimit_createFeeLimit_iff set).mpr ?_
    rintro ⟨both, together⟩
    rcases conflicts with rfl | rfl
    · cases both
    · cases together
  · left
    rw [not_or, Bool.not_eq_true, Bool.not_eq_true, Option.isSome_eq_false_iff,
      Option.isSome_eq_false_iff, Option.isNone_iff_eq_none, Option.isNone_iff_eq_none] at set
    obtain ⟨rfl, rfl⟩ := set
    exact ⟨rfl, rfl, rfl⟩

/-- The amount of the command line, checked against the offer or the invoice it names. -/
def TypedAmount (ldk : Library) (amount : UInt64) : Commands → Prop
  | .payOffer offerString asked _ _ _ => ∃ offer, decode ldk offerString = .ok offer ∧
      validateAmount offer.amount asked = .ok amount
  | .payInvoice invoiceString asked _ => ∃ invoice,
      bolt12InvoiceFromString ldk invoiceString = .ok invoice ∧
      validateAmount invoice.amount asked = .ok amount
  | _ => False

/-- The one request of a run is its last step but one, and has the macaroon and the fields of the
command line.  The last line and the exit code tell the answer. -/
structure LastRequest (parts : ClientParts) (args : Cli) (trace : List (Event CliSig))
    (exit : ExitCode) (rpc : Rpc) (result : Except Status String) : Prop where
  last : ∃ pre, Unsent pre ∧ trace = pre ++ [.call (.rpc rpc) result,
    .call (.println (lastLine parts rpc result)) ()]
  told : exit = exitCode result
  typed : ∃ macaroon metadata, Obtained args trace macaroon ∧
    parts.metadata macaroon = .ok metadata ∧ Spells parts metadata args.command rpc

/-- What the server, and through it LND, has done for the command, given its answer. -/
structure AskedAsTyped (ldk : Library) (args : Cli) (trace : List (Event CliSig))
    (result : Except Status String) (log : List (Event Sig)) : Prop where
  macaroon : ∀ macaroon reply, .call (.connectLnd macaroon) reply ∈ log →
    Obtained args trace macaroon
  queried : ∀ routes reply, .call (.queryRoutes routes) reply ∈ log →
    ∃ fees amount, args.command.fees = some fees ∧ FeesKept fees routes.feeLimit ∧
      TypedAmount ldk amount args.command ∧ routes.amtMsat = amount.toInt64
  paid : exitCode result = .success → args.command.fees.isSome = true →
    ∃ payment, Succeeded log payment
  unpaid : ∀ status, result = .error status →
    (∀ reason ∈ payingReasons, status.reason ≠ some reason) →
    ∀ event ∈ log, isPayment event = false
  fetched : args.command.fees = none → ∀ event ∈ log, isPayment event = false

structure Answers (pool : LndkPool) (rpc : Rpc) (result : Except Status String) (i : Nat)
    (task : LndkTask) : Prop where
  found : pool.tasks[i]? = some task
  serves : rpc.call = some task.request
  answered : task.prog = .ret (.rpc result)

/-- Every response that the client has got is the answer of a task of the server.  An error may
also come from the connection. -/
def Genuine (trace : List (Event CliSig)) (pool : LndkPool) : Prop :=
  ∀ rpc text, .call (.rpc rpc) (.ok text) ∈ trace → rpc.call.isSome = true →
    ∃ i task, Answers pool rpc (.ok text) i task

structure ServedAsTyped (parts : ClientParts) (args : Cli) (trace : List (Event CliSig))
    (exit : ExitCode) (pool : LndkPool) : Prop where
  sent : Unsent trace ∨ ∃ rpc result, LastRequest parts args trace exit rpc result
  answered : exit = .success → args.command.remote = true →
    ∃ rpc text, LastRequest parts args trace exit rpc (.ok text)
  asked : ∀ rpc result i task, .call (.rpc rpc) result ∈ trace →
    Answers pool rpc result i task → AskedAsTyped parts.ldk args trace result task.log
  /-- A command that pays ends with 0 only if LND has reported the payment as succeeded, to the
  task that has served the command. -/
  paid : exit = .success → args.command.fees.isSome = true →
    ∃ rpc text i task payment, LastRequest parts args trace exit rpc (.ok text) ∧
      Answers pool rpc (.ok text) i task ∧ Succeeded task.log payment

structure TextRules (parts : ClientParts) : Prop where
  /-- LDK reads back the offers it has read. -/
  offer : ∀ text offer, decode parts.ldk text = .ok offer →
    decode parts.ldk (parts.offerToString offer) = .ok offer
  /-- The server finds the text that the client has put into the metadata. -/
  metadata : ∀ text hex, parts.metadata text = .ok (.macaroon hex) → hex = text

section Client

variable {parts : ClientParts} {args : Cli} {trace : List (Event CliSig)} {exit : ExitCode}

theorem Obtained.append {past : List (Event CliSig)} {macaroon : String}
    (obtained : Obtained args past macaroon) (later : List (Event CliSig)) :
    Obtained args (past ++ later) macaroon := by
  cases obtained with
  | file given read => exact .file given (List.mem_append_left _ read)
  | typed noFile given => exact .typed noFile given
  | default noFile noText found read =>
      exact .default noFile noText (List.mem_append_left _ found) (List.mem_append_left _ read)

theorem main_concluded (client : Reaches (main parts args) trace (.ret exit)) :
    (Unsent trace ∧ (exit = .success → args.command.remote = false)) ∨
      ∃ rpc result, LastRequest parts args trace exit rpc result := by
  rcases recorded_return (main_sending parts args) client with
    unsent | ⟨pre, rpc, result, rfl, told⟩
  · exact .inl unsent
  · obtain ⟨unsent, macaroon, metadata, obtained, wire, spells⟩ :
        SentOnce parts args pre (.call (.rpc rpc) result) :=
      recorded_event (main_sending parts args) client
    exact .inr ⟨rpc, result, ⟨pre, unsent, rfl⟩, told, macaroon, metadata, obtained.append _, wire,
      spells⟩

theorem LastRequest.unique {rpc other : Rpc} {result reply : Except Status String}
    (last : LastRequest parts args trace exit rpc result)
    (sent : .call (.rpc other) reply ∈ trace) : other = rpc ∧ reply = result := by
  obtain ⟨pre, unsent, rfl⟩ := last.last
  rcases List.mem_append.mp sent with before | last
  · cases unsent _ before
  · rcases List.mem_cons.mp last with same | later
    · cases same
      exact ⟨rfl, rfl⟩
    · cases List.mem_singleton.mp later

theorem LastRequest.sent {rpc : Rpc} {result : Except Status String}
    (last : LastRequest parts args trace exit rpc result) : .call (.rpc rpc) result ∈ trace := by
  obtain ⟨pre, _, rfl⟩ := last.last
  exact List.mem_append_right _ List.mem_cons_self

theorem main_sent (client : Reaches (main parts args) trace (.ret exit)) {rpc : Rpc}
    {result : Except Status String} (sent : .call (.rpc rpc) result ∈ trace) :
    LastRequest parts args trace exit rpc result := by
  rcases main_concluded client with ⟨unsent, _⟩ | ⟨own, reply, last⟩
  · cases unsent _ sent
  · obtain ⟨rfl, rfl⟩ := last.unique sent
    exact last

theorem main_success (client : Reaches (main parts args) trace (.ret .success))
    (remote : args.command.remote = true) :
    ∃ rpc text, LastRequest parts args trace .success rpc (.ok text) := by
  rcases main_concluded client with ⟨_, done⟩ | ⟨rpc, result, last⟩
  · rw [done rfl] at remote
    cases remote
  · cases result with
    | ok text => exact ⟨rpc, text, last⟩
    | error status => cases last.told

theorem Commands.remote_of_fees {command : Commands} (pays : command.fees.isSome = true) :
    command.remote = true := by
  cases command <;> first | rfl | cases pays

end Client

/-! ## The server's part -/

section Server

variable {parts : ClientParts} {metadata : Metadata} {command : Commands} {rpc : Rpc}
  {request : Request}

theorem Spells.metadata_eq (spells : Spells parts metadata command rpc)
    (served : rpc.call = some request) : request.metadata = some metadata := by
  cases spells <;> cases served <;> rfl

theorem Spells.feeLimits_eq (spells : Spells parts metadata command rpc)
    (served : rpc.call = some request) :
    request.feeLimits = command.fees.map fun fees => (fees.feeLimit, fees.feeLimitPercent) := by
  cases spells <;> cases served <;> rfl

theorem Spells.pays_eq (spells : Spells parts metadata command rpc)
    (served : rpc.call = some request) : request.pays = command.fees.isSome := by
  cases spells <;> cases served <;> rfl

theorem Spells.typedAmount (rules : TextRules parts) (spells : Spells parts metadata command rpc)
    (served : rpc.call = some request) {amount : UInt64}
    (valid : ValidatedAmount parts.ldk amount request) : TypedAmount parts.ldk amount command := by
  cases spells with
  | payOffer decoded =>
      cases served
      obtain ⟨other, again, valid⟩ := valid
      cases again.symm.trans (rules.offer _ _ decoded)
      exact ⟨_, decoded, valid⟩
  | payInvoice =>
      cases served
      exact valid
  | getInvoice _ =>
      cases served
      exact valid.elim
  | createOffer => cases served

end Server

theorem start_connects {ldk : Library} {handler : OfferHandler} {request : Request}
    {metadata : Metadata} (given : request.metadata = some metadata) {log : List (Event Sig)}
    {rest : Prog Sig Outcome} (run : Reaches (start ldk handler request) log rest)
    {macaroon : String} {reply : Except String Unit}
    (connected : .call (.connectLnd macaroon) reply ∈ log) : metadata = .macaroon macaroon := by
  have along := (satisfies_reaches (start_credentials ldk handler given) run).1
  obtain ⟨link, demanded⟩ := Monitor.along_mem _ along _ connected
  cases link with
  | fresh => exact demanded
  | refused => exact demanded.elim
  | granted => exact demanded.elim

theorem pays_of_feeLimits {request : Request} {fixed percent : Option UInt32}
    (limits : request.feeLimits = some (fixed, percent)) : request.pays = true := by
  cases request <;> first | rfl | cases limits

theorem Spells.call_isSome {parts : ClientParts} {metadata : Metadata} {command : Commands}
    {rpc : Rpc} (spells : Spells parts metadata command rpc)
    (pays : command.fees.isSome = true) : rpc.call.isSome = true := by
  cases spells <;> first | rfl | cases pays

theorem LastRequest.asked {parts : ClientParts} (rules : TextRules parts)
    (bounded : RejectsTooMuch parts.ldk) {args : Cli} {trace : List (Event CliSig)}
    {exit : ExitCode} {rpc : Rpc} {result : Except Status String}
    (last : LastRequest parts args trace exit rpc result) {handler : OfferHandler}
    {labels : List LndkLabel} {pool : LndkPool}
    (run : Run (lndk parts.ldk handler) .new anyStep labels pool) {i : Nat} {task : LndkTask}
    (answers : Answers pool rpc result i task) :
    AskedAsTyped parts.ldk args trace result task.log := by
  obtain ⟨found, served, answered⟩ := answers
  obtain ⟨macaroon, metadata, obtained, wire, spells⟩ := last.typed
  have reached := run.task_reaches found
  have tells : StatusTells task.request result task.log := by
    rw [answered] at reached
    exact start_statusTells reached
  have pays := spells.pays_eq served
  refine ⟨?_, ?_, ?_, tells.unpaid, ?_⟩
  · intro hex reply connected
    have same := start_connects (spells.metadata_eq served) reached connected
    rw [same] at wire
    rw [rules.metadata _ _ wire]
    exact obtained
  · intro routes reply queried
    have limits := spells.feeLimits_eq served
    cases given : args.command.fees with
    | none =>
        rw [given] at pays
        cases tells.fetches pays _ queried
    | some fees =>
        rw [given] at limits
        have kept : routes.feeLimit = createFeeLimit fees.feeLimit fees.feeLimitPercent :=
          within_reaches (start_limited parts.ldk handler limits) reached _ queried
        obtain ⟨amount, _, path, node, limit, valid, _, _, _, rfl⟩ := start_queriedFor parts.ldk
          bounded handler (pays_of_feeLimits limits) reached queried
        refine ⟨fees, amount, rfl, ?_, spells.typedAmount rules served valid, rfl⟩
        rw [kept]
        exact feesKept_createFeeLimit fees
  · intro success paying
    cases result with
    | ok preimage =>
        obtain ⟨payment, succeeded, _⟩ := tells.paid (pays.trans paying) preimage rfl
        exact ⟨payment, succeeded⟩
    | error status => cases success
  · intro free
    rw [free] at pays
    exact tells.fetches pays

/-- In every finished run of the client, and every run of the server that its response comes from:
the client sends at most one request, with the fields of the command line; LND is asked with the
macaroon, the amount and the limit on fees of the command line; and a command that pays ends with
0 only if it was sent, was answered and has paid. -/
theorem commands_servedAsTyped (parts : ClientParts) (rules : TextRules parts)
    (bounded : RejectsTooMuch parts.ldk) (args : Cli) (trace : List (Event CliSig))
    (exit : ExitCode) (client : Reaches (main parts args) trace (.ret exit))
    (handler : OfferHandler) (labels : List LndkLabel) (pool : LndkPool)
    (run : Run (lndk parts.ldk handler) .new anyStep labels pool) (genuine : Genuine trace pool) :
    ServedAsTyped parts args trace exit pool where
  sent := (main_concluded client).imp_left And.left
  answered := by
    rintro rfl remote
    exact main_success client remote
  asked := by
    intro rpc result i task sent answers
    exact (main_sent client sent).asked rules bounded run answers
  paid := by
    rintro rfl pays
    obtain ⟨rpc, text, last⟩ := main_success client (Commands.remote_of_fees pays)
    obtain ⟨_, _, _, _, spells⟩ := last.typed
    obtain ⟨i, task, answers⟩ := genuine rpc text last.sent (spells.call_isSome pays)
    obtain ⟨payment, succeeded⟩ := (last.asked rules bounded run answers).paid rfl pays
    exact ⟨rpc, text, i, task, payment, last, answers, succeeded⟩

def sampleParts : ClientParts where
  ldk := cappedLibrary
  offerToString _ := "lno"
  metadata text := .ok (.macaroon text)
  debugOffer _ := ""
  debugInvoice _ := ""
  debugGetInvoice text := text
  debugCreateOffer text := text

theorem sampleParts_rules : TextRules sampleParts where
  offer _ _ decoded := decoded
  metadata := by
    rintro text hex ⟨⟩
    rfl

def sampleArgs : Cli where
  network := "regtest"
  macaroonPath := none
  macaroonHex := some ""
  certPem := some "pem"
  certPath := none
  grpcHost := "https://127.0.0.1"
  grpcPort := 7000
  command := .payInvoice "" (some 1000) ⟨none, some 1, .inl rfl⟩

def sampleRpc : PayInvoiceRequest := ⟨.macaroon "", "", some 1000, none, some 1⟩

def sampleTrace : List (Event CliSig) :=
  [.call (.connectChannel "https://127.0.0.1:7000" ⟨"pem", "localhost"⟩) (.ok ()),
    .call (.rpc (.payInvoice sampleRpc)) (.ok "00"),
    .call (.println "Successfully paid for offer!") ()]

def sampleSchedule : List (Choice Sig Request) := .spawn (.payInvoiceRpc sampleRpc) :: goOn 0 7

theorem commands_servedAsTyped_paid :
    let reached := schedule (lndk cappedLibrary sampleHandler) sampleSchedule ([], ⟨.new, []⟩)
    ∃ (task : LndkTask) (payment : Payment),
      Reaches (main sampleParts sampleArgs) sampleTrace (.ret .success) ∧
      Run (lndk cappedLibrary sampleHandler) .new anyStep reached.1 reached.2 ∧
      Answers reached.2 (.payInvoice sampleRpc) (.ok "00") 0 task ∧
      AskedAsTyped cappedLibrary sampleArgs sampleTrace (.ok "00") task.log ∧
      Succeeded task.log payment := by
  intro reached
  have client : Reaches (main sampleParts sampleArgs) sampleTrace (.ret .success) :=
    .call _ (.call _ (.call _ (.refl _)))
  have run : Run (lndk cappedLibrary sampleHandler) .new anyStep reached.1 reached.2 :=
    schedule_run sampleSchedule .start
      (permitted_anyStep (M := lndk cappedLibrary sampleHandler) _ ([], ⟨.new, []⟩))
  obtain ⟨task, answers⟩ : ∃ task,
      Answers reached.2 (.payInvoice sampleRpc) (.ok "00") 0 task := ⟨_, rfl, rfl, rfl⟩
  have genuine : Genuine sampleTrace reached.2 := by
    intro rpc text sent _
    have same : rpc = .payInvoice sampleRpc ∧ text = "00" := by
      simpa [sampleTrace] using sent
    obtain ⟨rfl, rfl⟩ := same
    exact ⟨0, task, answers⟩
  have typed := commands_servedAsTyped sampleParts sampleParts_rules cappedLibrary_rejectsTooMuch
    sampleArgs sampleTrace .success client sampleHandler _ _ run genuine
  have asked := typed.asked _ _ 0 task (.tail _ (.head _)) answers
  obtain ⟨payment, succeeded⟩ := asked.paid rfl rfl
  exact ⟨task, payment, client, run, answers, asked, succeeded⟩

end LndkFormal.Client
