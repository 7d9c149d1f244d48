import LndkFormal.Async.Recording
import LndkFormal.Messenger.NodeIds
import LndkFormal.Messenger.Router
import LndkFormal.System.Asking
import LndkFormal.System.Exchange

/-!
# Where invoice requests go

Before an invoice request is queued, its call has made sure that LND is connected to the
first node of the destination.  The router then sends it there without asking LND again,
as long as the node stays connected.  Offers that begin at a channel get no request at all.
-/

set_option autoImplicit false

namespace LndkFormal.Ldk

def MessageSendInstructions.destination : MessageSendInstructions → Destination
  | .withSpecifiedReplyPath destination _ => destination
  | .forReply instructions => .blindedPath instructions.responder.replyPath

end LndkFormal.Ldk

namespace LndkFormal.System

open LndkFormal.Async
open LndkFormal.Ldk
open LndkFormal.Lnd
open LndkFormal.Messenger
open LndkFormal.Offers
open LndkFormal.Server

section Monitor

variable (ldk : Library)

/-- LND lists the node among its peers, or has just connected to it. -/
def Attains (node : PublicKey) : Event Sig → Prop
  | .call .listPeers (.ok peers) =>
      (peers.any fun peer => peer.pubKey == ldk.publicKeyToString node) = true
  | .call (.connectPeer pubkey _) (.ok ()) => pubkey = ldk.publicKeyToString node
  | _ => False

/-- LND names the end of a channel by a text that LDK reads as a binary key. -/
def Misspelled : Event Sig → Prop
  | .call (.getChanInfo _) (.ok info) => ∃ direction,
      (ldk.publicKeyFromSlice (endpoint info direction).toUTF8.toList).isSome = true
  | _ => False

def Attainable (past : List (Event Sig)) (destination : Destination) : Prop :=
  (∃ event ∈ past, Misspelled ldk event) ∨
    ∃ node, getFirstNode destination = some node ∧ ∃ event ∈ past, Attains ldk node event

theorem Attainable.append {ldk : Library} {past : List (Event Sig)} {destination : Destination}
    (attainable : Attainable ldk past destination) (event : Event Sig) :
    Attainable ldk (past ++ [event]) destination := by
  rcases attainable with ⟨told, here, misspelled⟩ | ⟨node, first, told, here, attains⟩
  · exact .inl ⟨told, List.mem_append_left _ here, misspelled⟩
  · exact .inr ⟨node, first, told, List.mem_append_left _ here, attains⟩

/-- An invoice request is queued only once its destination is attained. -/
def Reaching (past : List (Event Sig)) : Event Sig → Prop
  | .access (.pushMessage (.invoiceRequest _, instructions)) _ =>
      Attainable ldk past instructions.destination
  | _ => True

def reaching : Monitor Sig (List (Event Sig)) := .recording (Reaching ldk)

end Monitor

/-! ## The programs -/

section Programs

variable (ldk : Library) (handler : OfferHandler)

theorem reaching_of_unqueued {past : List (Event Sig)} {event : Event Sig}
    (unqueued : Unqueued event) : Reaching ldk past event := by
  cases event with
  | access op reply => cases op <;> first | exact unqueued.elim | trivial
  | call request reply => trivial

theorem unqueued_reaching {α : Type} {p : Prog Sig α} (unqueued : p.Within Unqueued)
    (past : List (Event Sig)) :
    p.Satisfies (reaching ldk) (fun _ _ => True) past :=
  (unqueued.keeps (I := fun _ => True) trivial
    (fun _ _ _ unqueued => ⟨reaching_of_unqueued ldk unqueued, trivial⟩) fun _ _ => trivial)

theorem unqueued_attainable {α : Type} {p : Prog Sig α} (unqueued : p.Within Unqueued)
    {past : List (Event Sig)} {destination : Destination}
    (attainable : Attainable ldk past destination) :
    p.Satisfies (reaching ldk) (fun _ final => Attainable ldk final destination) past :=
  unqueued.keeps attainable
    (fun _ event sofar unqueued => ⟨reaching_of_unqueued ldk unqueued, sofar.append event⟩)
    fun _ _ => trivial

theorem connectToPeer_attains (node : PublicKey) (past : List (Event Sig)) :
    (connectToPeer ldk node).Satisfies (reaching ldk)
      (fun result final => result = .ok () → ∃ event ∈ final, Attains ldk node event) past := by
  refine Prog.satisfies_request_bind.mpr fun peers => ⟨trivial, ?_⟩
  rcases peers with e | peers
  · intro impossible
    cases impossible
  · change Prog.Satisfies _ _ _ (ite _ _ _)
    split
    next listed => exact fun _ => ⟨_, List.mem_append_right _ (.head _), listed⟩
    next =>
      refine Prog.satisfies_request_bind.mpr fun info => ⟨trivial, ?_⟩
      rcases info with e | info
      · intro impossible
        cases impossible
      · dsimp only
        split
        · intro impossible
          cases impossible
        · intro impossible
          cases impossible
        · refine Prog.satisfies_request_bind.mpr fun connected => ⟨trivial, ?_⟩
          rcases connected with e | connected
          · intro impossible
            cases impossible
          · exact fun _ => ⟨_, List.mem_append_right _ (.head _), rfl⟩

theorem unqueued_of_aside (event : Event Sig) (aside : Aside event) : Unqueued event := by
  cases event with
  | access op reply => cases op <;> first | exact aside.elim | trivial
  | call request reply => trivial

theorem unqueued_of_drawing (event : Event Sig) (drawing : Drawing event) : Unqueued event := by
  cases event with
  | access op reply => exact drawing.elim
  | call request reply => trivial

theorem getNodeId_misspelled (scid : UInt64) (direction : Direction)
    (past : List (Event Sig)) :
    (getNodeId ldk scid direction).Satisfies (reaching ldk)
      (fun result final => ∀ key, result = .ok key →
        ∃ event ∈ final, Misspelled ldk event) past := by
  have told : (getNodeIdFromScid scid direction).Satisfies (reaching ldk)
      (fun result final => ∀ text, result = .ok text →
        (ldk.publicKeyFromSlice text.toUTF8.toList).isSome = true →
          ∃ event ∈ final, Misspelled ldk event) past := by
    refine Prog.satisfies_request_bind.mpr fun info => ⟨trivial, ?_⟩
    rcases info with e | info
    · intro _ impossible
      cases impossible
    · cases direction with
      | nodeOne =>
          rintro _ ⟨⟩ parsed
          exact ⟨_, List.mem_append_right _ (.head _), .nodeOne, parsed⟩
      | nodeTwo =>
          rintro _ ⟨⟩ parsed
          exact ⟨_, List.mem_append_right _ (.head _), .nodeTwo, parsed⟩
  refine told.andThen (fun _ _ _ _ impossible => by cases impossible) ?_
  intro text final spelled
  split
  next key parsed =>
    intro _ _
    exact spelled text rfl (by rw [parsed]; rfl)
  next =>
    intro _ impossible
    cases impossible

theorem connectToDestination_attains (destination : Destination) (past : List (Event Sig)) :
    (connectToDestination ldk destination).Satisfies (reaching ldk)
      (fun result final => result = .ok () → Attainable ldk final destination) past := by
  cases destination with
  | node pubkey =>
      refine (connectToPeer_attains ldk pubkey past).mono fun _ _ attains connected => ?_
      exact .inr ⟨pubkey, rfl, attains connected⟩
  | blindedPath path =>
      unfold connectToDestination
      dsimp only
      split
      next pubkey given =>
        refine (connectToPeer_attains ldk pubkey past).mono fun _ _ attains connected => ?_
        exact .inr ⟨pubkey, by simp [getFirstNode, given], attains connected⟩
      next direction scid given =>
        refine (getNodeId_misspelled ldk scid direction past).andThen
          (fun _ _ _ impossible => by cases impossible) ?_
        intro pubkey final misspelled
        have before : Attainable ldk final (.blindedPath path) := .inl (misspelled pubkey rfl)
        have connects := (connectToPeer_only ldk pubkey).within.mono fun event lookup =>
          unqueued_of_aside event (aside_of_outreach event (outreach_of_lookup event lookup))
        exact (unqueued_attainable ldk connects before).mono fun _ _ attainable _ => attainable

theorem sendInvoiceRequest_attains (destination : Destination) (request : InvoiceRequest)
    (context : OffersContext) (past : List (Event Sig)) :
    (sendInvoiceRequest ldk destination request context).Satisfies (reaching ldk)
      (fun result final => ∀ message, result = .ok message →
        message.1 = .invoiceRequest request ∧
          Attainable ldk final message.2.destination) past := by
  refine (connectToDestination_attains ldk destination past).andThen
    (fun _ _ _ _ impossible => by cases impossible) ?_
  intro _ final connected
  have attainable := connected rfl
  refine Prog.satisfies_request_bind.mpr fun info => ⟨trivial, ?_⟩
  have attainable := attainable.append (.call .getInfo info)
  rcases info with e | info
  · trivial
  · dsimp only
    split
    · trivial
    · rename_i pubkey _
      have replied := (createReplyPath_within ldk pubkey context).mono fun event outreach =>
        unqueued_of_aside event (aside_of_outreach event outreach)
      refine (unqueued_attainable ldk replied attainable).andThen
        (fun _ _ _ _ impossible => by cases impossible) ?_
      intro replyPath final attainable
      have resolved := (replyPathIntroNode_only ldk replyPath).within.mono fun event lookup =>
        unqueued_of_aside event (aside_of_outreach event
          (outreach_of_lookup event (lookup_of_channelLookup event lookup)))
      refine (unqueued_attainable ldk resolved attainable).andThen
        (fun _ _ _ _ impossible => by cases impossible) ?_
      rintro _ final attainable _ ⟨⟩
      exact ⟨rfl, attainable⟩

theorem getInvoice_reaching (cfg : PayOfferParams) (past : List (Event Sig)) :
    (getInvoice ldk handler cfg).Satisfies (reaching ldk) (fun _ _ => True) past := by
  have created := (createInvoiceRequest_within ldk handler cfg).mono unqueued_of_drawing
  refine getInvoice_satisfies (unqueued_reaching ldk created past) (fun _ _ _ => trivial) ?_ ?_
  · exact fun _ _ _ _ _ _ => ⟨trivial, trivial⟩
  · intro request id amount context final _
    refine ⟨trivial, fetchInvoice_satisfies (W := fun _ => True)
      (sendInvoiceRequest_attains ldk cfg.destination request context _) ?_ ?_ ⟨?_, ?_⟩⟩
    · exact fun _ _ _ => ⟨trivial, trivial⟩
    · intro (contents, instructions) final handed
      obtain ⟨rfl, attainable⟩ := handed _ rfl
      exact ⟨attainable, trivial⟩
    · exact fun _ _ _ => ⟨trivial, trivial, trivial⟩
    · exact fun _ _ => ⟨trivial, ⟨trivial, trivial⟩, ⟨trivial, trivial, trivial⟩, trivial, trivial,
        trivial⟩

theorem start_reaching {request : Request} (fetches : request.fetches = true) :
    (start ldk handler request).Satisfies (reaching ldk) (fun _ _ => True) [] := by
  refine start_satisfies fetches (I := fun _ => True) (Q := fun _ _ => True) ?_
    (fun _ _ => trivial) ?_ ?_ ?_ trivial
  · intro past event _ greeting
    exact ⟨reaching_of_unqueued ldk (unqueued_of_greeting event greeting), trivial⟩
  · exact fun cfg past _ => getInvoice_reaching ldk handler cfg past
  · intro invoice amount id feeLimit past _
    exact unqueued_reaching ldk (payInvoice_unqueued ldk amount invoice id feeLimit) past
  · exact fun _ _ _ _ _ => trivial

end Programs

section Queued

variable {ldk : Library} {handler : OfferHandler}

/-- LND spells the ends of channels in hex, which LDK does not read as binary keys. -/
theorem KeyRules.not_misspelled (rules : KeyRules ldk) {event : Event Sig}
    (spelled : ∀ scid info, event = .call (.getChanInfo scid) (.ok info) →
      ∃ first second, Between info first second) : ¬ Misspelled ldk event := by
  intro misspelled
  unfold Misspelled at misspelled
  split at misspelled
  next scid info =>
    obtain ⟨first, second, between⟩ := spelled scid info rfl
    obtain ⟨direction, parsed⟩ := misspelled
    rw [rules.fromSlice_endpoint between direction] at parsed
    cases parsed
  next => exact misspelled

end Queued

/-- An invoice request is queued only after LND has listed the first node of its destination as
a peer or has connected to it, so never for a destination that begins at a channel, and the
router sends it to that node. -/
theorem requests_routable (ldk : Library) (rules : KeyRules ldk) (handler : OfferHandler)
    (init : OfferState) (guard : LndkGuard) (labels : List LndkLabel) (pool : LndkPool)
    (run : Run (lndk ldk handler) init guard labels pool) (i : Nat) (task : LndkTask)
    (found : pool.tasks[i]? = some task) (asked : InvoiceRequest)
    (instructions : MessageSendInstructions) (pre post : List (Event Sig))
    (queued : task.log =
      pre ++ .access (.pushMessage (.invoiceRequest asked, instructions)) () :: post)
    (spelled : ∀ scid info, .call (.getChanInfo scid) (.ok info) ∈ pre →
      ∃ first second, Between info first second) :
    ∃ node, getFirstNode instructions.destination = some node ∧
      (∃ event ∈ pre, Attains ldk node event) ∧
      ∀ parseAddress sender peers trace result,
        Reaches (findPath ldk parseAddress sender peers instructions.destination) trace
          (.ret result) →
        FoundPath ldk parseAddress sender peers instructions.destination node trace result := by
  have reached := run.task_reaches found
  rw [queued] at reached
  have fetches := fetches_of_queued reached (List.mem_append_right _ (.head _))
  have attainable : Attainable ldk pre instructions.destination :=
    recorded_event (start_reaching ldk handler fetches) reached
  rcases attainable with ⟨event, member, misspelled⟩ | ⟨node, first, attained⟩
  · refine absurd misspelled (KeyRules.not_misspelled rules ?_)
    rintro scid info rfl
    exact spelled scid info member
  · exact ⟨node, first, attained, fun _ _ _ _ _ path => findPath_found first path⟩

def neighbour : (request : Call) → request.Reply
  | .getInfo => .ok ⟨hexEncode (PublicKey.repeated 3).bytes, [⟨"bitcoin", "regtest"⟩]⟩
  | .listPeers => .ok [⟨hexEncode (PublicKey.repeated 2).bytes, []⟩]
  | request => willing request

def neighbourSchedule : List (Choice Sig Request) :=
  .spawn (.payOffer samplePayment) :: List.replicate 8 (.act 0 neighbour)

def asksChannel : Event Sig → Bool
  | .call (.getChanInfo _) _ => true
  | _ => false

theorem requests_routable_neighbour :
    ∃ (labels : List LndkLabel) (pool : LndkPool) (task : LndkTask) (asked : InvoiceRequest)
      (instructions : MessageSendInstructions) (pre post : List (Event Sig)),
      Run (lndk hexLibrary sampleHandler) .new anyStep labels pool ∧
      pool.tasks[0]? = some task ∧
      task.log =
        pre ++ .access (.pushMessage (.invoiceRequest asked, instructions)) () :: post ∧
      ∃ node, getFirstNode instructions.destination = some node ∧
        ∃ event ∈ pre, Attains hexLibrary node event := by
  have run := schedule_run neighbourSchedule .start
    (permitted_anyStep (M := lndk hexLibrary sampleHandler) _ ([], ⟨.new, []⟩))
  obtain ⟨task, asked, instructions, found, queued, others⟩ :
      ∃ (task : LndkTask) (asked : InvoiceRequest) (instructions : MessageSendInstructions),
        (schedule (lndk hexLibrary sampleHandler) neighbourSchedule
          ([], ⟨.new, []⟩)).2.tasks[0]? = some task ∧
        task.log = task.log.take 7 ++
          [.access (.pushMessage (.invoiceRequest asked, instructions)) ()] ∧
        (task.log.take 7).all (fun event => !asksChannel event) = true :=
    ⟨_, _, _, rfl, rfl, rfl⟩
  have spelled : ∀ scid info, .call (.getChanInfo scid) (.ok info) ∈ task.log.take 7 →
      ∃ first second, Between info first second := by
    intro scid info member
    cases List.all_eq_true.mp others _ member
  obtain ⟨node, first, attained, _⟩ := requests_routable hexLibrary hexLibrary_keyRules
    sampleHandler _ _ _ _ run 0 task found asked instructions _ [] queued spelled
  exact ⟨_, _, task, asked, instructions, _, [], run, found, queued, node, first, attained⟩

end LndkFormal.System
