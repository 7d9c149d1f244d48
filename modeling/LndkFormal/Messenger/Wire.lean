import LndkFormal.Async.Implement
import LndkFormal.Messenger.Relay
import LndkFormal.Messenger.Retry

/-!
# The consumer on the wire

`consume_messenger_events` is written against two interfaces: a client that sends
custom messages and a handler of LDK's events.  Here `CustomMessenger` and
`LndkEventHandler` take their places.  One request of the consumer becomes up to
three calls of LND with pauses between them, and one poll of LDK becomes a task for
every connection that LDK asks for.
-/

set_option autoImplicit false

namespace LndkFormal.Messenger

open LndkFormal.Async
open LndkFormal.Ldk
open LndkFormal.Lnd
open LndkFormal.RateLimit

inductive LdkEvent where
  | connectionNeeded (nodeId : PublicKey) (addresses : List String)
  | onionMessageIntercepted
  | onionMessagePeerConnected
  | other
  deriving DecidableEq

inductive WireAccess where
  | take (event : MessengerEvent)
  /-- `tokio::spawn` of `connect_to_peer_with_retry`. -/
  | spawn (nodeId : PublicKey)

inductive WireCall where
  /-- A call as the consumer makes it, except for `sendCustomMessage` and
  `processPendingEvents`. -/
  | relay (call : RelayCall)
  /-- One call of LND's `SendCustomMessage`. -/
  | send (request : SendCustomMessageRequest)
  | sleep (millis : Nat)
  /-- The events that the onion messenger has for its handler. -/
  | pendingEvents

abbrev WireCall.Reply : WireCall → Type
  | .relay call => call.Reply
  | .send _ => Except Status Unit
  | .sleep _ => Unit
  | .pendingEvents => List LdkEvent

abbrev WireSig : Signature where
  Access := WireAccess
  AccessReply _ := Unit
  Call := WireCall
  CallReply := WireCall.Reply

abbrev wire (call : WireCall) : Prog WireSig call.Reply := @Prog.request WireSig call

section Retryable

variable {sig : Signature} {Req R : Type} (f : Req → Prog sig (Except Status R))
  (sleep : Nat → Prog sig Unit)

def attemptProg (req : Req) (maxRetryAttempts attempt : UInt8) : Prog sig (Except Status R) :=
  f req >>= fun
    | .ok response => .ret (.ok response)
    | .error e =>
        if isRetryableError e then
          if _full : attempt = 255 then .panic "attempt to add with overflow"
          else if maxRetryAttempts ≤ attempt + 1 then .ret (.error e)
          else sleep RETRY_DELAY >>= fun _ => attemptProg req maxRetryAttempts (attempt + 1)
        else .ret (.error e)
termination_by 255 - attempt.toNat
decreasing_by
  have bound := attempt.toNat_lt
  have grown := toNat_succ_of_ne _full
  have notLast : attempt.toNat ≠ 255 := fun last => _full (UInt8.toNat_inj.mp last)
  omega

def withMaxAttemptsProg (req : Req) (maxAttempts : Option UInt8) : Prog sig (Except Status R) :=
  attemptProg f sleep req (maxAttempts.getD MAX_RETRY_ATTEMPTS) 0

end Retryable

/-- `CustomMessenger::send_custom_message`. -/
def sendCustomMessage (request : SendCustomMessageRequest) : Prog WireSig (Except Status Unit) :=
  withMaxAttemptsProg (fun request => wire (.send request)) (fun millis => wire (.sleep millis))
    request (some 3)

/-- `LndkEventHandler::handle_event`. -/
def handleLdkEvent : LdkEvent → Prog WireSig Unit
  | .connectionNeeded nodeId _ => @Prog.enter WireSig (.spawn nodeId)
  | .onionMessageIntercepted | .onionMessagePeerConnected | .other => .ret ()

/-- `process_pending_events` hands LDK's events to the handler one by one. -/
def handleLdkEvents : List LdkEvent → Prog WireSig Unit
  | [] => .ret ()
  | event :: rest => do
      handleLdkEvent event
      handleLdkEvents rest

/-- Who carries out the consumer's calls in `run_onion_messenger`. -/
def carriedOut : Implementation RelaySig WireSig where
  access event := @Prog.enter WireSig (.take event)
  call
    | .sendCustomMessage request => sendCustomMessage request
    | .processPendingEvents => do
        let events ← wire .pendingEvents
        handleLdkEvents events
    | .peerConnected peer init => wire (.relay (.peerConnected peer init))
    | .peerDisconnected peer => wire (.relay (.peerDisconnected peer))
    | .handleOnionMessage peer message => wire (.relay (.handleOnionMessage peer message))
    | .iterate peers => wire (.relay (.iterate peers))
    | .nextOnionMessageForPeer peer => wire (.relay (.nextOnionMessageForPeer peer))

/-- `consume_messenger_events` as `run_onion_messenger` calls it. -/
def consumeOnWire {cfg : RateLimiterCfg} (parts : RelayParts) (network : Network)
    (limiter : TokenLimiter cfg) (events : List MessengerEvent) :
    Prog WireSig (Except ConsumerError Unit) :=
  (consumeMessengerEvents parts network limiter events).implement carriedOut

/-! ## The two models of the loop -/

section Scripts

abbrev sending (request : SendCustomMessageRequest) (outcome : Except Status Unit) :
    Event WireSig :=
  .call (.send request) outcome

def sentOutcome : Event WireSig → Option (Except Status Unit)
  | .call (.send _) outcome => some outcome
  | _ => none

def loopAct : Event WireSig → Option (Act SendCustomMessageRequest)
  | .call (.send request) _ => some (.call request)
  | .call (.sleep millis) _ => some (.sleep millis)
  | _ => none

def Begins (script : Nat → Except Status Unit) : List (Except Status Unit) → Prop
  | [] => True
  | outcome :: rest => script 0 = outcome ∧ Begins (fun n => script (n + 1)) rest

/-- The loop as a program and the loop over a script of LND's answers are the same loop. -/
theorem attemptProg_scripted {request : SendCustomMessageRequest} {most attempt : UInt8}
    {trace : List (Event WireSig)} {result : Except Status Unit}
    (run : Reaches (attemptProg (fun request => wire (.send request))
      (fun millis => wire (.sleep millis)) request most attempt) trace (.ret result))
    {script : Nat → Except Status Unit} (begins : Begins script (trace.filterMap sentOutcome)) :
    attemptLoop script request most attempt = (.returned result, trace.filterMap loopAct) := by
  induction left : 255 - attempt.toNat using Nat.strong_induction_on
    generalizing attempt trace script with
  | _ left ih =>
      rw [attemptProg] at run
      obtain ⟨outcome, later, rfl, rest⟩ := reaches_request_bind run
      have first : script 0 = outcome := begins.1
      cases now : settles outcome with
      | true =>
          rw [attemptLoop_settled request (by rw [first]; exact now), first]
          cases outcome with
          | ok response =>
              cases rest
              rfl
          | error e =>
              have final : isRetryableError e = false := by simpa [settles] using now
              simp only [final, Bool.false_eq_true, if_false] at rest
              cases rest
              rfl
      | false =>
          obtain ⟨e, rfl, retried⟩ := retries_of_not_settles now
          simp only [retried, if_true] at rest
          split at rest
          next => cases rest
          next free =>
            split at rest
            next last =>
              cases rest
              rw [attemptLoop_last request (by rw [first]; exact now) free last, first]
              rfl
            next more =>
              obtain ⟨slept, after, rfl, onward⟩ := reaches_request_bind rest
              have grown := toNat_succ_of_ne free
              have bound := attempt.toNat_lt
              have notLast : attempt.toNat ≠ 255 := fun last => free (UInt8.toNat_inj.mp last)
              have looped := ih _ (by omega) onward begins.2 rfl
              rw [attemptLoop_again request (by rw [first]; exact now) free more, looped]
              rfl

end Scripts

/-- What is to be done about the message that was handed out last. -/
inductive Line where
  | idle
  /-- The request is to be sent; it has failed `failures` times. -/
  | due (request : SendCustomMessageRequest) (failures : Nat)
  /-- A pause is to be made before the request is sent again. -/
  | resting (request : SendCustomMessageRequest) (failures : Nat)

/-- The calls of LND that one request may take. -/
def MAX_SENDS : Nat := 3

def Line.answered (request : SendCustomMessageRequest) (failures : Nat)
    (outcome : Except Status Unit) : Line :=
  if settles outcome = false ∧ failures + 1 < MAX_SENDS then .resting request (failures + 1)
  else .idle

section Monitor

variable (encode : OnionMessage → List UInt8)

/-- A message that was handed out is sent before anything else happens; it is sent again only
after a failure that is worth it and a pause, and three times at most. -/
def wireMonitor : Monitor WireSig Line where
  demand line
    | .call (.send request) _ => ∃ failures < MAX_SENDS, line = .due request failures
    | .call (.sleep millis) _ =>
        millis = RETRY_DELAY ∧ ∃ request failures, line = .resting request failures
    | _ => line = .idle
  next line
    | .call (.relay (.nextOnionMessageForPeer peer)) reply =>
        match reply with
        | some message => .due (relayRequest encode peer message) 0
        | none => .idle
    | .call (.send request) outcome =>
        match line with
        | .due _ failures => Line.answered request failures outcome
        | other => other
    | .call (.sleep _) _ =>
        match line with
        | .resting request failures => .due request failures
        | other => other
    | _ => line
  panicOk _ := False

def Desk.line (desk : Desk) : Line :=
  match desk.dueRequest encode with
  | some request => .due request 0
  | none => .idle

variable {encode}

theorem Desk.line_settled {desk : Desk} (settled : desk.due = none) :
    desk.line encode = .idle := by
  rw [Desk.line, dueRequest_settled settled]

/-- The loop ends with the line idle.  The counter stands at the number of failures. -/
theorem attemptProg_satisfies (request : SendCustomMessageRequest) {failures : Nat}
    {attempt : UInt8} (counted : attempt.toNat = failures) (some_left : failures < MAX_SENDS) :
    (attemptProg (fun request => wire (.send request)) (fun millis => wire (.sleep millis))
      request 3 attempt).Satisfies (wireMonitor encode) (fun _ line => line = .idle)
      (.due request failures) := by
  unfold MAX_SENDS at some_left
  induction left : 3 - failures generalizing failures attempt with
  | zero => omega
  | succ left ih =>
      have free : attempt ≠ 255 := by
        rintro rfl
        have value : (255 : UInt8).toNat = 255 := rfl
        omega
      have grown := toNat_succ_of_ne free
      rw [attemptProg]
      refine Prog.satisfies_request_bind.mpr fun outcome =>
        ⟨⟨failures, some_left, rfl⟩, ?_⟩
      have next : (wireMonitor encode).next (.due request failures)
          (.call (.send request) outcome) = Line.answered request failures outcome := rfl
      rw [next]
      cases outcome with
      | ok response => exact if_neg (fun again => by cases again.1)
      | error e =>
          cases retried : isRetryableError e with
          | false =>
              simp only [retried, Bool.false_eq_true, if_false, Prog.satisfies_ret]
              exact if_neg (fun again => by simp [settles, retried] at again)
          | true =>
              simp only [retried, if_true, dif_neg free]
              by_cases last : (3 : UInt8) ≤ attempt + 1
              · rw [if_pos last]
                refine if_neg (fun again => ?_)
                have reached := UInt8.le_iff_toNat_le.mp last
                have three : (3 : UInt8).toNat = 3 := rfl
                have more : failures + 1 < 3 := again.2
                omega
              · rw [if_neg last]
                have below := UInt8.lt_iff_toNat_lt.mp (UInt8.not_le.mp last)
                have three : (3 : UInt8).toNat = 3 := rfl
                have more : failures + 1 < 3 := by omega
                have rests : Line.answered request failures (.error e) =
                    .resting request (failures + 1) :=
                  if_pos ⟨by simp [settles, retried], more⟩
                rw [rests]
                refine Prog.satisfies_request_bind.mpr fun _ =>
                  ⟨⟨rfl, request, failures + 1, rfl⟩, ?_⟩
                exact ih (by omega) more (by omega)

theorem handleLdkEvents_satisfies (events : List LdkEvent) :
    (handleLdkEvents events).Satisfies (wireMonitor encode) (fun _ line => line = .idle)
      .idle := by
  induction events with
  | nil => exact rfl
  | cons event rest ih =>
      cases event with
      | connectionNeeded nodeId addresses => exact fun _ => ⟨rfl, ih⟩
      | onionMessageIntercepted | onionMessagePeerConnected | other => exact ih

/-- Each call of the consumer is carried out as the line prescribes. -/
theorem carriedOut_simulates :
    Prog.Simulates carriedOut (relayMonitor encode) (wireMonitor encode)
      (fun desk line => line = desk.line encode) where
  access := by
    rintro desk line event rfl allowed
    have settled : desk.due = none := allowed ()
    have kept : (desk.take event).due = none := (due_take desk event).trans settled
    refine fun _ => ⟨Desk.line_settled settled, ?_⟩
    exact (Desk.line_settled settled).trans (Desk.line_settled kept).symm
  call := by
    rintro desk line call rfl allowed
    cases call with
    | sendCustomMessage request =>
        have due : desk.dueRequest encode = some request := allowed (.ok ())
        have line : desk.line encode = .due request 0 := by rw [Desk.line, due]
        rw [line]
        refine Prog.Satisfies.mono (attemptProg_satisfies request rfl (by decide)) ?_
        rintro outcome line rfl
        exact (Desk.line_settled rfl).symm
    | processPendingEvents =>
        have settled : desk.due = none := allowed ()
        rw [Desk.line_settled settled]
        refine Prog.satisfies_request_bind.mpr fun events => ⟨rfl, ?_⟩
        refine Prog.Satisfies.mono (handleLdkEvents_satisfies events) ?_
        rintro _ line rfl
        exact (Desk.line_settled settled).symm
    | nextOnionMessageForPeer peer =>
        have settled : desk.due = none := (allowed none).1
        rw [Desk.line_settled settled]
        intro reply
        refine ⟨rfl, ?_⟩
        cases reply with
        | none => exact (Desk.line_settled rfl).symm
        | some message => rfl
    | peerConnected peer init =>
        have settled : desk.due = none := allowed (.ok ())
        rw [Desk.line_settled settled]
        exact fun _ => ⟨rfl, (Desk.line_settled settled).symm⟩
    | iterate peers =>
        have settled : desk.due = none := allowed ⟨peers, .refl peers⟩
        rw [Desk.line_settled settled]
        exact fun _ => ⟨rfl, (Desk.line_settled settled).symm⟩
    | peerDisconnected peer =>
        have settled : desk.due = none := allowed ()
        rw [Desk.line_settled settled]
        exact fun _ => ⟨rfl, (Desk.line_settled settled).symm⟩
    | handleOnionMessage peer message =>
        have settled : desk.due = none := allowed ()
        rw [Desk.line_settled settled]
        exact fun _ => ⟨rfl, (Desk.line_settled settled).symm⟩
  panics := fun _ never => never

end Monitor

/-! ## What LND sees -/

section Traces

def sentRequest : Event WireSig → Option SendCustomMessageRequest
  | .call (.send request) _ => some request
  | _ => none

def handedRequest (encode : OnionMessage → List UInt8) :
    Event WireSig → Option SendCustomMessageRequest
  | .call (.relay (.nextOnionMessageForPeer peer)) (some message) =>
      some (relayRequest encode peer message)
  | _ => none

/-- The requests were sent in their order, each some times in a row, one to three. -/
def SentOut (requests sends : List SendCustomMessageRequest) : Prop :=
  ∃ counts : List Nat, counts.length = requests.length ∧
    (∀ count ∈ counts, 1 ≤ count ∧ count ≤ MAX_SENDS) ∧
    sends = (List.zipWith List.replicate counts requests).flatten

theorem SentOut.add {requests sends : List SendCustomMessageRequest}
    (sentOut : SentOut requests sends) (request : SendCustomMessageRequest) {count : Nat}
    (some_ : 1 ≤ count) (few : count ≤ MAX_SENDS) :
    SentOut (requests ++ [request]) (sends ++ List.replicate count request) := by
  obtain ⟨counts, same, bounds, rfl⟩ := sentOut
  refine ⟨counts ++ [count], by simp [same], ?_, ?_⟩
  · intro other member
    rcases List.mem_append.mp member with earlier | last
    · exact bounds other earlier
    · rw [List.mem_singleton.mp last]
      exact ⟨some_, few⟩
  · rw [List.zipWith_append same, List.flatten_append]
    simp

variable (encode : OnionMessage → List UInt8)

/-- The last request has been sent `failures` times, those before it as they should. -/
def PartlySent (trace : List (Event WireSig)) (request : SendCustomMessageRequest)
    (failures : Nat) : Prop :=
  failures < MAX_SENDS ∧ ∃ earlier sends,
    trace.filterMap (handedRequest encode) = earlier ++ [request] ∧
      trace.filterMap sentRequest = sends ++ List.replicate failures request ∧
      SentOut earlier sends

def Line.Tells (trace : List (Event WireSig)) : Line → Prop
  | .idle => SentOut (trace.filterMap (handedRequest encode)) (trace.filterMap sentRequest)
  | .due request failures | .resting request failures =>
      PartlySent encode trace request failures

variable {encode}

theorem Line.Tells.quiet {trace : List (Event WireSig)} {event : Event WireSig} {line : Line}
    (tells : line.Tells encode trace) (unsent : sentRequest event = none)
    (unhanded : handedRequest encode event = none) : line.Tells encode (trace ++ [event]) := by
  have same : (trace ++ [event]).filterMap (handedRequest encode) =
      trace.filterMap (handedRequest encode) := by
    simp [List.filterMap_append, unhanded]
  have silent : (trace ++ [event]).filterMap sentRequest = trace.filterMap sentRequest := by
    simp [List.filterMap_append, unsent]
  cases line with
  | idle => simpa only [Line.Tells, same, silent] using tells
  | due request failures =>
      simpa only [Line.Tells, PartlySent, same, silent] using tells
  | resting request failures =>
      simpa only [Line.Tells, PartlySent, same, silent] using tells

theorem PartlySent.again {trace : List (Event WireSig)} {request : SendCustomMessageRequest}
    {failures : Nat} (partly : PartlySent encode trace request failures)
    (outcome : Except Status Unit) :
    (Line.answered request failures outcome).Tells encode
      (trace ++ [sending request outcome]) := by
  obtain ⟨few, earlier, sends, handed, sent, before⟩ := partly
  have same : (trace ++ [sending request outcome]).filterMap (handedRequest encode) =
      earlier ++ [request] := by
    rw [List.filterMap_append, handed]
    exact List.append_nil _
  have more : (trace ++ [sending request outcome]).filterMap sentRequest =
      sends ++ List.replicate (failures + 1) request := by
    rw [List.filterMap_append, sent, List.replicate_succ', ← List.append_assoc]
    rfl
  unfold Line.answered
  split
  next again => exact ⟨again.2, earlier, sends, same, more, before⟩
  next =>
    rw [Line.Tells, same, more]
    exact before.add request (Nat.succ_pos _) few

theorem tells_kept {trace : List (Event WireSig)} {event : Event WireSig} {line : Line}
    (tells : line.Tells encode trace) (demanded : (wireMonitor encode).demand line event) :
    ((wireMonitor encode).next line event).Tells encode (trace ++ [event]) := by
  cases event with
  | access op reply => exact tells.quiet rfl rfl
  | call request reply =>
      cases request with
      | send request =>
          obtain ⟨failures, few, rfl⟩ := demanded
          exact PartlySent.again tells reply
      | sleep millis =>
          obtain ⟨-, request, failures, rfl⟩ := demanded
          have due : (Line.due request failures).Tells encode trace := tells
          exact due.quiet rfl rfl
      | pendingEvents => exact tells.quiet rfl rfl
      | relay call =>
          cases call with
          | nextOnionMessageForPeer peer =>
              have idle : line = .idle := demanded
              subst idle
              cases reply with
              | none =>
                  have free : Line.idle.Tells encode trace := tells
                  exact free.quiet rfl rfl
              | some message =>
                  refine ⟨by decide, _, _, List.filterMap_append .., ?_, tells⟩
                  rw [List.filterMap_append]
                  rfl
          | _ => exact tells.quiet rfl rfl

theorem along_tells {trace : List (Event WireSig)}
    (along : (wireMonitor encode).Along (wireMonitor encode).demand .idle trace) :
    ((wireMonitor encode).after .idle trace).Tells encode trace := by
  have untouched : Line.idle.Tells encode [] := ⟨[], rfl, nofun, rfl⟩
  refine (wireMonitor encode).along_invariant (I := fun line trace => line.Tells encode trace)
    untouched ?_ along
  intro line past event tells demanded
  exact tells_kept tells demanded

/-- What LND is sent in a run of the consumer that leaves `rest`. -/
structure WireDiscipline {α : Type} (encode : OnionMessage → List UInt8)
    (trace : List (Event WireSig)) (rest : Prog WireSig α) : Prop where
  follows : (wireMonitor encode).Along (wireMonitor encode).demand .idle trace
  /-- The messages that were handed out are sent in this order, each one to three times in a
  row; the last of them may be on its way. -/
  ordered : SentOut (trace.filterMap (handedRequest encode)) (trace.filterMap sentRequest) ∨
    ∃ request failures, PartlySent encode trace request failures
  /-- Nothing is left over at the end. -/
  complete : ∀ value, rest = .ret value →
    SentOut (trace.filterMap (handedRequest encode)) (trace.filterMap sentRequest)

end Traces

/-- With `CustomMessenger` and `LndkEventHandler` in their places, every run of the consumer
sends LND each message that the onion messenger hands out, in this order, one to three times
in a row, again only after a failure that is worth it and a pause. -/
theorem consumeOnWire_disciplined {cfg : RateLimiterCfg} {parts : RelayParts}
    {encode : OnionMessage → List UInt8} (written : Writes parts encode) (network : Network)
    (limiter : TokenLimiter cfg) (events : List MessengerEvent) (trace : List (Event WireSig))
    (rest : Prog WireSig (Except ConsumerError Unit))
    (run : Reaches (consumeOnWire parts network limiter events) trace rest) :
    WireDiscipline encode trace rest := by
  have knows : Desk.empty.Knows limiter := ⟨rfl, fun peer gone => by cases gone⟩
  have proved := Prog.Satisfies.implement carriedOut_simulates
    (consumeMessengerEvents_satisfies written network events knows)
    (h := .idle) (Desk.line_settled rfl).symm
  obtain ⟨along, left⟩ := satisfies_reaches proved run
  have tells := along_tells along
  refine ⟨along, ?_, ?_⟩
  · cases line : (wireMonitor encode).after .idle trace with
    | idle =>
        rw [line] at tells
        exact Or.inl tells
    | due request failures | resting request failures =>
        rw [line] at tells
        exact Or.inr ⟨request, failures, tells⟩
  · rintro value rfl
    obtain ⟨desk, same, settled⟩ := left
    rw [same, Desk.line_settled settled] at tells
    exact tells

/-- LND answers nothing but failures that are retried, and LDK asks for a connection at every
poll. -/
def failingLnd : (call : WireCall) → call.Reply
  | .relay call => oneMessage call
  | .send _ => .error (.unknown "")
  | .sleep _ => ()
  | .pendingEvents => [.connectionNeeded (.repeated 3) []]

def wireRun : List (Event WireSig) × Prog WireSig (Except ConsumerError Unit) :=
  (consumeOnWire plainRelay .regtest (TokenLimiter.new plainRelay.clock ⟨2, 1000⟩ [])
    [.peerConnected (.repeated 2) true, .sendOutgoing, .sendOutgoing]).play (fun _ => ())
    (List.replicate 40 failingLnd)

theorem consumeOnWire_disciplined_failing :
    (wireRun.1.filterMap sentRequest).length = 6 ∧
      WireDiscipline OnionMessage.bytes wireRun.1 wireRun.2 := by
  refine ⟨?_, consumeOnWire_disciplined (fun _ => rfl) .regtest _ _ _ _ (Prog.play_reaches _ _ _)⟩
  decide +kernel

end LndkFormal.Messenger
