import LndkFormal.Messenger.Consume

/-!
# What the consumer relays

A monitor follows a run of the consumer.  It knows the message that is to be
relayed next, the peers asked since the last event was taken, and the peers whose
last connection event was a disconnect.  From what it demands of each event
follows which requests a peer gets, and when it gets none.
-/

set_option autoImplicit false

namespace LndkFormal.Messenger

open LndkFormal.Async
open LndkFormal.Ldk
open LndkFormal.Lnd
open LndkFormal.RateLimit

section Traces

variable {α : Type}

def requested : Event RelaySig → Option SendCustomMessageRequest
  | .call (.sendCustomMessage request) _ => some request
  | _ => none

def handedOut : Event RelaySig → Option (PublicKey × OnionMessage)
  | .call (.nextOnionMessageForPeer peer) reply => reply.map (Prod.mk peer)
  | _ => none

def outstanding : Prog RelaySig α → Option SendCustomMessageRequest
  | .call (.sendCustomMessage request) _ => some request
  | _ => none

def issued (trace : List (Event RelaySig)) (rest : Prog RelaySig α) :
    List SendCustomMessageRequest :=
  trace.filterMap requested ++ (outstanding rest).toList

def addressedTo (peer : PublicKey) (request : SendCustomMessageRequest) : Bool :=
  decide (request.peer = peer.bytes)

def relayRequest (encode : OnionMessage → List UInt8) (peer : PublicKey)
    (message : OnionMessage) : SendCustomMessageRequest :=
  ⟨peer.bytes, ONION_MESSAGE_TYPE, encode message⟩

def handedFor (peer : PublicKey) (trace : List (Event RelaySig)) : List OnionMessage :=
  ((trace.filterMap handedOut).filter fun handed => handed.1 = peer).map Prod.snd

abbrev taken (event : MessengerEvent) : Event RelaySig := .access event ()

end Traces

/-! ## The monitor -/

structure Desk where
  due : Option (PublicKey × OnionMessage)
  asked : List PublicKey
  away : PublicKey → Bool

def Desk.empty : Desk := ⟨none, [], fun _ => false⟩

def Desk.take (desk : Desk) : MessengerEvent → Desk
  | .peerConnected peer _ =>
      { desk with asked := [], away := fun other => !decide (other = peer) && desk.away other }
  | .peerDisconnected peer =>
      { desk with asked := [], away := fun other => decide (other = peer) || desk.away other }
  | _ => { desk with asked := [] }

section Monitor

variable (encode : OnionMessage → List UInt8)

def Desk.dueRequest (desk : Desk) : Option SendCustomMessageRequest :=
  desk.due.map fun due => relayRequest encode due.1 due.2

/-- A message that was handed out is requested before anything else happens, and no peer is
asked twice in a round or while it is away. -/
def relayMonitor : Monitor RelaySig Desk where
  demand desk
    | .access _ _ => desk.due = none
    | .call (.nextOnionMessageForPeer peer) _ =>
        desk.due = none ∧ peer ∉ desk.asked ∧ desk.away peer = false
    | .call (.sendCustomMessage request) _ =>
        desk.dueRequest encode = some request
    | .call _ _ => desk.due = none
  next desk
    | .access event _ => desk.take event
    | .call (.nextOnionMessageForPeer peer) reply =>
        { desk with due := reply.map (Prod.mk peer), asked := peer :: desk.asked }
    | .call (.sendCustomMessage _) _ => { desk with due := none }
    | .call _ _ => desk
  panicOk _ := False

variable {encode}

@[simp] theorem due_take (desk : Desk) (event : MessengerEvent) :
    (desk.take event).due = desk.due := by
  cases event <;> rfl

@[simp] theorem away_take_connected (desk : Desk) (peer other : PublicKey) (support : Bool) :
    (desk.take (.peerConnected other support)).away peer =
      (!decide (peer = other) && desk.away peer) := rfl

@[simp] theorem away_take_disconnected (desk : Desk) (peer other : PublicKey) :
    (desk.take (.peerDisconnected other)).away peer =
      (decide (peer = other) || desk.away peer) := rfl

theorem dueRequest_settled {desk : Desk} (settled : desk.due = none) :
    desk.dueRequest encode = none := by
  rw [Desk.dueRequest, settled, Option.map_none]

/-- The requests follow what is handed out, one message behind at most. -/
theorem along_requested {desk : Desk} {trace : List (Event RelaySig)}
    (along : (relayMonitor encode).Along (relayMonitor encode).demand desk trace) :
    trace.filterMap requested ++
        (((relayMonitor encode).after desk trace).dueRequest encode).toList =
      (desk.dueRequest encode).toList ++
        (trace.filterMap handedOut).map fun handed => relayRequest encode handed.1 handed.2 := by
  induction trace generalizing desk with
  | nil => exact (List.append_nil _).symm
  | cons event rest ih =>
      obtain ⟨demanded, along⟩ := along
      have later := ih along
      cases event with
      | access event reply =>
          have kept : ((relayMonitor encode).next desk (.access event reply)).due = none :=
            (due_take desk event).trans demanded
          rw [dueRequest_settled demanded]
          rw [dueRequest_settled kept] at later
          exact later
      | call call reply =>
          cases call with
          | nextOnionMessageForPeer peer =>
              rw [dueRequest_settled demanded.1]
              cases reply with
              | none => exact later
              | some message => exact later
          | sendCustomMessage request =>
              have due : desk.dueRequest encode = some request := demanded
              rw [due]
              exact congrArg (List.cons request) later
          | _ => exact later

/-- Until the next event is taken no peer is handed a second message. -/
theorem along_nodup {desk : Desk} {trace : List (Event RelaySig)}
    (along : (relayMonitor encode).Along (relayMonitor encode).demand desk trace)
    (round : ∀ event, taken event ∉ trace) :
    ((trace.filterMap handedOut).map Prod.fst).Nodup ∧
      ∀ peer ∈ (trace.filterMap handedOut).map Prod.fst, peer ∉ desk.asked := by
  induction trace generalizing desk with
  | nil => simp
  | cons event rest ih =>
      obtain ⟨demanded, along⟩ := along
      have later := ih along fun event member => round event (List.mem_cons_of_mem _ member)
      cases event with
      | access event reply => exact absurd List.mem_cons_self (round event)
      | call call reply =>
          cases call with
          | nextOnionMessageForPeer peer =>
              obtain ⟨distinct, fresh⟩ := later
              obtain ⟨_, unasked, _⟩ := demanded
              have others : ∀ other ∈ (rest.filterMap handedOut).map Prod.fst,
                  other ∉ peer :: desk.asked := fresh
              cases reply with
              | none =>
                  exact ⟨distinct, fun other member asked =>
                    others other member (List.mem_cons_of_mem _ asked)⟩
              | some message =>
                  refine ⟨List.nodup_cons.mpr ⟨fun member =>
                    others peer member List.mem_cons_self, distinct⟩, ?_⟩
                  intro other member asked
                  rcases List.mem_cons.mp member with rfl | member
                  · exact unasked asked
                  · exact others other member (List.mem_cons_of_mem _ asked)
          | _ => exact later

theorem along_away {desk : Desk} {trace : List (Event RelaySig)} {peer : PublicKey}
    (along : (relayMonitor encode).Along (relayMonitor encode).demand desk trace)
    (gone : desk.away peer = true)
    (unconnected : ∀ support, taken (.peerConnected peer support) ∉ trace) :
    peer ∉ (trace.filterMap handedOut).map Prod.fst := by
  induction trace generalizing desk with
  | nil => simp
  | cons event rest ih =>
      obtain ⟨demanded, along⟩ := along
      have still : ((relayMonitor encode).next desk event).away peer = true →
          peer ∉ (rest.filterMap handedOut).map Prod.fst := fun gone =>
        ih along gone fun support member => unconnected support (List.mem_cons_of_mem _ member)
      cases event with
      | access event reply =>
          apply still
          cases event with
          | peerConnected other support =>
              have different : peer ≠ other := by
                rintro rfl
                exact unconnected support List.mem_cons_self
              have kept : (desk.take (.peerConnected other support)).away peer = true := by
                simp [different, gone]
              exact kept
          | peerDisconnected other =>
              have kept : (desk.take (.peerDisconnected other)).away peer = true := by simp [gone]
              exact kept
          | _ => exact gone
      | call call reply =>
          cases call with
          | nextOnionMessageForPeer other =>
              have different : peer ≠ other := by
                rintro rfl
                rw [demanded.2.2] at gone
                cases gone
              cases reply with
              | none => exact still gone
              | some message =>
                  exact fun member => (List.mem_cons.mp member).elim different (still gone)
          | _ => exact still gone

/-- A program that is proved waits for an outcome exactly if a message is due. -/
theorem satisfies_outstanding {α : Type} {post : α → Desk → Prop} {desk : Desk}
    {rest : Prog RelaySig α}
    (settled : ∀ value desk, post value desk → desk.due = none)
    (proved : rest.Satisfies (relayMonitor encode) post desk) :
    outstanding rest = desk.dueRequest encode := by
  cases rest with
  | ret value => simp [outstanding, Desk.dueRequest, settled value desk proved]
  | panic message => exact False.elim proved
  | access event next =>
      have free : desk.due = none := (proved ()).1
      simp [outstanding, Desk.dueRequest, free]
  | call call next =>
      cases call with
      | sendCustomMessage request => exact ((proved (.ok ())).1).symm
      | nextOnionMessageForPeer peer =>
          have free : desk.due = none := (proved none).1.1
          simp [outstanding, Desk.dueRequest, free]
      | peerConnected peer init =>
          have free : desk.due = none := (proved (.ok ())).1
          simp [outstanding, Desk.dueRequest, free]
      | iterate peers =>
          have free : desk.due = none := (proved ⟨peers, .refl peers⟩).1
          simp [outstanding, Desk.dueRequest, free]
      | _ =>
          have free : desk.due = none := (proved ()).1
          simp [outstanding, Desk.dueRequest, free]

end Monitor

section Program

variable {parts : RelayParts} {encode : OnionMessage → List UInt8} {cfg : RateLimiterCfg}

def Writes (parts : RelayParts) (encode : OnionMessage → List UInt8) : Prop :=
  ∀ message, parts.writeOnionMessage message = .ok (encode message)

/-- Whoever is away is offline for the limiter. -/
def Desk.Knows (desk : Desk) (limiter : TokenLimiter cfg) : Prop :=
  desk.due = none ∧ ∀ peer, desk.away peer = true → limiter.online peer = false

theorem relayOutgoingMsgEvent_satisfies (written : Writes parts encode) {desk : Desk}
    {peer : PublicKey} {message : OnionMessage} (due : desk.due = some (peer, message)) :
    (relayOutgoingMsgEvent parts peer message).Satisfies (relayMonitor encode)
      (fun _ after => after = { desk with due := none }) desk := by
  have requested : desk.dueRequest encode = some (relayRequest encode peer message) := by
    rw [Desk.dueRequest, due, Option.map_some]
  rw [relayOutgoingMsgEvent, written message]
  exact fun outcome => ⟨requested, rfl⟩

theorem pollPeers_satisfies (written : Writes parts encode) (peers : List PublicKey)
    {desk : Desk} (settled : desk.due = none) (distinct : peers.Nodup)
    (askable : ∀ peer ∈ peers, peer ∉ desk.asked ∧ desk.away peer = false) :
    (pollPeers parts peers).Satisfies (relayMonitor encode)
      (fun _ after => after.due = none ∧ after.away = desk.away) desk := by
  induction peers generalizing desk with
  | nil => exact ⟨settled, rfl⟩
  | cons peer rest ih =>
      obtain ⟨unlisted, distinct⟩ := List.nodup_cons.mp distinct
      obtain ⟨unasked, present⟩ := askable peer List.mem_cons_self
      -- the desk after the peer was asked, and what it gave was relayed
      let asked : Desk := { desk with due := none, asked := peer :: desk.asked }
      have going : (pollPeers parts rest).Satisfies (relayMonitor encode)
          (fun _ after => after.due = none ∧ after.away = desk.away) asked := by
        refine @ih asked rfl distinct ?_
        intro other member
        obtain ⟨fresh, here⟩ := askable other (List.mem_cons_of_mem _ member)
        refine ⟨fun asked => ?_, here⟩
        rcases List.mem_cons.mp asked with rfl | asked
        · exact unlisted member
        · exact fresh asked
      intro reply
      refine ⟨⟨settled, unasked, present⟩, ?_⟩
      cases reply with
      | none => exact going
      | some message =>
          let holding : Desk := { asked with due := some (peer, message) }
          change (relayOutgoingMsgEvent parts peer message >>=
            fun _ => pollPeers parts rest).Satisfies _ _ holding
          refine Prog.Satisfies.bind (relayOutgoingMsgEvent_satisfies written rfl) ?_
          rintro _ after rfl
          exact going

/-- What a round leaves: nothing is due, and an `Ok` gives a limiter that is known. -/
def RoundEnds (result : Except ConsumerError (TokenLimiter cfg)) (after : Desk) : Prop :=
  after.due = none ∧ ∀ limiter, result = .ok limiter → after.Knows limiter

theorem roundEnds_ok {limiter : TokenLimiter cfg} {desk : Desk} (knows : desk.Knows limiter) :
    RoundEnds (.ok limiter) desk := by
  refine ⟨knows.1, ?_⟩
  intro other same
  cases same
  exact knows

theorem handleEvent_satisfies (written : Writes parts encode) (network : Network)
    {limiter : TokenLimiter cfg} {desk : Desk} (knows : desk.Knows limiter)
    (event : MessengerEvent) :
    (handleEvent parts network limiter event).Satisfies (relayMonitor encode) RoundEnds
      (desk.take event) := by
  obtain ⟨settled, offline⟩ := knows
  cases event with
  | peerConnected peer support =>
      intro reply
      refine ⟨settled, ?_⟩
      cases reply with
      | error refused => exact ⟨settled, fun limiter same => by cases same⟩
      | ok accepted =>
          refine roundEnds_ok ⟨settled, ?_⟩
          intro other gone
          have away : (desk.take (.peerConnected peer support)).away other = true := gone
          have parted : ¬ other = peer ∧ desk.away other = true := by simpa using away
          simp [parted.1, offline other parted.2]
  | peerDisconnected peer =>
      intro reply
      refine ⟨settled, roundEnds_ok ⟨settled, ?_⟩⟩
      intro other gone
      have away : (desk.take (.peerDisconnected peer)).away other = true := gone
      have parted : other = peer ∨ desk.away other = true := by simpa using away
      rw [TokenLimiter.online_peerDisconnected]
      rcases parted with rfl | parted
      · simp
      · simp [offline other parted]
  | incomingMessage peer message =>
      have queried : (desk.take (.incomingMessage peer message)).Knows
          (limiter.queryPeer parts.clock peer).2 := by
        refine ⟨settled, fun other gone => ?_⟩
        have same := Ledger.online_call parts.clock ⟨limiter, []⟩ (.queryPeer peer) other
        exact same.trans (offline other gone)
      rw [handleEvent]
      split
      · exact fun reply => ⟨settled, roundEnds_ok queried⟩
      · exact roundEnds_ok queried
  | sendOutgoing =>
      intro processed
      refine ⟨settled, fun order => ⟨settled, ?_⟩⟩
      have distinct : order.1.Nodup := order.2.nodup_iff.mpr limiter.nodup_peers
      change (pollPeers parts order.1 >>= fun _ => Prog.ret (.ok limiter)).Satisfies
        (relayMonitor encode) RoundEnds (desk.take .sendOutgoing)
      refine Prog.Satisfies.bind (pollPeers_satisfies written order.1 settled distinct ?_) ?_
      · intro peer member
        have online := (limiter.mem_peers peer).mp (order.2.mem_iff.mp member)
        refine ⟨List.not_mem_nil, ?_⟩
        cases gone : desk.away peer with
        | false => exact gone
        | true =>
            rw [offline peer gone] at online
            cases online
      · rintro _ after ⟨free, same⟩
        refine roundEnds_ok ⟨free, fun peer gone => offline peer ?_⟩
        rw [same] at gone
        exact gone
  | producerExit e => exact roundEnds_ok ⟨settled, offline⟩

theorem consumeMessengerEvents_satisfies (written : Writes parts encode) (network : Network)
    (events : List MessengerEvent) {limiter : TokenLimiter cfg} {desk : Desk}
    (knows : desk.Knows limiter) :
    (consumeMessengerEvents parts network limiter events).Satisfies (relayMonitor encode)
      (fun _ after => after.due = none) desk := by
  induction events generalizing limiter desk with
  | nil => exact knows.1
  | cons event rest ih =>
      intro reply
      refine ⟨knows.1, Prog.Satisfies.andThen (handleEvent_satisfies written network knows event)
        ?_ ?_⟩
      · intro e after ended
        exact ended.1
      · intro next after ended
        exact ih (ended.2 next rfl)

end Program

section Discipline

variable {encode : OnionMessage → List UInt8}

theorem addressedTo_relayRequest (peer other : PublicKey) (message : OnionMessage) :
    addressedTo peer (relayRequest encode other message) = decide (other = peer) := by
  refine decide_eq_decide.mpr ⟨fun same => ?_, fun same => by rw [same]; rfl⟩
  cases peer
  cases other
  cases same
  rfl

theorem filter_addressedTo (peer : PublicKey) (handed : List (PublicKey × OnionMessage)) :
    (handed.map fun handed => relayRequest encode handed.1 handed.2).filter (addressedTo peer) =
      ((handed.filter fun handed => handed.1 = peer).map Prod.snd).map
        (relayRequest encode peer) := by
  induction handed with
  | nil => rfl
  | cons first rest ih =>
      by_cases same : first.1 = peer
      · simp [addressedTo_relayRequest, same, ih]
      · simp [addressedTo_relayRequest, same, ih]

structure Followed {α : Type} (encode : OnionMessage → List UInt8) (desk : Desk)
    (trace : List (Event RelaySig)) (rest : Prog RelaySig α) : Prop where
  along : (relayMonitor encode).Along (relayMonitor encode).demand desk trace
  waiting : outstanding rest = ((relayMonitor encode).after desk trace).dueRequest encode

variable {α : Type} {desk : Desk} {rest : Prog RelaySig α}

theorem Followed.issued_to {trace : List (Event RelaySig)}
    (followed : Followed encode desk trace rest) (settled : desk.due = none) (peer : PublicKey) :
    (issued trace rest).filter (addressedTo peer) =
      (handedFor peer trace).map (relayRequest encode peer) := by
  have requests := along_requested followed.along
  rw [dueRequest_settled settled, ← followed.waiting] at requests
  rw [issued, requests, handedFor]
  exact filter_addressedTo peer _

theorem Followed.since {before after : List (Event RelaySig)} {event : MessengerEvent}
    (followed : Followed encode desk (before ++ taken event :: after) rest) :
    ∃ earlier : Desk, earlier.due = none ∧ Followed encode (earlier.take event) after rest := by
  obtain ⟨along, waiting⟩ := followed
  rw [Monitor.along_append] at along
  rw [Monitor.after_append] at waiting
  exact ⟨_, along.2.1, along.2.2, waiting⟩

structure RelayDiscipline (encode : OnionMessage → List UInt8) (trace : List (Event RelaySig))
    (rest : Prog RelaySig α) : Prop where
  /-- The requests to a peer are the messages that were handed out for it, in order. -/
  relayed : ∀ peer, (issued trace rest).filter (addressedTo peer) =
    (handedFor peer trace).map (relayRequest encode peer)
  /-- A poll makes one request to a peer at most. -/
  once : ∀ before after, trace = before ++ taken .sendOutgoing :: after →
    (∀ event, taken event ∉ after) →
    ∀ peer, ((issued after rest).filter (addressedTo peer)).length ≤ 1
  /-- No request is made to a peer that is gone. -/
  silent : ∀ peer before after, trace = before ++ taken (.peerDisconnected peer) :: after →
    (∀ support, taken (.peerConnected peer support) ∉ after) →
    (issued after rest).filter (addressedTo peer) = []

theorem Followed.disciplined {trace : List (Event RelaySig)}
    (followed : Followed encode desk trace rest) (settled : desk.due = none) :
    RelayDiscipline encode trace rest where
  relayed := followed.issued_to settled
  once := by
    rintro before after rfl round peer
    obtain ⟨earlier, free, followed⟩ := followed.since
    rw [followed.issued_to ((due_take earlier _).trans free), List.length_map, handedFor,
      List.length_map]
    have distinct := (along_nodup followed.along round).1
    have single := List.nodup_iff_count_le_one.mp distinct peer
    rw [List.count, List.countP_map, List.countP_eq_length_filter] at single
    exact single
  silent := by
    rintro peer before after rfl unconnected
    obtain ⟨earlier, free, followed⟩ := followed.since
    rw [followed.issued_to ((due_take earlier _).trans free), handedFor]
    have gone : (earlier.take (.peerDisconnected peer)).away peer = true := by simp
    have unheard := along_away followed.along gone unconnected
    have none_ : (after.filterMap handedOut).filter (fun handed => handed.1 = peer) = [] := by
      refine List.filter_eq_nil_iff.mpr fun handed member same => unheard ?_
      rw [← of_decide_eq_true same]
      exact List.mem_map_of_mem member
    rw [none_]
    rfl

end Discipline

/-! ## Producers that exit -/

section Exits

variable {parts : RelayParts} {cfg : RateLimiterCfg} {network : Network}

def MessengerEvent.isExit : MessengerEvent → Bool
  | .producerExit _ => true
  | _ => false

def withoutExits (events : List MessengerEvent) : List MessengerEvent :=
  events.filter fun event => !event.isExit

def exitsUntaken (trace : List (Event RelaySig)) : List (Event RelaySig) :=
  trace.filter fun
    | .access event _ => !event.isExit
    | .call _ _ => true

def isCall (event : Event RelaySig) : Prop := ∃ call reply, event = .call call reply

theorem handleEvent_within (limiter : TokenLimiter cfg) (event : MessengerEvent) :
    (handleEvent parts network limiter event).Within isCall := by
  cases event with
  | peerConnected peer support =>
      refine Prog.within_request_bind.mpr fun reply => ⟨⟨_, reply, rfl⟩, ?_⟩
      cases reply <;> trivial
  | peerDisconnected peer => exact fun reply => ⟨⟨_, reply, rfl⟩, trivial⟩
  | incomingMessage peer message =>
      rw [handleEvent]
      split
      · exact fun reply => ⟨⟨_, reply, rfl⟩, trivial⟩
      · trivial
  | sendOutgoing =>
      refine Prog.within_request_bind.mpr fun processed => ⟨⟨_, processed, rfl⟩, ?_⟩
      refine Prog.within_request_bind.mpr fun order => ⟨⟨_, order, rfl⟩, ?_⟩
      refine Prog.Within.bind ((pollPeers_within order.1).mono ?_) fun _ => trivial
      rintro event (⟨peer, reply, rfl⟩ | ⟨request, outcome, rfl⟩) <;> exact ⟨_, _, rfl⟩
  | producerExit e => trivial

theorem exitsUntaken_round {limiter : TokenLimiter cfg} {event : MessengerEvent}
    {trace later : List (Event RelaySig)} {rest : Prog RelaySig _}
    (run : Reaches (handleEvent parts network limiter event) trace rest) :
    exitsUntaken (trace ++ later) = trace ++ exitsUntaken later := by
  have calls := within_reaches (handleEvent_within limiter event) run
  have kept : exitsUntaken trace = trace := by
    refine List.filter_eq_self.mpr fun event member => ?_
    obtain ⟨call, reply, rfl⟩ := calls event member
    rfl
  rw [exitsUntaken, List.filter_append]
  exact congrArg (· ++ _) kept

theorem reaches_taken {limiter : TokenLimiter cfg} {event : MessengerEvent}
    {events : List MessengerEvent} {trace : List (Event RelaySig)} {rest : Prog RelaySig _}
    (run : Reaches ((handleEvent parts network limiter event).andThen fun limiter =>
      consumeMessengerEvents parts network limiter events) trace rest) :
    Reaches (consumeMessengerEvents parts network limiter (event :: events))
      (taken event :: trace) rest :=
  @Reaches.access RelaySig _ event _ () _ _ run

theorem reaches_round_iff {limiter : TokenLimiter cfg} {event : MessengerEvent}
    {events : List MessengerEvent} {trace : List (Event RelaySig)}
    {result : Except ConsumerError Unit} :
    Reaches (consumeMessengerEvents parts network limiter (event :: events)) trace (.ret result) ↔
      ∃ first second ended, trace = taken event :: (first ++ second) ∧
        Reaches (handleEvent parts network limiter event) first (.ret ended) ∧
        Reaches ((Prog.ret ended).andThen fun limiter =>
          consumeMessengerEvents parts network limiter events) second (.ret result) := by
  constructor
  · intro run
    cases run with
    | access reply run =>
        obtain ⟨first, second, ended, rfl, handled, rest⟩ := reaches_bind_ret run
        exact ⟨first, second, ended, rfl, handled, rest⟩
  · rintro ⟨first, second, ended, rfl, handled, rest⟩
    have whole : Reaches ((handleEvent parts network limiter event).andThen fun limiter =>
        consumeMessengerEvents parts network limiter events) (first ++ second) (.ret result) :=
      Reaches.bind handled rest
    exact reaches_taken whole

/-- The exits change nothing but that they are taken: the finished runs on the events without
them are the same. -/
theorem withoutExits_reaches_iff (events : List MessengerEvent) {limiter : TokenLimiter cfg}
    {trace : List (Event RelaySig)} {result : Except ConsumerError Unit} :
    Reaches (consumeMessengerEvents parts network limiter (withoutExits events)) trace
        (.ret result) ↔
      ∃ whole, exitsUntaken whole = trace ∧
        Reaches (consumeMessengerEvents parts network limiter events) whole (.ret result) := by
  induction events generalizing limiter trace with
  | nil =>
      constructor
      · intro run
        cases run
        exact ⟨[], rfl, .refl _⟩
      · rintro ⟨whole, rfl, run⟩
        cases run
        exact .refl _
  | cons event events ih =>
      cases exits : event.isExit with
      | true =>
          have skipped : withoutExits (event :: events) = withoutExits events := by
            simp [withoutExits, exits]
          have untaken (later : List (Event RelaySig)) :
              exitsUntaken (taken event :: later) = exitsUntaken later := by
            simp [exitsUntaken, exits]
          obtain ⟨e, rfl⟩ : ∃ e, event = .producerExit e := by
            cases event with
            | producerExit e => exact ⟨e, rfl⟩
            | _ => cases exits
          rw [skipped, ih]
          constructor
          · rintro ⟨whole, rfl, run⟩
            exact ⟨taken (.producerExit e) :: whole, untaken whole, reaches_taken run⟩
          · rintro ⟨whole, rfl, run⟩
            cases run with
            | access reply run => exact ⟨_, (untaken _).symm, run⟩
      | false =>
          have kept : withoutExits (event :: events) = event :: withoutExits events := by
            simp [withoutExits, exits]
          have takes (later : List (Event RelaySig)) :
              exitsUntaken (taken event :: later) = taken event :: exitsUntaken later := by
            simp [exitsUntaken, exits]
          rw [kept, reaches_round_iff]
          constructor
          · rintro ⟨first, second, ended, rfl, handled, rest⟩
            cases ended with
            | error e =>
                cases rest
                exact ⟨taken event :: (first ++ []),
                  (takes _).trans (congrArg _ (exitsUntaken_round handled)),
                  reaches_round_iff.mpr ⟨first, [], _, rfl, handled, .refl _⟩⟩
            | ok next =>
                obtain ⟨whole, rfl, run⟩ := ih.mp rest
                exact ⟨taken event :: (first ++ whole),
                  (takes _).trans (congrArg _ (exitsUntaken_round handled)),
                  reaches_round_iff.mpr ⟨first, whole, _, rfl, handled, run⟩⟩
          · rintro ⟨whole, rfl, run⟩
            obtain ⟨first, second, ended, rfl, handled, rest⟩ := reaches_round_iff.mp run
            refine ⟨first, exitsUntaken second, ended,
              (takes _).trans (congrArg _ (exitsUntaken_round handled)), handled, ?_⟩
            cases ended with
            | error e =>
                cases rest
                exact .refl _
            | ok next => exact ih.mpr ⟨second, rfl, rest⟩

end Exits

section Runs

variable {parts : RelayParts} {encode : OnionMessage → List UInt8} {cfg : RateLimiterCfg}

/-- What the consumer relays, at every moment of a run over any events, whatever the onion
messenger and the client answer; and exits of producers neither stop nor alter a run. -/
theorem consumeMessengerEvents_disciplined (written : Writes parts encode) (network : Network)
    (limiter : TokenLimiter cfg) (events : List MessengerEvent) :
    (∀ trace rest, Reaches (consumeMessengerEvents parts network limiter events) trace rest →
        RelayDiscipline encode trace rest) ∧
      ∀ trace result,
        Reaches (consumeMessengerEvents parts network limiter (withoutExits events)) trace
            (.ret result) ↔
          ∃ whole, exitsUntaken whole = trace ∧
            Reaches (consumeMessengerEvents parts network limiter events) whole (.ret result) := by
  constructor
  · intro trace rest run
    have knows : Desk.empty.Knows limiter := ⟨rfl, fun peer gone => by cases gone⟩
    have proved := consumeMessengerEvents_satisfies written network events knows
    obtain ⟨along, left⟩ := satisfies_reaches proved run
    have followed : Followed encode Desk.empty trace rest :=
      ⟨along, satisfies_outstanding (fun _ _ free => free) left⟩
    exact followed.disciplined rfl
  · intro trace result
    exact withoutExits_reaches_iff events

end Runs

def plainRelay : RelayParts where
  clock := sampleParts.clock
  usingGenesisBlock _ := ⟨0⟩
  writeOnionMessage message := .ok message.bytes

def oneMessage : (call : RelayCall) → call.Reply
  | .peerConnected _ _ => .ok ()
  | .peerDisconnected _ => ()
  | .handleOnionMessage _ _ => ()
  | .processPendingEvents => ()
  | .iterate peers => ⟨peers, .refl peers⟩
  | .nextOnionMessageForPeer _ => some ⟨[7]⟩
  | .sendCustomMessage _ => .error (.unknown "")

/-- A peer connects, is polled twice with a producer's exit between, and disconnects. -/
def smallRelay : Prog RelaySig (Except ConsumerError Unit) :=
  consumeMessengerEvents plainRelay .regtest (TokenLimiter.new plainRelay.clock ⟨2, 1000⟩ [])
    [.peerConnected (.repeated 2) true, .sendOutgoing, .producerExit .peerProducerExit,
      .sendOutgoing, .peerDisconnected (.repeated 2), .sendOutgoing]

def smallRun : List (Event RelaySig) × Prog RelaySig (Except ConsumerError Unit) :=
  smallRelay.play (fun _ => ()) (List.replicate 30 oneMessage)

theorem consumeMessengerEvents_disciplined_twice :
    (issued smallRun.1 smallRun.2).length = 2 ∧
      RelayDiscipline OnionMessage.bytes smallRun.1 smallRun.2 :=
  ⟨rfl, (consumeMessengerEvents_disciplined (fun _ => rfl) .regtest _ _).1 _ _
    (Prog.play_reaches _ _ _)⟩

end LndkFormal.Messenger
