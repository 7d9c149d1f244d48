import LndkFormal.Async.Pool
import LndkFormal.Tables.Table
import LndkFormal.Offers.Error

/-!
# The handler's shared state and its surroundings

`OfferHandler` keeps two collections behind locks.  Every critical section of
the source is one `Access`, `Access.run` is what it does, and
`Access.entry_cases` says everything it can do to one entry.  Everything a
handler asks of LND, of the random source and of the timer is a `Call` with a
free reply.
-/

set_option autoImplicit false

namespace LndkFormal.Offers

open LndkFormal.Async
open LndkFormal.Tables
open LndkFormal.Lnd
open LndkFormal.Ldk

inductive PaymentState where
  | invoiceRequestCreated
  | invoiceReceived
  | paymentDispatched
  deriving DecidableEq, Repr

structure PaymentInfo where
  state : PaymentState
  invoice : Option Bolt12Invoice
  deriving DecidableEq

abbrev PendingMessage := OffersMessage × MessageSendInstructions

/-- What `OfferHandler` keeps behind its two mutexes. -/
structure OfferState where
  activePayments : Table PaymentId PaymentInfo
  pendingMessages : List PendingMessage
  deriving DecidableEq

/-- The fields of `OfferHandler` that never change.  `client` says whether the
handler was given a client for LND. -/
structure OfferHandler where
  expandedKey : ExpandedKey
  responseInvoiceTimeout : UInt32
  client : Bool
  deriving DecidableEq

def OfferState.new : OfferState := ⟨∅, []⟩

/-! ## Critical sections -/

inductive Access where
  /-- `get_invoice` claims its payment id, if the entry is vacant. -/
  | insertVacant (id : PaymentId)
  /-- One check of `wait_for_invoice`. -/
  | readInvoice (id : PaymentId)
  | setReceived (id : PaymentId)
  | setDispatched (id : PaymentId)
  /-- The message handler stores a verified invoice. -/
  | storeInvoice (id : PaymentId) (invoice : Bolt12Invoice)
  | remove (id : PaymentId)
  | pushMessage (message : PendingMessage)
  | takeMessages
  deriving DecidableEq

/-- `insertVacant` answers whether the entry was vacant. -/
def Access.Reply : Access → Type
  | .insertVacant _ => Bool
  | .readInvoice _ => Option Bolt12Invoice
  | .takeMessages => List PendingMessage
  | _ => Unit

def OfferState.setState (s : OfferState) (id : PaymentId) (state : PaymentState) : OfferState :=
  { s with activePayments := s.activePayments.modify id fun info => { info with state } }

def Access.run : (op : Access) → OfferState → op.Reply × OfferState
  | .insertVacant id, s =>
      match s.activePayments.lookup id with
      | some _ => (false, s)
      | none =>
          (true, { s with
            activePayments := s.activePayments.insert id
              { state := .invoiceRequestCreated, invoice := none } })
  | .readInvoice id, s => ((s.activePayments.lookup id).bind PaymentInfo.invoice, s)
  | .setReceived id, s => ((), s.setState id .invoiceReceived)
  | .setDispatched id, s => ((), s.setState id .paymentDispatched)
  | .storeInvoice id invoice, s =>
      match s.activePayments.lookup id with
      | none => ((), s)
      | some info =>
          if info.invoice.isSome then ((), s)
          else
            ((), { s with
              activePayments := s.activePayments.modify id fun _ =>
                { state := .invoiceReceived, invoice := some invoice } })
  | .remove id, s => ((), { s with activePayments := s.activePayments.erase id })
  | .pushMessage message, s => ((), { s with pendingMessages := s.pendingMessages ++ [message] })
  | .takeMessages, s => (s.pendingMessages, { s with pendingMessages := [] })

/-- The entry of a payment, if it is active. -/
abbrev OfferState.entry (s : OfferState) (id : PaymentId) : Option PaymentInfo :=
  s.activePayments.lookup id

@[simp] theorem OfferState.entry_new (id : PaymentId) : OfferState.new.entry id = none := rfl

/-- The ways a critical section can change the entry of `id`. -/
inductive EntryChange (id : PaymentId) :
    Access → Option PaymentInfo → Option PaymentInfo → Prop where
  | insert : EntryChange id (.insertVacant id) none
      (some { state := .invoiceRequestCreated, invoice := none })
  | received (info : PaymentInfo) : EntryChange id (.setReceived id) (some info)
      (some { info with state := .invoiceReceived })
  | dispatched (info : PaymentInfo) : EntryChange id (.setDispatched id) (some info)
      (some { info with state := .paymentDispatched })
  | stored (state : PaymentState) (invoice : Bolt12Invoice) :
      EntryChange id (.storeInvoice id invoice) (some { state, invoice := none })
        (some { state := .invoiceReceived, invoice := some invoice })
  | removed (info : PaymentInfo) : EntryChange id (.remove id) (some info) none

theorem OfferState.entry_setState (s : OfferState) (id : PaymentId) (state : PaymentState)
    (other : PaymentId) :
    (s.setState id state).entry other =
      if other = id then (s.entry other).map fun info => { info with state }
      else s.entry other :=
  Table.lookup_modify s.activePayments id _ other

theorem Access.entry_cases (op : Access) (s : OfferState) (id : PaymentId) :
    (op.run s).2.entry id = s.entry id ∨
      EntryChange id op (s.entry id) ((op.run s).2.entry id) := by
  cases op with
  | insertVacant other =>
      cases found : s.activePayments.lookup other with
      | some info => left; simp [Access.run, found]
      | none =>
          simp only [Access.run, found, OfferState.entry, Table.lookup_insert_cases]
          by_cases same : id = other
          · subst same
            rw [if_pos rfl, found]
            exact Or.inr .insert
          · rw [if_neg same]
            exact Or.inl rfl
  | readInvoice other => exact Or.inl rfl
  | setReceived other =>
      simp only [Access.run, OfferState.entry_setState]
      by_cases same : id = other
      · subst same
        rw [if_pos rfl]
        cases s.entry id with
        | none => exact Or.inl rfl
        | some info => exact Or.inr (.received info)
      · rw [if_neg same]
        exact Or.inl rfl
  | setDispatched other =>
      simp only [Access.run, OfferState.entry_setState]
      by_cases same : id = other
      · subst same
        rw [if_pos rfl]
        cases s.entry id with
        | none => exact Or.inl rfl
        | some info => exact Or.inr (.dispatched info)
      · rw [if_neg same]
        exact Or.inl rfl
  | storeInvoice other invoice =>
      cases found : s.activePayments.lookup other with
      | none => left; simp [Access.run, found]
      | some info =>
          obtain ⟨state, stored⟩ := info
          cases stored with
          | some _ => left; simp [Access.run, found]
          | none =>
              simp only [Access.run, found, OfferState.entry, Option.isSome_none,
                Bool.false_eq_true, if_false, Table.lookup_modify]
              by_cases same : id = other
              · subst same
                rw [if_pos rfl, found]
                exact Or.inr (.stored state invoice)
              · rw [if_neg same]
                exact Or.inl rfl
  | remove other =>
      simp only [Access.run, OfferState.entry, Table.lookup_erase_cases]
      by_cases same : id = other
      · subst same
        rw [if_pos rfl]
        cases s.activePayments.lookup id with
        | none => exact Or.inl rfl
        | some info => exact Or.inr (.removed info)
      · rw [if_neg same]
        exact Or.inl rfl
  | pushMessage message => exact Or.inl rfl
  | takeMessages => exact Or.inl rfl

theorem Access.pendingMessages_run (op : Access) (s : OfferState) :
    (op.run s).2.pendingMessages =
      match op with
      | .pushMessage message => s.pendingMessages ++ [message]
      | .takeMessages => []
      | _ => s.pendingMessages := by
  cases op with
  | insertVacant id => cases found : s.activePayments.lookup id <;> simp [Access.run, found]
  | storeInvoice id invoice =>
      cases found : s.activePayments.lookup id with
      | none => simp [Access.run, found]
      | some info => cases stored : info.invoice.isSome <;> simp [Access.run, found, stored]
  | _ => rfl

theorem Access.entry_storeInvoice {s : OfferState} {id : PaymentId} {state : PaymentState}
    (present : s.entry id = some { state, invoice := none }) (invoice : Bolt12Invoice) :
    ((Access.storeInvoice id invoice).run s).2.entry id =
      some { state := .invoiceReceived, invoice := some invoice } := by
  simp [Access.run, present, OfferState.entry, Table.lookup_modify]

theorem Access.vacant_of_insert {s : OfferState} {id : PaymentId}
    (inserted : ((Access.insertVacant id).run s).1 = true) : s.entry id = none := by
  cases found : s.entry id with
  | none => rfl
  | some info =>
      simp only [Access.run, found] at inserted
      cases inserted

theorem Access.entry_insertVacant (s : OfferState) (id : PaymentId) :
    ((Access.insertVacant id).run s).2.entry id ≠ none := by
  cases found : s.entry id with
  | none => simp [Access.run, found, OfferState.entry]
  | some info => simp [Access.run, found]

theorem Access.entry_remove (s : OfferState) (id : PaymentId) :
    ((Access.remove id).run s).2.entry id = none := by
  simp [Access.run, OfferState.entry]

/-! ## Requests to the surroundings -/

/-- How one sleep of `wait_for_invoice` ends under `get_invoice`'s timeout. -/
inductive Wake where
  | slept
  | elapsed
  deriving DecidableEq, Repr

inductive Call where
  | randomPaymentId
  | randomNonce
  /-- `get_lnd_client` with the macaroon of a gRPC request. -/
  | connectLnd (macaroon : String)
  | getInfo
  | listPeers
  | connectPeer (nodeId address : String)
  | getNodeInfo (pubKey : String) (includeChannels : Bool)
  | getChanInfo (chanId : UInt64)
  | queryRoutes (request : QueryRoutesRequest)
  | sendToRouteV2 (paymentHash : PaymentHash) (route : Route)
  | trackPaymentV2 (paymentHash : PaymentHash) (noInflightUpdates : Bool)
  | addInvoice (invoice : Invoice)
  | decodePayReq (payReq : String)
  /-- `BlindedMessagePath::one_hop`, which draws randomness. -/
  | oneHopPath (recipient : PublicKey) (context : OffersContext)
  /-- `BlindedMessagePath::new`, which draws randomness. -/
  | messagePath (nodes : List PublicKey) (recipient : PublicKey) (context : OffersContext)
  /-- A sleep of two seconds inside a timeout that may run out first. -/
  | sleepOrTimeout
  /-- A sleep that begins when the timeout has already run out. -/
  | timeoutElapsed
  deriving DecidableEq

def Call.Reply : Call → Type
  | .randomPaymentId => PaymentId
  | .randomNonce => Nonce
  | .connectLnd _ => Except String Unit
  | .getInfo => Except Status GetInfoResponse
  | .listPeers => Except Status (List Peer)
  | .connectPeer _ _ => Except Status Unit
  | .getNodeInfo _ _ => Except Status NodeInfo
  | .getChanInfo _ => Except Status ChannelEdge
  | .queryRoutes _ => Except Status QueryRoutesResponse
  | .sendToRouteV2 _ _ => Except Status HtlcAttempt
  | .trackPaymentV2 _ _ => Except Status PaymentStream
  | .addInvoice _ => Except Status AddInvoiceResponse
  | .decodePayReq _ => Except Status PayReq
  | .oneHopPath _ _ => Option BlindedMessagePath
  | .messagePath _ _ _ => Option BlindedMessagePath
  | .sleepOrTimeout => Wake
  | .timeoutElapsed => Unit

abbrev Sig : Signature where
  Access := Access
  AccessReply := Access.Reply
  Call := Call
  CallReply := Call.Reply

abbrev lock (op : Access) : Prog Sig op.Reply := (Prog.enter op : Prog Sig _)

abbrev ask (request : Call) : Prog Sig request.Reply := (Prog.request request : Prog Sig _)

def Call.refused : (request : Call) → request.Reply
  | .randomPaymentId => ⟨0⟩
  | .randomNonce => ⟨0⟩
  | .connectLnd _ => .error ""
  | .getInfo => .error (Status.unknown "")
  | .listPeers => .error (Status.unknown "")
  | .connectPeer _ _ => .error (Status.unknown "")
  | .getNodeInfo _ _ => .error (Status.unknown "")
  | .getChanInfo _ => .error (Status.unknown "")
  | .queryRoutes _ => .error (Status.unknown "")
  | .sendToRouteV2 _ _ => .error (Status.unknown "")
  | .trackPaymentV2 _ _ => .error (Status.unknown "")
  | .addInvoice _ => .error (Status.unknown "")
  | .decodePayReq _ => .error (Status.unknown "")
  | .oneHopPath _ _ => none
  | .messagePath _ _ _ => none
  | .sleepOrTimeout => .elapsed
  | .timeoutElapsed => ()

end LndkFormal.Offers
