import LndkFormal.Offers.Footprints
import LndkFormal.System.Requests

/-!
# What a request may do on LND

Each gRPC request brings a macaroon of its own and acts on LND with it.  The
documentation of the CLI names, for `pay-offer` and for `get-invoice`, the endpoints
that such a macaroon has to grant.  The monitor `credentials` says that a request
connects once, with the macaroon it came with, that nothing happens before, and that
afterwards it stays within a list of endpoints.
-/

set_option autoImplicit false

namespace LndkFormal.System

open LndkFormal.Async
open LndkFormal.Lnd
open LndkFormal.Ldk
open LndkFormal.Offers
open LndkFormal.Server

inductive Endpoint where
  | getInfo
  | listPeers
  | connectPeer
  | getNodeInfo
  | getChanInfo
  | queryRoutes
  | sendToRouteV2
  | trackPaymentV2
  | addInvoice
  | decodePayReq
  deriving DecidableEq

def endpointOf : Call → Option Endpoint
  | .getInfo => some .getInfo
  | .listPeers => some .listPeers
  | .connectPeer _ _ => some .connectPeer
  | .getNodeInfo _ _ => some .getNodeInfo
  | .getChanInfo _ => some .getChanInfo
  | .queryRoutes _ => some .queryRoutes
  | .sendToRouteV2 _ _ => some .sendToRouteV2
  | .trackPaymentV2 _ _ => some .trackPaymentV2
  | .addInvoice _ => some .addInvoice
  | .decodePayReq _ => some .decodePayReq
  | _ => none

/-- The macaroon documented for `get-invoice`, without its two permissions to sign. -/
def getInvoiceEndpoints : List Endpoint :=
  [.getNodeInfo, .connectPeer, .getInfo, .listPeers, .getChanInfo]

/-- The macaroon documented for `pay-offer`, without its two permissions to sign. -/
def payOfferEndpoints : List Endpoint :=
  getInvoiceEndpoints ++ [.queryRoutes, .sendToRouteV2, .trackPaymentV2]

/-- PayInvoice has no macaroon of its own in the documentation and needs less. -/
def payInvoiceEndpoints : List Endpoint :=
  [.getChanInfo, .queryRoutes, .sendToRouteV2, .trackPaymentV2]

def Request.endpoints : Request → List Endpoint
  | .payOfferRpc _ => payOfferEndpoints
  | .getInvoiceRpc _ => getInvoiceEndpoints
  | .payInvoiceRpc _ => payInvoiceEndpoints
  | _ => []

def Request.metadata : Request → Option Metadata
  | .payOfferRpc rpc => some rpc.metadata
  | .getInvoiceRpc rpc => some rpc.metadata
  | .payInvoiceRpc rpc => some rpc.metadata
  | _ => none

def Granted (endpoints : List Endpoint) : Event Sig → Prop
  | .access _ _ => True
  | .call (.connectLnd _) _ => False
  | .call request _ => ∀ endpoint, endpointOf request = some endpoint → endpoint ∈ endpoints

inductive Link where
  | fresh
  | refused
  | granted

def Link.next : Link → Event Sig → Link
  | .fresh, .call (.connectLnd _) (.ok _) => .granted
  | .fresh, _ => .refused
  | link, _ => link

def Link.Demands (metadata : Metadata) (endpoints : List Endpoint) : Link → Event Sig → Prop
  | .fresh, .call (.connectLnd macaroon) _ => metadata = .macaroon macaroon
  | .fresh, _ => False
  | .refused, _ => False
  | .granted, event => Granted endpoints event

def credentials (metadata : Metadata) (endpoints : List Endpoint) : Monitor Sig Link where
  demand := Link.Demands metadata endpoints
  next := Link.next
  panicOk _ := True

section Programs

variable {metadata : Metadata} {endpoints : List Endpoint}

theorem granted_credentials {α : Type} {p : Prog Sig α} (within : p.Within (Granted endpoints)) :
    p.Satisfies (credentials metadata endpoints) (fun _ _ => True) .granted :=
  (within.satisfies (fun _ granted => ⟨granted, rfl⟩) trivial).mono fun _ _ _ => trivial

theorem connect_credentials (metadata : Metadata) :
    (connect metadata).Satisfies (credentials metadata endpoints)
      (fun result final => ∀ value, result = .ok value → final = .granted) .fresh := by
  unfold connect
  cases metadata with
  | absent =>
      intro value impossible
      cases impossible
  | notText e =>
      intro value impossible
      cases impossible
  | macaroon hex =>
      intro connected
      refine ⟨rfl, ?_⟩
      cases connected with
      | error e =>
          intro value impossible
          cases impossible
      | ok _ =>
          intro value _
          rfl

theorem connect_then {k : Unit → Prog Sig (Except Status String)} (metadata : Metadata)
    (rest : ∀ value, (k value).Within (Granted endpoints)) :
    ((connect metadata).andThen k).Satisfies (credentials metadata endpoints)
      (fun _ _ => True) .fresh := by
  refine (connect_credentials metadata).andThen (fun _ _ _ => trivial) ?_
  intro value final granted
  rw [granted value rfl]
  exact granted_credentials (rest value)

/-! ## The requests -/

theorem granted_of_fetching (more : ∀ endpoint ∈ getInvoiceEndpoints, endpoint ∈ endpoints)
    (event : Event Sig) (fetching : Fetching event) : Granted endpoints event := by
  cases event with
  | access op reply => trivial
  | call request reply =>
      cases request <;> first | exact fetching.elim | skip
      all_goals
        intro endpoint needed
        first
          | cases needed; done
          | (cases needed; exact more _ (by decide))

theorem granted_of_paying (more : ∀ endpoint ∈ payInvoiceEndpoints, endpoint ∈ endpoints)
    {feeLimit : Option FeeLimit} {id : PaymentId} (event : Event Sig)
    (paying : Paying feeLimit id event) : Granted endpoints event := by
  cases event with
  | access op reply => trivial
  | call request reply =>
      cases request <;> first | exact paying.elim | skip
      all_goals
        intro endpoint needed
        cases needed
        exact more _ (by decide)

variable (ldk : Library) (handler : OfferHandler)

theorem readOffer_granted (listed : .getInfo ∈ endpoints) (text : String) :
    (readOffer ldk text).Within (Granted endpoints) := by
  refine Prog.Within.andThen (Prog.satisfies_ret _ |>.mpr trivial) fun offer => ?_
  refine Prog.Within.andThen (Prog.satisfies_ret _ |>.mpr trivial) fun destination => ?_
  refine Prog.within_request_bind.mpr fun info => ⟨?_, ?_⟩
  · intro endpoint needed
    cases needed
    exact listed
  · cases info with
    | error e => trivial
    | ok info =>
        dsimp only
        split <;> trivial

theorem payOfferRpc_credentials (rpc : PayOfferRequest) :
    (payOfferRpc ldk handler rpc).Satisfies (credentials rpc.metadata payOfferEndpoints)
      (fun _ _ => True) .fresh := by
  refine connect_then rpc.metadata fun _ => ?_
  refine (readOffer_granted ldk (by decide) rpc.offer).andThen ?_
  intro (offer, destination, network)
  refine Prog.Within.mapErrorThen ?_ fun _ => trivial
  refine ((getInvoice_within ldk handler _).mono (granted_of_fetching (by decide))).andThen ?_
  intro (invoice, amount, id)
  exact (payPaths_within ldk amount invoice invoice.paymentPaths none).mono
    (granted_of_paying (by decide))

theorem getInvoiceRpc_credentials (rpc : GetInvoiceRequest) :
    (getInvoiceRpc ldk handler rpc).Satisfies (credentials rpc.metadata getInvoiceEndpoints)
      (fun _ _ => True) .fresh := by
  refine connect_then rpc.metadata fun _ => ?_
  refine (readOffer_granted ldk (by decide) rpc.offer).andThen ?_
  intro (offer, destination, network)
  refine ((getInvoice_within ldk handler _).mono (granted_of_fetching (by decide))).mapErrorThen ?_
  intro (invoice, _, id)
  exact Prog.within_enter_bind.mpr fun _ => ⟨trivial, trivial⟩

theorem payInvoiceRpc_credentials (rpc : PayInvoiceRequest) :
    (payInvoiceRpc ldk rpc).Satisfies (credentials rpc.metadata payInvoiceEndpoints)
      (fun _ _ => True) .fresh := by
  have args : (payInvoiceArgs ldk rpc).Satisfies (credentials rpc.metadata payInvoiceEndpoints)
      (fun result final => ∀ args, result = .ok args → final = .granted) .fresh := by
    refine (connect_credentials rpc.metadata).andThen ?_ ?_
    · intro status final _ args impossible
      cases impossible
    intro value final granted
    rw [granted value rfl]
    refine Prog.satisfies_checked (fun _ _ _ impossible => by cases impossible) fun invoice _ => ?_
    refine Prog.satisfies_checked (fun _ _ _ impossible => by cases impossible) fun amount _ => ?_
    refine Prog.satisfies_request_bind.mpr fun id => ⟨?_, ?_⟩
    · intro endpoint impossible
      cases impossible
    · intro args _
      rfl
  refine args.andThen (fun _ _ _ => trivial) ?_
  intro args final granted
  rw [granted args rfl]
  refine granted_credentials (Prog.Within.mapErrorThen ?_ fun _ => trivial)
  exact (payPaths_within ldk args.amount args.invoice args.invoice.paymentPaths none).mono
    (granted_of_paying fun _ listed => listed)

theorem start_credentials {request : Request} (rpc : request.metadata = some metadata) :
    (start ldk handler request).Satisfies (credentials metadata request.endpoints)
      (fun _ _ => True) .fresh := by
  cases request with
  | payOfferRpc request =>
      cases rpc
      exact (payOfferRpc_credentials ldk handler request).bind fun _ _ _ => trivial
  | getInvoiceRpc request =>
      cases rpc
      exact (getInvoiceRpc_credentials ldk handler request).bind fun _ _ _ => trivial
  | payInvoiceRpc request =>
      cases rpc
      exact (payInvoiceRpc_credentials ldk request).bind fun _ _ _ => trivial
  | _ => cases rpc

end Programs

theorem granted_along {metadata : Metadata} {endpoints : List Endpoint}
    {events : List (Event Sig)}
    (along : (credentials metadata endpoints).Along (credentials metadata endpoints).demand
      .granted events) : ∀ event ∈ events, Granted endpoints event := by
  induction events with
  | nil => simp
  | cons first rest ih =>
      intro event member
      rcases List.mem_cons.mp member with same | later
      · rw [same]
        exact along.1
      · exact ih along.2 event later

theorem refused_along {metadata : Metadata} {endpoints : List Endpoint}
    {events : List (Event Sig)}
    (along : (credentials metadata endpoints).Along (credentials metadata endpoints).demand
      .refused events) : events = [] := by
  cases events with
  | nil => rfl
  | cons first rest => exact along.1.elim

/-- In every run, a gRPC request does nothing without a macaroon in its metadata.  With one
it first connects to LND, once and with this macaroon, ends if LND refuses, and otherwise
needs no other endpoints than those the macaroon for its command is documented to grant. -/
theorem rpc_endpoints_granted (ldk : Library) (handler : OfferHandler) (labels : List LndkLabel)
    (pool : LndkPool) (run : Run (lndk ldk handler) .new anyStep labels pool) (i : Nat)
    (task : LndkTask) (found : pool.tasks[i]? = some task) (metadata : Metadata)
    (rpc : task.request.metadata = some metadata) :
    task.log = [] ∨ ∃ macaroon reply rest, metadata = .macaroon macaroon ∧
      task.log = .call (.connectLnd macaroon) reply :: rest ∧
      (reply ≠ .ok () → rest = []) ∧
      ∀ event ∈ rest, Granted task.request.endpoints event := by
  have along := (satisfies_reaches (start_credentials ldk handler rpc)
    (run.task_reaches found)).1
  cases log : task.log with
  | nil => exact Or.inl rfl
  | cons first rest =>
      rw [log] at along
      obtain ⟨demanded, along⟩ := along
      cases first with
      | access op reply => exact demanded.elim
      | call request reply =>
          cases request with
          | connectLnd macaroon =>
              refine Or.inr ⟨macaroon, reply, rest, demanded, rfl, ?_, ?_⟩
              · intro refused
                cases reply with
                | ok _ => exact absurd rfl refused
                | error e => exact refused_along along
              · cases reply with
                | ok _ => exact granted_along along
                | error e =>
                    rw [refused_along along]
                    simp
          | _ => exact demanded.elim

theorem rpc_endpoints_granted_payInvoice :
    ∃ (labels : List LndkLabel) (pool : LndkPool) (task : LndkTask) (query : QueryRoutesRequest)
        (answer : Except Status QueryRoutesResponse),
      Run (lndk (.plain .twoPaths) sampleHandler) .new anyStep labels pool ∧
      pool.tasks[0]? = some task ∧ task.request.metadata = some (.macaroon "") ∧
      .call (.queryRoutes query) answer ∈ task.log ∧
      Granted payInvoiceEndpoints (.call (.queryRoutes query) answer) := by
  have run := schedule_run
    (.spawn (.payInvoiceRpc ⟨.macaroon "", "", some 1000, none, none⟩) :: goOn 0 3) .start
    (permitted_anyStep (M := lndk (.plain .twoPaths) sampleHandler) _ ([], ⟨.new, []⟩))
  obtain ⟨task, found, query, answer, log, request⟩ : ∃ task,
      (schedule (lndk (.plain .twoPaths) sampleHandler)
        (.spawn (.payInvoiceRpc ⟨.macaroon "", "", some 1000, none, none⟩) :: goOn 0 3)
        ([], ⟨.new, []⟩)).2.tasks[0]? = some task ∧ ∃ query answer,
      task.log = [.call (.connectLnd "") (.ok ()), .call .randomPaymentId ⟨1⟩,
        .call (.queryRoutes query) answer] ∧
      task.request = .payInvoiceRpc ⟨.macaroon "", "", some 1000, none, none⟩ :=
    ⟨_, rfl, _, _, rfl, rfl⟩
  have metadata : task.request.metadata = some (.macaroon "") := by rw [request]; rfl
  refine ⟨_, _, task, query, answer, run, found, metadata, by rw [log]; simp, ?_⟩
  rcases rpc_endpoints_granted _ _ _ _ run 0 task found _ metadata with
    none | ⟨macaroon, reply, rest, _, same, _, granted⟩
  · rw [log] at none
    cases none
  · rw [log] at same
    cases same
    rw [request] at granted
    exact granted _ (.tail _ (.head _))

end LndkFormal.System
