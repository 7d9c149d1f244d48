import LndkFormal.Ldk.Values

/-!
# Errors and the statuses they become

`OfferError`, `LndError` and `AuthError` with the reason, gRPC code and text
that a client of LNDK's server sees.
-/

set_option autoImplicit false

namespace LndkFormal.Offers

open LndkFormal.Lnd
open LndkFormal.Ldk

inductive OfferError where
  | alreadyProcessing (id : PaymentId)
  | buildUIRFailure (error : Bolt12SemanticError)
  | signError (debug : String)
  | deriveKeyFailure (text : String)
  | invalidAmount (text : String)
  | invalidCurrency
  | peerConnectError (text : String)
  | nodeAddressNotFound
  | listPeersFailure (text : String)
  | buildBlindedPathFailure
  | routeFailure (text : String)
  | trackFailure (text : String)
  | paymentFailure
  | invoiceTimeout (seconds : UInt32)
  | introductionNodeNotFound
  | getChannelInfo (text : String)
  | createOfferFailure (error : Bolt12SemanticError)
  | createOfferTimeFailure
  | addInvoiceFailure (text : String)
  | decodePaymentRequestFailure (text : String)
  | parsePaymentHashFailure (text : String)
  | parseOfferFailure (error : Bolt12ParseError)
  | parseInvoiceFailure (debug : String)
  | encodeInvoiceFailure (debug : String)
  | listChannelsFailure (text : String)
  deriving DecidableEq

namespace OfferError

def code : OfferError → String
  | .createOfferFailure _ => "CREATE_OFFER_FAILURE"
  | .createOfferTimeFailure => "CREATE_OFFER_TIME_FAILURE"
  | .addInvoiceFailure _ => "ADD_INVOICE_FAILURE"
  | .decodePaymentRequestFailure _ => "DECODE_PAYMENT_REQUEST_FAILURE"
  | .parsePaymentHashFailure _ => "PARSE_PAYMENT_HASH_FAILURE"
  | .parseOfferFailure _ => "PARSE_OFFER_FAILURE"
  | .parseInvoiceFailure _ => "PARSE_INVOICE_FAILURE"
  | .encodeInvoiceFailure _ => "ENCODE_INVOICE_FAILURE"
  | .invalidAmount _ => "INVALID_AMOUNT"
  | .invalidCurrency => "INVALID_CURRENCY"
  | .alreadyProcessing _ => "ALREADY_PROCESSING"
  | .buildUIRFailure _ => "BUILD_UIR_FAILURE"
  | .signError _ => "SIGN_ERROR"
  | .deriveKeyFailure _ => "DERIVE_KEY_FAILURE"
  | .peerConnectError _ => "PEER_CONNECT_ERROR"
  | .nodeAddressNotFound => "NODE_ADDRESS_NOT_FOUND"
  | .listPeersFailure _ => "LIST_PEERS_FAILURE"
  | .buildBlindedPathFailure => "BUILD_BLINDED_PATH_FAILURE"
  | .routeFailure _ => "ROUTE_FAILURE"
  | .trackFailure _ => "TRACK_FAILURE"
  | .paymentFailure => "PAYMENT_FAILURE"
  | .invoiceTimeout _ => "INVOICE_TIMEOUT"
  | .introductionNodeNotFound => "INTRODUCTION_NODE_NOT_FOUND"
  | .getChannelInfo _ => "GET_CHANNEL_INFO"
  | .listChannelsFailure _ => "LIST_CHANNELS_FAILURE"

def grpcCode : OfferError → Code
  | .invalidAmount _ => .invalidArgument
  | .invalidCurrency => .invalidArgument
  | .parseOfferFailure _ => .invalidArgument
  | .parseInvoiceFailure _ => .invalidArgument
  | .encodeInvoiceFailure _ => .invalidArgument
  | _ => .internal

def display : OfferError → String
  | .alreadyProcessing id => "Payment with id " ++ id.bytes.toHex ++ " already in progress"
  | .buildUIRFailure e => "Failed to build invoice request: " ++ e.debug
  | .signError e => "Failed to sign invoice request: " ++ e
  | .deriveKeyFailure e => "Failed to derive key: " ++ e
  | .invalidAmount e => "Invalid amount: " ++ e
  | .invalidCurrency => "Only bitcoin currency is supported"
  | .peerConnectError e => "Failed to connect to peer: " ++ e
  | .nodeAddressNotFound => "Node address not found"
  | .listPeersFailure e => "Failed to list peers: " ++ e
  | .buildBlindedPathFailure => "Failed to build blinded path"
  | .routeFailure e => "Failed to route payment: " ++ e
  | .trackFailure e => "Failed to track payment: " ++ e
  | .paymentFailure => "Payment failed"
  | .invoiceTimeout e => "Invoice request timed out after " ++ toString e ++ " seconds"
  | .introductionNodeNotFound => "Introduction node not found"
  | .getChannelInfo e => "Failed to get channel info: " ++ e
  | .createOfferFailure e => "Failed to create offer: " ++ e.debug
  | .createOfferTimeFailure => "Invalid offer expiry time"
  | .addInvoiceFailure e => "Failed to add invoice to lnd node: " ++ e
  | .decodePaymentRequestFailure e => "Failed to decode payment request: " ++ e
  | .parsePaymentHashFailure e => "Failed to parse payment hash: " ++ e.quote
  | .parseOfferFailure e => "Invalid offer: must start with 'lno'. Error: " ++ e.debug
  | .parseInvoiceFailure e => "Invalid invoice: must be hex format. Error: " ++ e
  | .listChannelsFailure e => "Error listing channels: " ++ e.quote
  | .encodeInvoiceFailure e => "Failed to encode invoice: " ++ e

def toStatus (error : OfferError) : Status :=
  { code := error.grpcCode, message := error.display, reason := some error.code }

end OfferError

def OfferError.raisedByGetInvoice : OfferError → Bool
  | .alreadyProcessing _ => true
  | .invoiceTimeout _ => true
  | _ => false

/-- The result of a function that `get_invoice` or `pay_invoice` calls. -/
def Ordinary {α : Type} (result : Except OfferError α) : Prop :=
  ∀ e, result = .error e → e.raisedByGetInvoice = false

theorem ordinary_ok {α : Type} (value : α) : Ordinary (.ok value) := nofun

theorem ordinary_error {α : Type} {e : OfferError} (plain : e.raisedByGetInvoice = false) :
    Ordinary (.error e : Except OfferError α) := by
  rintro _ ⟨⟩
  exact plain

inductive LndError where
  | connectError (text : String)
  | networkParseError (network : String)
  | networkNotConnected
  | serviceUnavailable (text : String)
  deriving DecidableEq

namespace LndError

def code : LndError → String
  | .connectError _ => "CONNECT_ERROR"
  | .networkParseError _ => "NETWORK_PARSE_ERROR"
  | .networkNotConnected => "NETWORK_NOT_CONNECTED"
  | .serviceUnavailable _ => "SERVICE_UNAVAILABLE"

def grpcCode : LndError → Code
  | .networkParseError _ => .invalidArgument
  | .connectError _ => .unavailable
  | .networkNotConnected => .unavailable
  | .serviceUnavailable _ => .unavailable

def display : LndError → String
  | .connectError e => "Failed to connect to LND: " ++ e
  | .networkParseError network =>
      "Failed to parse network configuration: invalid network provided: " ++ network ++
        ". Should be mainnet, testnet, signet, or regtest."
  | .networkNotConnected => "LND node is not connected to bitcoin network"
  | .serviceUnavailable e => "LND service is unavailable: " ++ e

def toStatus (error : LndError) : Status :=
  { code := error.grpcCode, message := error.display, reason := some error.code }

end LndError

inductive AuthError where
  | invalidMacaroon (text : String)
  | missingMacaroon
  deriving DecidableEq

namespace AuthError

def code : AuthError → String
  | .invalidMacaroon _ => "INVALID_MACAROON"
  | .missingMacaroon => "MISSING_MACAROON"

def grpcCode : AuthError → Code
  | .invalidMacaroon _ => .invalidArgument
  | .missingMacaroon => .unauthenticated

def display : AuthError → String
  | .invalidMacaroon e => "Invalid macaroon string provided: " ++ e
  | .missingMacaroon =>
      "No LND macaroon provided: Make sure to provide macaroon in request metadata"

def toStatus (error : AuthError) : Status :=
  { code := error.grpcCode, message := error.display, reason := some error.code }

end AuthError

end LndkFormal.Offers
