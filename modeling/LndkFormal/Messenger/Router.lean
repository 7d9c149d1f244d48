import LndkFormal.Offers.LndRequests

/-!
# The message router

LDK asks for a path before it sends an onion message.  LNDK sends directly to the first
node of the destination: to a peer, or to a node that LND knows an address of.
-/

set_option autoImplicit false

namespace LndkFormal.Messenger

open LndkFormal.Async
open LndkFormal.Ldk
open LndkFormal.Lnd
open LndkFormal.Offers

structure SocketAddress where
  text : String
  deriving DecidableEq

structure OnionMessagePath where
  intermediateNodes : List PublicKey
  destination : Destination
  firstNodeAddresses : Option (List SocketAddress)
  deriving DecidableEq

/-- The node is not looked up if it is given by a channel. -/
def getFirstNode : Destination → Option PublicKey
  | .node nodeId => some nodeId
  | .blindedPath path =>
      match path.introductionNode with
      | .nodeId pubkey => some pubkey
      | .directedShortChannelId _ _ => none

section Router

variable (ldk : Library) (parseAddress : String → Option SocketAddress)

def findPath (sender : PublicKey) (peers : List PublicKey) (destination : Destination) :
    Prog Sig (Except Unit OnionMessagePath) :=
  match getFirstNode destination with
  | none => .ret (.error ())
  | some firstNode =>
      if peers.contains firstNode || sender == firstNode then
        .ret (.ok ⟨[], destination, none⟩)
      else do
        match ← ask (.getNodeInfo (ldk.publicKeyToString firstNode) false) with
        | .error _ => return .error ()
        | .ok nodeInfo =>
            match nodeInfo.node with
            | none => return .error ()
            | some node =>
                if !node.addresses.isEmpty && featuresSupportOnionMessages node.features then
                  let addresses := node.addresses.filterMap fun address =>
                    parseAddress address.addr
                  if addresses.isEmpty then return .error ()
                  else return .ok ⟨[], destination, some addresses⟩
                else return .error ()

/-- LND knows the node, that it takes onion messages, and these addresses of it, of which
there is one. -/
def Advertised (addresses : List SocketAddress) : Except Status NodeInfo → Prop
  | .ok ⟨some node, _⟩ => featuresSupportOnionMessages node.features = true ∧ addresses ≠ [] ∧
      node.addresses.filterMap (fun address => parseAddress address.addr) = addresses
  | _ => False

/-- A peer, and the node itself, is sent to at once; for any other node LND is asked once, and
what it advertises decides. -/
inductive FoundPath (sender : PublicKey) (peers : List PublicKey) (destination : Destination)
    (node : PublicKey) : List (Event Sig) → Except Unit OnionMessagePath → Prop where
  | direct (near : node ∈ peers ∨ sender = node) :
      FoundPath sender peers destination node [] (.ok ⟨[], destination, none⟩)
  | asked (far : node ∉ peers ∧ sender ≠ node) (reply : Except Status NodeInfo)
      (result : Except Unit OnionMessagePath)
      (advertised : ∀ path, result = .ok path ↔ ∃ addresses,
        Advertised parseAddress addresses reply ∧ path = ⟨[], destination, some addresses⟩) :
      FoundPath sender peers destination node
        [.call (.getNodeInfo (ldk.publicKeyToString node) false) reply] result

variable {ldk parseAddress} {sender : PublicKey} {peers : List PublicKey}
  {destination : Destination}

theorem findPath_answered {node : PublicKey} (first : getFirstNode destination = some node)
    (far : node ∉ peers ∧ sender ≠ node) {trace : List (Event Sig)}
    {result : Except Unit OnionMessagePath}
    (run : Reaches (findPath ldk parseAddress sender peers destination) trace (.ret result)) :
    FoundPath ldk parseAddress sender peers destination node trace result := by
  have asks : (peers.contains node || sender == node) = false := by simp [far.1, far.2]
  simp only [findPath, first, asks, Bool.false_eq_true, if_false] at run
  obtain ⟨reply, later, rfl, rest⟩ := reaches_request_bind run
  have refused : ∀ reply : Except Status NodeInfo,
      (∀ addresses, ¬ Advertised parseAddress addresses reply) →
      FoundPath ldk parseAddress sender peers destination node
        [.call (.getNodeInfo (ldk.publicKeyToString node) false) reply] (.error ()) := by
    intro reply never
    refine .asked far reply _ fun path => ⟨fun impossible => (by cases impossible), ?_⟩
    rintro ⟨addresses, advertised, _⟩
    exact absurd advertised (never addresses)
  rcases reply with e | ⟨_ | node', channels⟩
  · cases rest
    exact refused _ fun _ => id
  · cases rest
    exact refused _ fun _ => id
  · change Reaches (ite _ _ _) _ _ at rest
    split at rest
    next suited =>
      rw [Bool.and_eq_true] at suited
      split at rest
      next none =>
        cases rest
        refine refused _ ?_
        rintro addresses ⟨_, some_address, same⟩
        exact some_address (same.symm.trans (List.isEmpty_iff.mp none))
      next some_address =>
        cases rest
        refine .asked far _ _ fun path => ⟨?_, ?_⟩
        · intro same
          cases same
          exact ⟨_, ⟨suited.2, mt List.isEmpty_iff.mpr some_address, rfl⟩, rfl⟩
        · rintro ⟨addresses, ⟨_, _, rfl⟩, rfl⟩
          rfl
    next unsuited =>
      cases rest
      refine refused _ ?_
      rintro addresses ⟨supported, some_address, same⟩
      refine unsuited ?_
      have listed : node'.addresses ≠ [] := by
        intro none
        rw [none] at same
        exact some_address same.symm
      simp [supported, listed]

theorem findPath_found {node : PublicKey} (first : getFirstNode destination = some node)
    {trace : List (Event Sig)} {result : Except Unit OnionMessagePath}
    (run : Reaches (findPath ldk parseAddress sender peers destination) trace (.ret result)) :
    FoundPath ldk parseAddress sender peers destination node trace result := by
  by_cases near : node ∈ peers ∨ sender = node
  · have here : (peers.contains node || sender == node) = true := by simpa using near
    simp only [findPath, first, here, if_true] at run
    cases run
    exact .direct near
  · exact findPath_answered first (not_or.mp near) run

end Router

end LndkFormal.Messenger
