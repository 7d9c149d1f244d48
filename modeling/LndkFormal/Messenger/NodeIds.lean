import LndkFormal.Server.Rpc

/-!
# Nodes named by a channel

Two lookups turn a short channel id into the key of a node: `get_node_id` for
the introduction node of a blinded path, and `next_node_id` for the messenger
when it forwards along a channel.  LND names the nodes of a channel in hex
text.  Both lookups hand the bytes of that text to the parser of binary keys.
-/

set_option autoImplicit false

namespace LndkFormal.Messenger

open LndkFormal.Async
open LndkFormal.Lnd
open LndkFormal.Ldk
open LndkFormal.Offers
open LndkFormal.Server

/-- `LndkNodeIdLookUp::next_node_id`: the node at the other end of a channel. -/
def nextNodeId (ldk : Library) (ourNodeId : PublicKey) (shortChannelId : UInt64) :
    Prog Sig (Option PublicKey) := do
  match ← ask (.getChanInfo shortChannelId) with
  | .error _ => return none
  | .ok channelInfo =>
      let pubkey :=
        if channelInfo.node1Pub == ldk.publicKeyToString ourNodeId then channelInfo.node2Pub
        else channelInfo.node1Pub
      return ldk.publicKeyFromSlice pubkey.toUTF8.toList

theorem toList_loop_length (bytes : ByteArray) (i : Nat) (read : List UInt8) :
    (ByteArray.toList.loop bytes i read).length = read.length + (bytes.size - i) := by
  fun_induction ByteArray.toList.loop bytes i read with
  | case1 i read inside ih =>
      rw [ih, List.length_cons]
      omega
  | case2 i read outside =>
      rw [List.length_reverse]
      omega

theorem toUTF8_toList_length (text : String) :
    text.toUTF8.toList.length = (text.toList.flatMap String.utf8EncodeChar).length := by
  have size : text.toUTF8.toList.length = text.toUTF8.size := by
    simpa [ByteArray.toList] using toList_loop_length text.toUTF8 0 []
  conv_lhs => rw [size, ← String.ofList_toList (s := text), String.toUTF8_eq_toByteArray,
    String.toByteArray_ofList]
  simp [List.utf8Encode]

theorem digitChar_utf8Size {digit : Nat} (small : digit < 16) :
    (Nat.digitChar digit).utf8Size = 1 := by
  revert digit
  decide

theorem hexEncode_utf8_length (bytes : List UInt8) :
    (hexEncode bytes).toUTF8.toList.length = 2 * bytes.length := by
  rw [toUTF8_toList_length, hexEncode, String.toList_ofList]
  induction bytes with
  | nil => rfl
  | cons byte rest ih =>
      have bound := byte.toNat_lt
      have high : (Nat.digitChar (byte.toNat / 16)).utf8Size = 1 := digitChar_utf8Size (by omega)
      have low : (Nat.digitChar (byte.toNat % 16)).utf8Size = 1 := digitChar_utf8Size (by omega)
      simp only [List.flatMap_cons, List.flatMap_append, List.length_append, List.length_cons,
        List.flatMap_nil, String.length_utf8EncodeChar, high, low, ih, List.length_nil]
      omega

/-! ## What the lookups find -/

/-- What secp256k1 documents about keys: the binary parser takes compressed and
uncompressed keys, and the text of a key is its hex. -/
structure KeyRules (ldk : Library) : Prop where
  fromSlice : ∀ bytes key, ldk.publicKeyFromSlice bytes = some key →
    bytes.length = 33 ∨ bytes.length = 65
  fromStr : ∀ key, ldk.publicKeyFromStr (hexEncode key.bytes) = some key
  toString : ∀ key, ldk.publicKeyToString key = hexEncode key.bytes

structure Between (channelInfo : ChannelEdge) (first second : PublicKey) : Prop where
  node1 : channelInfo.node1Pub = hexEncode first.bytes
  node2 : channelInfo.node2Pub = hexEncode second.bytes

section Lookups

variable (ldk : Library) (scid : UInt64) (channelInfo : ChannelEdge)

/-- `get_node_id` finds this key when LND reports the channel. -/
def FindsNode (direction : Direction) (key : PublicKey) : Prop :=
  Reaches (getNodeId ldk scid direction) [.call (.getChanInfo scid) (.ok channelInfo)]
    (.ret (.ok key))

def FindsNext (ourNodeId key : PublicKey) : Prop :=
  Reaches (nextNodeId ldk ourNodeId scid) [.call (.getChanInfo scid) (.ok channelInfo)]
    (.ret (some key))

structure Resolves (ourNodeId first second : PublicKey) : Prop where
  one : FindsNode ldk scid channelInfo .nodeOne first
  two : FindsNode ldk scid channelInfo .nodeTwo second
  fromFirst : ourNodeId = first → FindsNext ldk scid channelInfo ourNodeId second
  fromSecond : ourNodeId = second → FindsNext ldk scid channelInfo ourNodeId first

end Lookups

section Unresolved

variable {ldk : Library} {channelInfo : ChannelEdge} {first second : PublicKey}

/-- The text of a key is 66 bytes long, which is no length of a binary key. -/
theorem KeyRules.fromSlice_hex (rules : KeyRules ldk) (key : PublicKey) :
    ldk.publicKeyFromSlice (hexEncode key.bytes).toUTF8.toList = none := by
  cases parsed : ldk.publicKeyFromSlice (hexEncode key.bytes).toUTF8.toList with
  | none => rfl
  | some other =>
      have length := rules.fromSlice _ _ parsed
      rw [hexEncode_utf8_length, key.length] at length
      omega

theorem KeyRules.fromSlice_endpoint (rules : KeyRules ldk)
    (between : Between channelInfo first second) (direction : Direction) :
    ldk.publicKeyFromSlice (endpoint channelInfo direction).toUTF8.toList = none := by
  cases direction with
  | nodeOne =>
      rw [endpoint, between.node1]
      exact rules.fromSlice_hex first
  | nodeTwo =>
      rw [endpoint, between.node2]
      exact rules.fromSlice_hex second

theorem KeyRules.getNodeId_fails (rules : KeyRules ldk) (between : Between channelInfo first second)
    (scid : UInt64) (direction : Direction) :
    Reaches (getNodeId ldk scid direction) [.call (.getChanInfo scid) (.ok channelInfo)]
      (.ret (.error .introductionNodeNotFound)) := by
  have reported : Reaches (getNodeIdFromScid scid direction)
      [.call (.getChanInfo scid) (.ok channelInfo)]
      (.ret (.ok (endpoint channelInfo direction))) := by
    cases direction <;> exact .call _ (.refl _)
  refine reported.bind ?_
  dsimp only
  rw [rules.fromSlice_endpoint between direction]
  exact .refl _

theorem KeyRules.nextNodeId_fails (rules : KeyRules ldk)
    (between : Between channelInfo first second) (scid : UInt64) (ourNodeId : PublicKey) :
    Reaches (nextNodeId ldk ourNodeId scid) [.call (.getChanInfo scid) (.ok channelInfo)]
      (.ret none) := by
  have unparsed : ldk.publicKeyFromSlice
      (if channelInfo.node1Pub == ldk.publicKeyToString ourNodeId then channelInfo.node2Pub
        else channelInfo.node1Pub).toUTF8.toList = none := by
    split
    · exact rules.fromSlice_endpoint between .nodeTwo
    · exact rules.fromSlice_endpoint between .nodeOne
  rw [← unparsed]
  exact .call _ (.refl _)

end Unresolved

def hexLibrary : Library :=
  { Library.plain .twoPaths with
    publicKeyFromStr := fun text =>
      (hexDecodeChars text.toList).bind (Library.plain .twoPaths).publicKeyFromSlice
    publicKeyToString := fun key => hexEncode key.bytes }

theorem hexLibrary_keyRules : KeyRules hexLibrary where
  fromSlice bytes key parsed := by
    simp only [hexLibrary, Library.plain] at parsed
    split at parsed
    next length => exact Or.inl length
    next => cases parsed
  fromStr key := by
    simp [hexLibrary, hexDecodeChars_hexEncode, Library.plain, key.length]
  toString _ := rfl

def channelBetween (first second : PublicKey) : ChannelEdge :=
  ⟨5, hexEncode first.bytes, hexEncode second.bytes⟩

/-- Neither lookup ever finds a node: what LND reports is not what they parse. -/
theorem channel_unresolved (ldk : Library) (rules : KeyRules ldk) (scid : UInt64)
    (channelInfo : ChannelEdge) (first second : PublicKey)
    (between : Between channelInfo first second) :
    (∀ direction key, ¬ FindsNode ldk scid channelInfo direction key) ∧
      ∀ ourNodeId key, ¬ FindsNext ldk scid channelInfo ourNodeId key := by
  refine ⟨?_, ?_⟩
  · intro direction key found
    cases found.unique (rules.getNodeId_fails between scid direction)
  · intro ourNodeId key found
    cases found.unique (rules.nextNodeId_fails between scid ourNodeId)

theorem channel_unresolved_sample :
    KeyRules hexLibrary ∧
      Between (channelBetween (.repeated 2) (.repeated 3)) (.repeated 2) (.repeated 3) ∧
      ¬ FindsNode hexLibrary 5 (channelBetween (.repeated 2) (.repeated 3)) .nodeOne
        (.repeated 2) ∧
      ¬ FindsNext hexLibrary 5 (channelBetween (.repeated 2) (.repeated 3)) (.repeated 2)
        (.repeated 3) := by
  have unresolved := channel_unresolved hexLibrary hexLibrary_keyRules 5
    (channelBetween (.repeated 2) (.repeated 3)) _ _ ⟨rfl, rfl⟩
  exact ⟨hexLibrary_keyRules, ⟨rfl, rfl⟩, unresolved.1 _ _, unresolved.2 _ _⟩

theorem channel_not_resolves :
    ¬ ∀ (ldk : Library) (ourNodeId first second : PublicKey) (scid : UInt64)
        (channelInfo : ChannelEdge), KeyRules ldk → Between channelInfo first second →
      Resolves ldk scid channelInfo ourNodeId first second := by
  intro claim
  have between : Between (channelBetween (.repeated 2) (.repeated 3)) (.repeated 2) (.repeated 3) :=
    ⟨rfl, rfl⟩
  have resolves := claim hexLibrary (.repeated 2) _ _ 5 _ hexLibrary_keyRules between
  cases resolves.one.unique (hexLibrary_keyRules.getNodeId_fails between 5 .nodeOne)

end LndkFormal.Messenger
