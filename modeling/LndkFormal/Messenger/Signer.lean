import LndkFormal.Async.Prog
import LndkFormal.Ldk.Values
import LndkFormal.Lnd.Messages
import Mathlib.Algebra.Field.ZMod
import Mathlib.Algebra.Module.Basic

/-!
# The node signer

LDK peels onion messages with secrets shared between the node and the sender.  LND keeps the
node's secret key, so that LNDK cannot multiply it with LDK's tweak and multiplies the other
party's key instead.
-/

set_option autoImplicit false

namespace LndkFormal.Messenger

open LndkFormal.Async
open LndkFormal.Ldk
open LndkFormal.Lnd

inductive Recipient where
  | node
  | phantomNode
  deriving DecidableEq

/-- LND uses the node's own key if the request describes no other. -/
structure SharedKeyRequest where
  ephemeralPubkey : List UInt8
  keyDesc : Option (List UInt8)
  deriving DecidableEq

structure SharedSecret where
  bytes : List UInt8
  length : bytes.length = 32
  deriving DecidableEq

def SharedSecret.fromSlice (bytes : List UInt8) : Option SharedSecret :=
  if length : bytes.length = 32 then some ⟨bytes, length⟩ else none

abbrev SignerSig : Signature where
  Access := Empty
  AccessReply := Empty.elim
  Call := SharedKeyRequest
  CallReply _ := Except Status (List UInt8)

abbrev deriveSharedKey (request : SharedKeyRequest) :
    Prog SignerSig (Except Status (List UInt8)) := @Prog.request SignerSig request

section Source

variable {Scalar : Type} (mulTweak : PublicKey → Scalar → Option PublicKey)

def askSharedKey (tweakedKey : PublicKey) : Prog SignerSig (Option SharedSecret) := do
  match ← deriveSharedKey ⟨tweakedKey.bytes, none⟩ with
  | .error _ => return none
  | .ok sharedKey => return SharedSecret.fromSlice sharedKey

def ecdh (recipient : Recipient) (otherKey : PublicKey) (tweak : Option Scalar) :
    Prog SignerSig (Option SharedSecret) :=
  match recipient with
  | .phantomNode => .ret none
  | .node =>
      match tweak with
      | none => askSharedKey otherKey
      | some tweak =>
          match mulTweak otherKey tweak with
          | none => .ret none
          | some tweakedKey => askSharedKey tweakedKey

end Source

/-! ## Keys as points -/

section Points

variable {F P : Type} [Field F] [AddCommGroup P] [Module F P]

structure Curve (F P : Type) [Field F] [AddCommGroup P] [Module F P] where
  point : PublicKey → P
  hash : P → SharedSecret
  mulTweak : PublicKey → F → Option PublicKey
  /-- There is no key for the point at infinity. -/
  mulTweak_none : ∀ key tweak, mulTweak key tweak = none ↔ tweak = 0
  mulTweak_point : ∀ key tweak tweaked, mulTweak key tweak = some tweaked →
    point tweaked = tweak • point key

variable (curve : Curve F P)

/-- A signer that holds the node's secret key and multiplies that with the tweak. -/
def localEcdh [DecidableEq F] (nodeSecret : F) (recipient : Recipient) (otherKey : PublicKey)
    (tweak : Option F) : Option SharedSecret :=
  match recipient, tweak with
  | .phantomNode, _ => none
  | .node, none => some (curve.hash (nodeSecret • curve.point otherKey))
  | .node, some tweak =>
      if tweak = 0 then none
      else some (curve.hash ((nodeSecret * tweak) • curve.point otherKey))

/-- LND's `DeriveSharedKey` with the node's own key; it may fail. -/
def Derives (nodeSecret : F) : Event SignerSig → Prop
  | .call request (.ok secret) => request.keyDesc = none →
      ∀ key, key.bytes = request.ephemeralPubkey →
        secret = (curve.hash (nodeSecret • curve.point key)).bytes
  | _ => True

def failed : Event SignerSig → Bool
  | .call _ (.error _) => true
  | _ => false

variable {curve} {nodeSecret : F}

theorem SharedSecret.fromSlice_bytes (secret : SharedSecret) :
    SharedSecret.fromSlice secret.bytes = some secret := by
  unfold SharedSecret.fromSlice
  rw [dif_pos secret.length]

theorem askSharedKey_secret {key : PublicKey} {trace : List (Event SignerSig)}
    {result : Option SharedSecret} (run : Reaches (askSharedKey key) trace (.ret result))
    (derives : ∀ event ∈ trace, Derives curve nodeSecret event) :
    trace.length = 1 ∧ result = if trace.any failed then none
      else some (curve.hash (nodeSecret • curve.point key)) := by
  obtain ⟨reply, later, rfl, rest⟩ := reaches_request_bind run
  cases reply with
  | error status =>
      cases rest
      exact ⟨rfl, rfl⟩
  | ok secret =>
      have same := derives _ (.head _) rfl key rfl
      cases rest
      refine ⟨rfl, ?_⟩
      rw [same, SharedSecret.fromSlice_bytes]
      rfl

/-- The tweak on the other key is the tweak on the node's own secret. -/
theorem hash_mulTweak {key tweaked : PublicKey} {tweak : F}
    (multiplied : curve.mulTweak key tweak = some tweaked) :
    curve.hash (nodeSecret • curve.point tweaked) =
      curve.hash ((nodeSecret * tweak) • curve.point key) := by
  rw [curve.mulTweak_point key tweak tweaked multiplied, smul_smul]

theorem ecdh_local [DecidableEq F] {recipient : Recipient} {otherKey : PublicKey}
    {tweak : Option F} {trace : List (Event SignerSig)} {result : Option SharedSecret}
    (run : Reaches (ecdh curve.mulTweak recipient otherKey tweak) trace (.ret result))
    (derives : ∀ event ∈ trace, Derives curve nodeSecret event) :
    trace.length ≤ 1 ∧ result = if trace.any failed then none
      else localEcdh curve nodeSecret recipient otherKey tweak := by
  cases recipient with
  | phantomNode =>
      cases run
      exact ⟨Nat.zero_le _, rfl⟩
  | node =>
      cases tweak with
      | none =>
          obtain ⟨once, same⟩ := askSharedKey_secret run derives
          exact ⟨once.le, same⟩
      | some tweak =>
          change Reaches (match curve.mulTweak otherKey tweak with
            | none => .ret none
            | some tweakedKey => askSharedKey tweakedKey) trace (.ret result) at run
          split at run
          next infinity =>
            cases run
            have zero := (curve.mulTweak_none otherKey tweak).mp infinity
            exact ⟨Nat.zero_le _, by simp [localEcdh, zero]⟩
          next tweakedKey multiplied =>
            have nonzero : tweak ≠ 0 := by
              rw [ne_eq, ← curve.mulTweak_none otherKey tweak, multiplied]
              simp
            obtain ⟨once, same⟩ := askSharedKey_secret run derives
            rw [hash_mulTweak multiplied] at same
            exact ⟨once.le, by rw [same, localEcdh, if_neg nonzero]⟩

theorem localEcdh_sender [DecidableEq F] {recipient : Recipient} {otherKey : PublicKey}
    {tweak : Option F} {secret : SharedSecret} {base : P} {otherSecret : F}
    (known : curve.point otherKey = otherSecret • base)
    (shared : localEcdh curve nodeSecret recipient otherKey tweak = some secret) :
    secret = curve.hash (otherSecret • tweak.getD 1 • nodeSecret • base) := by
  unfold localEcdh at shared
  split at shared
  · cases shared
  · cases shared
    rw [known, Option.getD_none, one_smul, smul_comm]
  next tweak =>
    split at shared
    · cases shared
    · cases shared
      rw [known, Option.getD_some, smul_smul, smul_smul, smul_smul]
      congr 2
      rw [mul_comm, mul_comm nodeSecret tweak, mul_assoc]

/-- LNDK's signer is the one that holds the secret key itself, unless LND fails: it makes at
most one request, refuses what that one refuses and returns the secret that the sender has. -/
theorem ecdh_shared [DecidableEq F] (curve : Curve F P) (nodeSecret : F) (recipient : Recipient)
    (otherKey : PublicKey) (tweak : Option F) (trace : List (Event SignerSig))
    (result : Option SharedSecret)
    (run : Reaches (ecdh curve.mulTweak recipient otherKey tweak) trace (.ret result))
    (derives : ∀ event ∈ trace, Derives curve nodeSecret event) :
    trace.length ≤ 1 ∧
      (trace.any failed = false →
        result = localEcdh curve nodeSecret recipient otherKey tweak) ∧
      ∀ secret, result = some secret →
        ∀ (base : P) (otherSecret : F), curve.point otherKey = otherSecret • base →
          secret = curve.hash (otherSecret • tweak.getD 1 • nodeSecret • base) := by
  obtain ⟨once, same⟩ := ecdh_local run derives
  refine ⟨once, fun fine => by simpa [fine] using same, ?_⟩
  intro secret returned base otherSecret known
  rw [returned] at same
  split at same
  · cases same
  · exact localEcdh_sender known same.symm

end Points

def smallPoint (key : PublicKey) : ZMod 3 := if key = .repeated 3 then 2 else 1

def smallKey (point : ZMod 3) : Option PublicKey :=
  if point = 0 then none else if point = 2 then some (.repeated 3) else some (.repeated 2)

theorem smallPoint_ne_zero (key : PublicKey) : smallPoint key ≠ 0 := by
  unfold smallPoint
  split <;> decide

theorem smallKey_none : ∀ point, smallKey point = none ↔ point = 0 := by decide

theorem smallPoint_smallKey (point : ZMod 3) {key : PublicKey}
    (found : smallKey point = some key) : smallPoint key = point := by
  have all : ∀ point, ((smallKey point).map smallPoint).getD point = point := by decide
  simpa [found] using all point

def smallCurve : Curve (ZMod 3) (ZMod 3) where
  point := smallPoint
  hash point := ⟨List.replicate 32 (UInt8.ofNat point.val), by simp⟩
  mulTweak key tweak := smallKey (tweak • smallPoint key)
  mulTweak_none key tweak := by
    rw [smallKey_none, smul_eq_zero, or_iff_left (smallPoint_ne_zero key)]
  mulTweak_point key tweak tweaked multiplied := smallPoint_smallKey _ multiplied

theorem ecdh_shared_small :
    ∃ (trace : List (Event SignerSig)) (secret : SharedSecret),
      Reaches (ecdh smallCurve.mulTweak .node (.repeated 2) (some 2)) trace (.ret (some secret)) ∧
      secret = smallCurve.hash ((1 : ZMod 3) • (2 : ZMod 3) • (2 : ZMod 3) • (1 : ZMod 3)) := by
  have run : Reaches (ecdh smallCurve.mulTweak .node (.repeated 2) (some 2))
      [.call ⟨(PublicKey.repeated 3).bytes, none⟩ (.ok (List.replicate 32 1))]
      (.ret (some ⟨List.replicate 32 1, by decide⟩)) := .call _ (.refl _)
  refine ⟨_, _, run, ?_⟩
  refine (ecdh_shared smallCurve 2 .node (.repeated 2) (some 2) _ _ run ?_).2.2 _ rfl 1 1 ?_
  · intro event member
    rw [List.mem_singleton.mp member]
    rintro _ key same
    obtain rfl : key = .repeated 3 := by
      cases key
      cases same
      rfl
    decide
  · decide

end LndkFormal.Messenger
