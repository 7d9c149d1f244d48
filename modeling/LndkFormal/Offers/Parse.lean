import LndkFormal.Offers.Error

/-!
# Offers, destinations and amounts

`validate_amount` is shared by offers and invoices.  Its result is split once,
by what the object sets and what the user asks for.
-/

set_option autoImplicit false

namespace LndkFormal.Offers

open LndkFormal.Ldk

def decode (ldk : Library) (offerStr : String) : Except OfferError Offer :=
  match ldk.offerFromStr offerStr with
  | .ok offer => .ok offer
  | .error e => .error (.parseOfferFailure e)

def getDestination (offer : Offer) : Except OfferError Destination :=
  match offer.paths with
  | [] =>
      match offer.issuerSigningPubkey with
      | some signingPubkey => .ok (.node signingPubkey)
      | none => .error .introductionNodeNotFound
  | path :: _ => .ok (.blindedPath path)

def validateAmount (offerAmountMsats : Option Amount) (payAmountMsats : Option UInt64) :
    Except OfferError UInt64 :=
  match offerAmountMsats with
  | some (.bitcoin bitcoinAmt) =>
      if bitcoinAmt = 0 then
        .error (.invalidAmount
          "Offer has amount explicitly set to 0, which is invalid per BOLT 12 spec")
      else
        match payAmountMsats with
        | some msats =>
            if msats < bitcoinAmt then
              .error (.invalidAmount
                (toString msats ++ " is less than offer amount " ++ toString bitcoinAmt))
            else .ok msats
        | none => .ok bitcoinAmt
  | some (.currency _ _) => .error .invalidCurrency
  | none =>
      match payAmountMsats with
      | some msats => .ok msats
      | none =>
          .error (.invalidAmount "Offer doesn't set an amount, so user must specify one")

theorem decode_ordinary (ldk : Library) (text : String) : Ordinary (decode ldk text) := by
  unfold decode
  split
  · exact ordinary_ok _
  · exact ordinary_error rfl

theorem getDestination_ordinary (offer : Offer) : Ordinary (getDestination offer) := by
  unfold getDestination
  repeat' split
  all_goals first | exact ordinary_ok _ | exact ordinary_error rfl

theorem validateAmount_ordinary (set : Option Amount) (asked : Option UInt64) :
    Ordinary (validateAmount set asked) := by
  unfold validateAmount
  repeat' split
  all_goals first | exact ordinary_ok _ | exact ordinary_error rfl

theorem validateAmount_ok_iff (set : Option Amount) (asked : Option UInt64) (amount : UInt64) :
    validateAmount set asked = .ok amount ↔
      (set = none ∧ asked = some amount) ∨
      (∃ least, set = some (.bitcoin least) ∧ least ≠ 0 ∧
        ((asked = none ∧ amount = least) ∨ (asked = some amount ∧ least ≤ amount))) := by
  rcases set with _ | ⟨least⟩ | ⟨code, value⟩
  · cases asked <;> simp [validateAmount]
  · by_cases zero : least = 0
    · simp [validateAmount, zero]
    · cases asked with
      | none =>
          simp only [validateAmount, if_neg zero, Except.ok.injEq]
          constructor
          · rintro rfl
            exact Or.inr ⟨least, rfl, zero, Or.inl ⟨trivial, rfl⟩⟩
          · rintro (⟨impossible, _⟩ | ⟨other, same, _, ⟨_, rfl⟩ | ⟨impossible, _⟩⟩)
            · cases impossible
            · cases same; rfl
            · cases impossible
      | some msats =>
          by_cases short : msats < least
          · simp only [validateAmount, if_neg zero, if_pos short]
            constructor
            · intro impossible; cases impossible
            · rintro (⟨impossible, _⟩ | ⟨other, same, _, ⟨impossible, _⟩ | ⟨equal, enough⟩⟩)
              · cases impossible
              · cases impossible
              · cases same
                cases equal
                exact absurd short (UInt64.not_lt.mpr enough)
          · simp only [validateAmount, if_neg zero, if_neg short, Except.ok.injEq]
            constructor
            · rintro rfl
              exact Or.inr ⟨least, rfl, zero, Or.inr ⟨rfl, UInt64.not_lt.mp short⟩⟩
            · rintro (⟨impossible, _⟩ | ⟨other, same, _, ⟨impossible, _⟩ | ⟨equal, _⟩⟩)
              · cases impossible
              · cases impossible
              · cases equal; rfl
  · cases asked <;> simp [validateAmount]

end LndkFormal.Offers
