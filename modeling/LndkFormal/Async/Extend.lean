import LndkFormal.Async.Prog

/-!
# Programs over a larger signature

A program also runs where more requests can be made than it makes itself.
`reaches_lift_bind` is the rule for such a program inside a larger one: either
its own run is still going on, or it is over and the rest follows.
-/

set_option autoImplicit false

namespace LndkFormal.Async

abbrev Signature.extend (sig : Signature) (Extra : Type) (Reply : Extra → Type) : Signature where
  Access := sig.Access
  AccessReply := sig.AccessReply
  Call := sig.Call ⊕ Extra
  CallReply := Sum.elim sig.CallReply Reply

variable {sig : Signature} {Extra : Type} {Reply : Extra → Type} {α β : Type}

def Event.lift : Event sig → Event (sig.extend Extra Reply)
  | .access op reply => .access op reply
  | .call request reply => .call (.inl request) reply

def Prog.lift : Prog sig α → Prog (sig.extend Extra Reply) α
  | .ret value => .ret value
  | .panic message => .panic message
  | .access op next => .access op fun reply => (next reply).lift
  | .call request next => .call (.inl request) fun reply => (next reply).lift

/-- The program has not come to its value: it runs on, or it has panicked. -/
def Prog.Open : Prog sig α → Prop
  | .ret _ => False
  | _ => True

theorem Prog.Open.not_ret {p : Prog sig α} {value : α} (unfinished : p.Open) :
    p ≠ .ret value := by
  rintro rfl
  exact unfinished

/-- A trace of a lifted program, then the rest, is such a trace followed by one of the rest. -/
theorem reaches_lift_bind {p : Prog sig α} {k : α → Prog (sig.extend Extra Reply) β}
    {trace : List (Event (sig.extend Extra Reply))} {rest : Prog (sig.extend Extra Reply) β}
    (run : Reaches (p.lift >>= k) trace rest) :
    (∃ own left, trace = own.map Event.lift ∧ Reaches p own left ∧ left.Open ∧
      rest = left.lift >>= k) ∨
    ∃ own value later, trace = own.map Event.lift ++ later ∧ Reaches p own (.ret value) ∧
      Reaches (k value) later rest := by
  induction p generalizing trace with
  | ret value => exact .inr ⟨[], value, trace, rfl, .refl _, run⟩
  | panic message =>
    cases run
    exact .inl ⟨[], _, rfl, .refl _, trivial, rfl⟩
  | access op next ih =>
    cases run with
    | refl => exact .inl ⟨[], _, rfl, .refl _, trivial, rfl⟩
    | access reply later =>
      rcases ih reply later with ⟨own, left, rfl, went, unfinished, rfl⟩ |
        ⟨own, value, after, rfl, went, onward⟩
      · exact .inl ⟨.access op reply :: own, left, rfl, .access _ went, unfinished, rfl⟩
      · exact .inr ⟨.access op reply :: own, value, after, rfl, .access _ went, onward⟩
  | call request next ih =>
    cases run with
    | refl => exact .inl ⟨[], _, rfl, .refl _, trivial, rfl⟩
    | call reply later =>
      rcases ih reply later with ⟨own, left, rfl, went, unfinished, rfl⟩ |
        ⟨own, value, after, rfl, went, onward⟩
      · exact .inl ⟨.call request reply :: own, left, rfl, .call _ went, unfinished, rfl⟩
      · exact .inr ⟨.call request reply :: own, value, after, rfl, .call _ went, onward⟩

end LndkFormal.Async
