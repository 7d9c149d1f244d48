import LndkFormal.Async.Prog

/-!
# Programs that act on a state outside them

The critical sections of a program act on a state that outlives it, each in one
of several ways.  `Executes` runs a program for some steps, so that a program may
stop after any of them.  `Ensures` is a Hoare logic with a condition for every
moment at which it may stop, besides the one for the value it returns.
-/

set_option autoImplicit false

namespace LndkFormal.Async

variable {sig : Signature} {S α : Type}

abbrev Effect (sig : Signature) (S : Type) :=
  (op : sig.Access) → S → sig.AccessReply op → S → Prop

/-- `Executes effect p s log q t`: the events of `log` take `p` in state `s` to `q` in
state `t`. -/
inductive Executes (effect : Effect sig S) :
    Prog sig α → S → List (Event sig) → Prog sig α → S → Prop where
  | refl (p : Prog sig α) (s : S) : Executes effect p s [] p s
  | access {op : sig.Access} {next : sig.AccessReply op → Prog sig α}
      {reply : sig.AccessReply op} {s middle t : S} {log : List (Event sig)} {q : Prog sig α}
      (acts : effect op s reply middle) (rest : Executes effect (next reply) middle log q t) :
      Executes effect (.access op next) s (.access op reply :: log) q t
  | call {request : sig.Call} {next : sig.CallReply request → Prog sig α}
      (reply : sig.CallReply request) {s t : S} {log : List (Event sig)} {q : Prog sig α}
      (rest : Executes effect (next reply) s log q t) :
      Executes effect (.call request next) s (.call request reply :: log) q t

variable {effect : Effect sig S} {s t : S} {log : List (Event sig)}

namespace Prog

variable {stops : List (Event sig) → S → Prop} {post : α → List (Event sig) → S → Prop}
  {past : List (Event sig)}

/-- `stops` holds of the events and the state wherever the program may stop, and `post` of every
value it returns. -/
def Ensures (effect : Effect sig S) (stops : List (Event sig) → S → Prop)
    (post : α → List (Event sig) → S → Prop) : List (Event sig) → S → Prog sig α → Prop
  | past, s, .ret value => stops past s ∧ post value past s
  | past, s, .panic _ => stops past s
  | past, s, .access op next => stops past s ∧ ∀ reply t, effect op s reply t →
      Ensures effect stops post (past ++ [.access op reply]) t (next reply)
  | past, s, .call request next => stops past s ∧ ∀ reply,
      Ensures effect stops post (past ++ [.call request reply]) s (next reply)

theorem ensures_access {op : sig.Access} {next : sig.AccessReply op → Prog sig α}
    (here : stops past s) (onward : ∀ reply t, effect op s reply t →
      Ensures effect stops post (past ++ [.access op reply]) t (next reply)) :
    Ensures effect stops post past s (.access op next) := ⟨here, onward⟩

theorem ensures_call {request : sig.Call} {next : sig.CallReply request → Prog sig α}
    (here : stops past s) (onward : ∀ reply,
      Ensures effect stops post (past ++ [.call request reply]) s (next reply)) :
    Ensures effect stops post past s (.call request next) := ⟨here, onward⟩

theorem Ensures.here {p : Prog sig α} (ensured : Ensures effect stops post past s p) :
    stops past s := by
  cases p with
  | panic message => exact ensured
  | _ => exact ensured.1

theorem Ensures.bind {β : Type} {mid : α → List (Event sig) → S → Prop}
    {post : β → List (Event sig) → S → Prop} {p : Prog sig α} {k : α → Prog sig β}
    (first : Ensures effect stops mid past s p)
    (second : ∀ value later t, stops later t → mid value later t →
      Ensures effect stops post later t (k value)) :
    Ensures effect stops post past s (p >>= k) := by
  induction p generalizing past s with
  | ret value => exact second value past s first.1 first.2
  | panic message => exact first
  | access op next ih =>
      exact ensures_access first.1 fun reply t acts => ih reply (first.2 reply t acts)
  | call request next ih => exact ensures_call first.1 fun reply => ih reply (first.2 reply)

theorem Ensures.executes {p q : Prog sig α} (ensured : Ensures effect stops post past s p)
    (went : Executes effect p s log q t) : Ensures effect stops post (past ++ log) t q := by
  induction went generalizing past with
  | refl p s =>
      rw [List.append_nil]
      exact ensured
  | access acts _ ih =>
      have later := ih (ensured.2 _ _ acts)
      rwa [List.append_assoc] at later
  | call reply _ ih =>
      have later := ih (ensured.2 reply)
      rwa [List.append_assoc] at later

end Prog

end LndkFormal.Async
