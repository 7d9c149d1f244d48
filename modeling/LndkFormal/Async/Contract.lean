import LndkFormal.Async.Extend

/-!
# Programs with trusted surroundings

A contract says which events a program may cause, which replies are regular and
which are fatal.  A program that meets it causes no other events.  It comes to a
good end as long as every reply is regular, and it panics at once on a fatal
one.  `meets_reaches` is the rule for runs: where every reply is regular or
fatal, a run has gone well so far or has ended in a panic.
-/

set_option autoImplicit false

namespace LndkFormal.Async

structure Contract (sig : Signature) where
  asks : Event sig → Prop
  regular : Event sig → Prop
  fatal : Event sig → Prop

variable {sig : Signature} {α β ε : Type} {c : Contract sig}

structure Contract.Handles (c : Contract sig) (event : Event sig) (goesOn panics : Prop) :
    Prop where
  asked : c.asks event
  regular : c.regular event → goesOn
  fatal : c.fatal event → panics

theorem Contract.Handles.imp {event : Event sig} {goesOn panics goesOn' panics' : Prop}
    (handled : c.Handles event goesOn panics) (onward : goesOn → goesOn')
    (ended : panics → panics') : c.Handles event goesOn' panics' :=
  ⟨handled.asked, fun good => onward (handled.regular good), fun bad => ended (handled.fatal bad)⟩

namespace Prog

def Panicked (p : Prog sig α) : Prop := ∃ message, p = .panic message

theorem Panicked.bind {p : Prog sig α} (panicked : p.Panicked) (k : α → Prog sig β) :
    (p >>= k).Panicked := by
  obtain ⟨message, rfl⟩ := panicked
  exact ⟨message, rfl⟩

def Meets (c : Contract sig) (post : α → Prop) : Prog sig α → Prop
  | .ret value => post value
  | .panic _ => False
  | .access op next =>
      ∀ reply, c.Handles (.access op reply) (Meets c post (next reply)) (next reply).Panicked
  | .call req next =>
      ∀ reply, c.Handles (.call req reply) (Meets c post (next reply)) (next reply).Panicked

variable {post : α → Prop} {after : β → Prop}

theorem meets_request_bind {req : sig.Call} {k : sig.CallReply req → Prog sig β} :
    Meets c after (request req >>= k) ↔
      ∀ reply, c.Handles (.call req reply) (Meets c after (k reply)) (k reply).Panicked := Iff.rfl

theorem Meets.bind {p : Prog sig α} {k : α → Prog sig β} (first : Meets c post p)
    (second : ∀ value, post value → Meets c after (k value)) : Meets c after (p >>= k) := by
  induction p with
  | ret value => exact second value first
  | panic message => exact first.elim
  | access op next ih =>
    exact fun reply => (first reply).imp (ih reply) fun panicked => panicked.bind k
  | call req next ih =>
    exact fun reply => (first reply).imp (ih reply) fun panicked => panicked.bind k

theorem Meets.andThen {mid : Except ε α → Prop} {after : Except ε β → Prop}
    {p : Prog sig (Except ε α)} {k : α → Prog sig (Except ε β)} (first : Meets c mid p)
    (failed : ∀ e, after (.error e))
    (went : ∀ value, mid (.ok value) → Meets c after (k value)) : Meets c after (p.andThen k) := by
  refine Meets.bind first ?_
  intro result reached
  cases result with
  | error e => exact failed e
  | ok value => exact went value reached

theorem Meets.mapErrorThen {ε' : Type} {mid : Except ε α → Prop} {after : Except ε' β → Prop}
    {p : Prog sig (Except ε α)} {f : ε → ε'} {k : α → Prog sig (Except ε' β)}
    (first : Meets c mid p) (failed : ∀ e, after (.error e))
    (went : ∀ value, mid (.ok value) → Meets c after (k value)) :
    Meets c after ((p.mapError f).andThen k) := by
  have mapped : Meets c (fun result => ∀ value, result = .ok value → mid (.ok value))
      (p.mapError f) := by
    refine first.bind ?_
    intro result reached value returned
    cases result with
    | error e => cases returned
    | ok result =>
      cases returned
      exact reached
  exact mapped.andThen failed fun value reached => went value (reached value rfl)

end Prog

/-- The larger contract says of the smaller signature's events what `c` says. -/
structure Contract.Extends {Extra : Type} {Reply : Extra → Type} (c : Contract sig)
    (larger : Contract (sig.extend Extra Reply)) : Prop where
  asks : ∀ event, c.asks event → larger.asks event.lift
  regular : ∀ event : Event sig, larger.regular event.lift → c.regular event
  fatal : ∀ event : Event sig, larger.fatal event.lift → c.fatal event

section Lift

variable {Extra : Type} {Reply : Extra → Type} {larger : Contract (sig.extend Extra Reply)}

theorem Contract.Handles.lift {event : Event sig} {goesOn panics : Prop}
    (handled : c.Handles event goesOn panics) (extended : c.Extends larger) :
    larger.Handles event.lift goesOn panics where
  asked := extended.asks event handled.asked
  regular good := handled.regular (extended.regular event good)
  fatal bad := handled.fatal (extended.fatal event bad)

theorem Prog.Panicked.lift {p : Prog sig α} (panicked : p.Panicked) :
    (p.lift : Prog (sig.extend Extra Reply) α).Panicked := by
  obtain ⟨message, rfl⟩ := panicked
  exact ⟨message, rfl⟩

theorem Prog.Meets.lift {post : α → Prop} {p : Prog sig α} (meets : p.Meets c post)
    (extended : c.Extends larger) :
    (p.lift : Prog (sig.extend Extra Reply) α).Meets larger post := by
  induction p with
  | ret value => exact meets
  | panic message => exact meets
  | access op next ih =>
    exact fun reply => ((meets reply).lift extended).imp (ih reply) Panicked.lift
  | call req next ih =>
    exact fun reply => ((meets reply).lift extended).imp (ih reply) Panicked.lift

end Lift

/-! ## Runs -/

/-- A run has caused only events of the contract, and it has gone well so far or has panicked on
a fatal reply. -/
structure Contract.Outcome (c : Contract sig) (post : α → Prop) (trace : List (Event sig))
    (rest : Prog sig α) : Prop where
  asks : ∀ event ∈ trace, c.asks event
  ended : (∀ event ∈ trace, c.regular event) ∧ rest.Meets c post ∨
    (∃ event ∈ trace, c.fatal event) ∧ rest.Panicked

theorem Contract.Outcome.cons {post : α → Prop} {event : Event sig} {trace : List (Event sig)}
    {next rest : Prog sig α} (handled : c.Handles event (next.Meets c post) next.Panicked)
    (reply : c.regular event ∨ c.fatal event) (run : Reaches next trace rest)
    (later : next.Meets c post → c.Outcome post trace rest) :
    c.Outcome post (event :: trace) rest := by
  rcases reply with good | bad
  · obtain ⟨asks, ended⟩ := later (handled.regular good)
    refine ⟨List.forall_mem_cons.mpr ⟨handled.asked, asks⟩, ?_⟩
    rcases ended with ⟨regular, meets⟩ | ⟨⟨fatal, listed, bad⟩, panicked⟩
    · exact .inl ⟨List.forall_mem_cons.mpr ⟨good, regular⟩, meets⟩
    · exact .inr ⟨⟨fatal, List.mem_cons_of_mem event listed, bad⟩, panicked⟩
  · obtain ⟨message, rfl⟩ := handled.fatal bad
    cases run
    exact ⟨List.forall_mem_cons.mpr ⟨handled.asked, fun _ listed => absurd listed
      List.not_mem_nil⟩, .inr ⟨⟨event, List.mem_cons_self, bad⟩, message, rfl⟩⟩

theorem meets_reaches {post : α → Prop} {p rest : Prog sig α} {trace : List (Event sig)}
    (meets : p.Meets c post) (run : Reaches p trace rest)
    (replies : ∀ event ∈ trace, c.regular event ∨ c.fatal event) :
    c.Outcome post trace rest := by
  induction run with
  | refl p =>
    exact ⟨fun _ listed => absurd listed List.not_mem_nil,
      .inl ⟨fun _ listed => absurd listed List.not_mem_nil, meets⟩⟩
  | access reply later ih =>
    obtain ⟨first, others⟩ := List.forall_mem_cons.mp replies
    exact .cons (meets reply) first later fun onward => ih onward others
  | call reply later ih =>
    obtain ⟨first, others⟩ := List.forall_mem_cons.mp replies
    exact .cons (meets reply) first later fun onward => ih onward others

end LndkFormal.Async
