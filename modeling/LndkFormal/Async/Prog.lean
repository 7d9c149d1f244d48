import Mathlib.Data.List.Induction

/-!
# Programs that wait on their surroundings

An asynchronous function is a finite tree.  It returns, panics, enters a
critical section of the state it shares with other tasks, or sends a request to
the outside and continues with the reply.  The tree branches over every reply,
so one value covers every behaviour of the surroundings.

`Reaches` relates a program to what is left of it after a trace of events.
`Satisfies` is a Hoare logic for such programs: a monitor follows the events in
a ghost state and demands something of each, and `satisfies_reaches` carries a
proof about the tree to every trace.
-/

set_option autoImplicit false

namespace LndkFormal.Async

/-- The critical sections and outside requests of a family of programs,
each with the type of its reply. -/
structure Signature where
  Access : Type
  AccessReply : Access → Type
  Call : Type
  CallReply : Call → Type

inductive Event (sig : Signature) where
  | access (op : sig.Access) (reply : sig.AccessReply op)
  | call (request : sig.Call) (reply : sig.CallReply request)

inductive Prog (sig : Signature) (α : Type) where
  | ret (value : α)
  | panic (message : String)
  | access (op : sig.Access) (next : sig.AccessReply op → Prog sig α)
  | call (request : sig.Call) (next : sig.CallReply request → Prog sig α)

variable {sig : Signature} {α β ε : Type}

namespace Prog

def bind : Prog sig α → (α → Prog sig β) → Prog sig β
  | .ret value, k => k value
  | .panic message, _ => .panic message
  | .access op next, k => .access op fun reply => (next reply).bind k
  | .call request next, k => .call request fun reply => (next reply).bind k

instance : Monad (Prog sig) where
  pure := .ret
  bind := bind

@[simp] theorem pure_eq_ret (value : α) : (pure value : Prog sig α) = .ret value := rfl

@[simp] theorem ret_bind (value : α) (k : α → Prog sig β) :
    (Prog.ret value >>= k) = k value := rfl

@[simp] theorem panic_bind (message : String) (k : α → Prog sig β) :
    (Prog.panic message >>= k) = .panic message := rfl

@[simp] theorem access_bind (op : sig.Access) (next : sig.AccessReply op → Prog sig α)
    (k : α → Prog sig β) :
    (Prog.access op next >>= k) = .access op fun reply => next reply >>= k := rfl

@[simp] theorem call_bind (request : sig.Call)
    (next : sig.CallReply request → Prog sig α) (k : α → Prog sig β) :
    (Prog.call request next >>= k) = .call request fun reply => next reply >>= k := rfl

theorem bind_assoc {γ : Type} (p : Prog sig α) (k : α → Prog sig β) (l : β → Prog sig γ) :
    (p >>= k) >>= l = p >>= fun value => k value >>= l := by
  induction p with
  | ret value => rfl
  | panic message => rfl
  | access op next ih => simp only [access_bind, ih]
  | call request next ih => simp only [call_bind, ih]

def enter (op : sig.Access) : Prog sig (sig.AccessReply op) := .access op .ret

def request (req : sig.Call) : Prog sig (sig.CallReply req) := .call req .ret

/-- The `?` operator: an error ends the surrounding function. -/
def andThen (p : Prog sig (Except ε α)) (k : α → Prog sig (Except ε β)) :
    Prog sig (Except ε β) :=
  p >>= fun
    | .error e => .ret (.error e)
    | .ok value => k value

theorem andThen_map {γ : Type} (p : Prog sig (Except ε α)) (k : α → Prog sig (Except ε β))
    (f : β → γ) :
    (p.andThen k >>= fun result => .ret (result.map f)) =
      p.andThen fun value => k value >>= fun result => .ret (result.map f) := by
  unfold andThen
  rw [bind_assoc]
  congr 1
  funext result
  cases result with
  | error e => rfl
  | ok value => rfl

def mapError {ε' : Type} (p : Prog sig (Except ε α)) (f : ε → ε') : Prog sig (Except ε' α) :=
  p >>= fun result => .ret (result.mapError f)

/-- A task that has returned or panicked takes no further step. -/
def Running : Prog sig α → Prop
  | .ret _ => False
  | .panic _ => False
  | .access _ _ => True
  | .call _ _ => True

instance decidableRunning : (p : Prog sig α) → Decidable p.Running
  | .ret _ => isFalse id
  | .panic _ => isFalse id
  | .access _ _ => isTrue trivial
  | .call _ _ => isTrue trivial

end Prog

/-! ## Traces of one program -/

/-- `Reaches p trace q`: after exactly the events of `trace`, what is left of
`p` is `q`. -/
inductive Reaches : Prog sig α → List (Event sig) → Prog sig α → Prop where
  | refl (p : Prog sig α) : Reaches p [] p
  | access {op : sig.Access} {next : sig.AccessReply op → Prog sig α}
      (reply : sig.AccessReply op) {trace : List (Event sig)} {q : Prog sig α}
      (rest : Reaches (next reply) trace q) :
      Reaches (.access op next) (.access op reply :: trace) q
  | call {request : sig.Call} {next : sig.CallReply request → Prog sig α}
      (reply : sig.CallReply request) {trace : List (Event sig)} {q : Prog sig α}
      (rest : Reaches (next reply) trace q) :
      Reaches (.call request next) (.call request reply :: trace) q

theorem Reaches.trans {p q r : Prog sig α} {first second : List (Event sig)}
    (before : Reaches p first q) (after : Reaches q second r) :
    Reaches p (first ++ second) r := by
  induction before with
  | refl p => exact after
  | access reply _ ih => exact .access reply (ih after)
  | call reply _ ih => exact .call reply (ih after)

theorem Reaches.of_ret {value : α} {q : Prog sig α} {trace : List (Event sig)}
    (run : Reaches (.ret value) trace q) : trace = [] := by
  cases run
  rfl

/-- The replies decide what is left of a program. -/
theorem Reaches.unique {p q r : Prog sig α} {trace : List (Event sig)} (run : Reaches p trace q)
    (other : Reaches p trace r) : q = r := by
  induction run with
  | refl p => cases other; rfl
  | access reply _ ih => cases other with | access _ rest => exact ih rest
  | call reply _ ih => cases other with | call _ rest => exact ih rest

theorem Reaches.append_unique {p : Prog sig α} {value value' : α}
    {first first' second second' : List (Event sig)} (run : Reaches p first (.ret value))
    (other : Reaches p first' (.ret value')) (same : first ++ second = first' ++ second') :
    first = first' ∧ second = second' := by
  induction p generalizing first first' with
  | ret returned =>
      cases run
      cases other
      exact ⟨rfl, same⟩
  | panic message => cases run
  | access op next ih =>
      cases run with
      | access reply rest =>
          cases other with
          | access reply' rest' =>
              simp only [List.cons_append, List.cons.injEq, Event.access.injEq, heq_eq_eq,
                true_and] at same
              obtain ⟨rfl, same⟩ := same
              obtain ⟨rfl, rfl⟩ := ih reply rest rest' same
              exact ⟨rfl, rfl⟩
  | call request next ih =>
      cases run with
      | call reply rest =>
          cases other with
          | call reply' rest' =>
              simp only [List.cons_append, List.cons.injEq, Event.call.injEq, heq_eq_eq,
                true_and] at same
              obtain ⟨rfl, same⟩ := same
              obtain ⟨rfl, rfl⟩ := ih reply rest rest' same
              exact ⟨rfl, rfl⟩

theorem Reaches.bind {p : Prog sig α} {value : α} {k : α → Prog sig β}
    {q : Prog sig β} {first second : List (Event sig)}
    (before : Reaches p first (.ret value)) (after : Reaches (k value) second q) :
    Reaches (p >>= k) (first ++ second) q := by
  generalize whole : Prog.ret value = finished at before
  induction before with
  | refl p => subst whole; exact after
  | access reply _ ih => exact .access reply (ih whole)
  | call reply _ ih => exact .call reply (ih whole)

/-- A finished sequence splits into a finished first part and a finished
second part. -/
theorem reaches_bind_ret {p : Prog sig α} {k : α → Prog sig β} {result : β}
    {trace : List (Event sig)} (run : Reaches (p >>= k) trace (.ret result)) :
    ∃ first second value, trace = first ++ second ∧
      Reaches p first (.ret value) ∧ Reaches (k value) second (.ret result) := by
  induction p generalizing trace with
  | ret value => exact ⟨[], trace, value, rfl, .refl _, run⟩
  | panic message => cases run
  | access op next ih =>
      cases run with
      | access reply rest =>
          obtain ⟨first, second, value, split, left, right⟩ := ih reply rest
          exact ⟨_ :: first, second, value, by rw [split]; rfl, .access reply left, right⟩
  | call request next ih =>
      cases run with
      | call reply rest =>
          obtain ⟨first, second, value, split, left, right⟩ := ih reply rest
          exact ⟨_ :: first, second, value, by rw [split]; rfl, .call reply left, right⟩

theorem reaches_request_cases {req : sig.Call} {k : sig.CallReply req → Prog sig α}
    {trace : List (Event sig)} {rest : Prog sig α}
    (run : Reaches (Prog.request req >>= k) trace rest) :
    trace = [] ∨
      ∃ reply later, trace = .call req reply :: later ∧ Reaches (k reply) later rest := by
  cases run with
  | refl => exact .inl rfl
  | call reply later => exact .inr ⟨reply, _, rfl, later⟩

theorem reaches_request_bind {req : sig.Call} {k : sig.CallReply req → Prog sig α} {result : α}
    {trace : List (Event sig)} (run : Reaches (Prog.request req >>= k) trace (.ret result)) :
    ∃ reply later, trace = .call req reply :: later ∧ Reaches (k reply) later (.ret result) := by
  cases run with
  | call reply rest => exact ⟨reply, _, rfl, rest⟩

theorem reaches_andThen_ok {p : Prog sig (Except ε α)} {k : α → Prog sig (Except ε β)} {result : β}
    {trace : List (Event sig)} (run : Reaches (p.andThen k) trace (.ret (.ok result))) :
    ∃ first second value, Reaches p first (.ret (.ok value)) ∧
      Reaches (k value) second (.ret (.ok result)) ∧ trace = first ++ second := by
  obtain ⟨first, second, value, split, left, right⟩ := reaches_bind_ret run
  cases value with
  | error e => cases right
  | ok value => exact ⟨first, second, value, left, right, split⟩

/-- Runs a program against given replies, for as many steps as there are. -/
def Prog.play (entered : (op : sig.Access) → sig.AccessReply op) :
    List ((req : sig.Call) → sig.CallReply req) → Prog sig α → List (Event sig) × Prog sig α
  | _ :: rest, .access op next =>
      (.access op (entered op) :: (play entered rest (next (entered op))).1,
        (play entered rest (next (entered op))).2)
  | answer :: rest, .call req next =>
      (.call req (answer req) :: (play entered rest (next (answer req))).1,
        (play entered rest (next (answer req))).2)
  | _, p => ([], p)

theorem Prog.play_reaches (entered : (op : sig.Access) → sig.AccessReply op)
    (answers : List ((req : sig.Call) → sig.CallReply req)) (p : Prog sig α) :
    Reaches p (p.play entered answers).1 (p.play entered answers).2 := by
  induction answers generalizing p with
  | nil => cases p <;> exact .refl _
  | cons answer rest ih =>
      cases p with
      | ret value => exact .refl _
      | panic message => exact .refl _
      | access op next => exact .access _ (ih _)
      | call req next => exact .call _ (ih _)

theorem Prog.play_forall {P : Event sig → Prop} {entered : (op : sig.Access) → sig.AccessReply op}
    {answer : (req : sig.Call) → sig.CallReply req} (accesses : ∀ op, P (.access op (entered op)))
    (calls : ∀ req, P (.call req (answer req))) (steps : Nat) (p : Prog sig α) :
    ∀ event ∈ (p.play entered (List.replicate steps answer)).1, P event := by
  induction steps generalizing p with
  | zero =>
      intro event member
      cases p <;> cases member
  | succ steps ih =>
      cases p with
      | ret value => intro event member; cases member
      | panic message => intro event member; cases member
      | access op next => exact List.forall_mem_cons.mpr ⟨accesses op, ih _⟩
      | call req next => exact List.forall_mem_cons.mpr ⟨calls req, ih _⟩

/-! ## Monitors -/

structure Monitor (sig : Signature) (G : Type) where
  demand : G → Event sig → Prop
  next : G → Event sig → G
  panicOk : G → Prop

variable {G : Type}

namespace Monitor

def after (m : Monitor sig G) : G → List (Event sig) → G
  | ghost, [] => ghost
  | ghost, event :: rest => m.after (m.next ghost event) rest

/-- The monitor lets the event pass, and `P` holds of the ghost state after it. -/
def Steps (m : Monitor sig G) (event : Event sig) (P : G → Prop) (ghost : G) : Prop :=
  m.demand ghost event ∧ P (m.next ghost event)

/-- Every event of the trace meets `P` in the ghost state before it. -/
def Along (m : Monitor sig G) (P : G → Event sig → Prop) : G → List (Event sig) → Prop
  | _, [] => True
  | ghost, event :: rest => P ghost event ∧ m.Along P (m.next ghost event) rest

@[simp] theorem after_nil (m : Monitor sig G) (ghost : G) : m.after ghost [] = ghost := rfl

@[simp] theorem after_cons (m : Monitor sig G) (ghost : G) (event : Event sig)
    (rest : List (Event sig)) :
    m.after ghost (event :: rest) = m.after (m.next ghost event) rest := rfl

theorem after_append (m : Monitor sig G) (ghost : G) (first second : List (Event sig)) :
    m.after ghost (first ++ second) = m.after (m.after ghost first) second := by
  induction first generalizing ghost with
  | nil => rfl
  | cons event rest ih => exact ih (m.next ghost event)

theorem along_append (m : Monitor sig G) (P : G → Event sig → Prop) (ghost : G)
    (first second : List (Event sig)) :
    m.Along P ghost (first ++ second) ↔
      m.Along P ghost first ∧ m.Along P (m.after ghost first) second := by
  induction first generalizing ghost with
  | nil => simp [Along]
  | cons event rest ih => simp only [List.cons_append, Along, after_cons, ih, and_assoc]

theorem along_mem (m : Monitor sig G) {P : G → Event sig → Prop} {ghost : G}
    {trace : List (Event sig)} (along : m.Along P ghost trace) :
    ∀ event ∈ trace, ∃ ghost, P ghost event := by
  induction trace generalizing ghost with
  | nil => intro event member; cases member
  | cons head rest ih =>
      intro event member
      rcases List.mem_cons.mp member with rfl | member
      · exact ⟨ghost, along.1⟩
      · exact ih along.2 event member

/-- What every demanded event preserves holds of the whole trace. -/
theorem along_invariant (m : Monitor sig G) {I : G → List (Event sig) → Prop} {ghost : G}
    (first : I ghost [])
    (kept : ∀ ghost' past event, I ghost' past → m.demand ghost' event →
      I (m.next ghost' event) (past ++ [event]))
    {trace : List (Event sig)} (along : m.Along m.demand ghost trace) :
    I (m.after ghost trace) trace := by
  induction trace using List.reverseRecOn with
  | nil => exact first
  | append_singleton past event ih =>
      rw [along_append] at along
      rw [after_append]
      exact kept _ past event (ih along.1) along.2.1

def each (P : Event sig → Prop) : Monitor sig Unit where
  demand _ := P
  next _ _ := ()
  panicOk _ := True

end Monitor

namespace Prog

/-- Every event of `p` meets the monitor's demand, every value returned meets
`post`, and `p` panics only where the monitor lets it. -/
def Satisfies (m : Monitor sig G) (post : α → G → Prop) : G → Prog sig α → Prop
  | ghost, .ret value => post value ghost
  | ghost, .panic _ => m.panicOk ghost
  | ghost, .access op next => ∀ reply, m.demand ghost (.access op reply) ∧
      Satisfies m post (m.next ghost (.access op reply)) (next reply)
  | ghost, .call req next => ∀ reply, m.demand ghost (.call req reply) ∧
      Satisfies m post (m.next ghost (.call req reply)) (next reply)

variable {m : Monitor sig G} {post : α → G → Prop} {ghost : G}

@[simp] theorem satisfies_ret (value : α) :
    Satisfies m post ghost (.ret value) ↔ post value ghost := Iff.rfl

@[simp] theorem satisfies_panic (message : String) :
    Satisfies m post ghost (.panic message) ↔ m.panicOk ghost := Iff.rfl

@[simp] theorem satisfies_access (op : sig.Access)
    (next : sig.AccessReply op → Prog sig α) :
    Satisfies m post ghost (.access op next) ↔
      ∀ reply, m.demand ghost (.access op reply) ∧
        Satisfies m post (m.next ghost (.access op reply)) (next reply) := Iff.rfl

@[simp] theorem satisfies_call (req : sig.Call)
    (next : sig.CallReply req → Prog sig α) :
    Satisfies m post ghost (.call req next) ↔
      ∀ reply, m.demand ghost (.call req reply) ∧
        Satisfies m post (m.next ghost (.call req reply)) (next reply) := Iff.rfl

theorem satisfies_enter_bind {op : sig.Access} {k : sig.AccessReply op → Prog sig α} :
    Satisfies m post ghost (enter op >>= k) ↔
      ∀ reply, m.demand ghost (.access op reply) ∧
        Satisfies m post (m.next ghost (.access op reply)) (k reply) := Iff.rfl

theorem satisfies_request_bind {req : sig.Call} {k : sig.CallReply req → Prog sig α} :
    Satisfies m post ghost (request req >>= k) ↔
      ∀ reply, m.demand ghost (.call req reply) ∧
        Satisfies m post (m.next ghost (.call req reply)) (k reply) := Iff.rfl

theorem satisfies_bind {after : β → G → Prop} {p : Prog sig α} {k : α → Prog sig β} :
    Satisfies m after ghost (p >>= k) ↔
      Satisfies m (fun value ghost => Satisfies m after ghost (k value)) ghost p := by
  induction p generalizing ghost with
  | ret value => exact Iff.rfl
  | panic message => exact Iff.rfl
  | access op next ih => simp only [access_bind, satisfies_access, ih]
  | call req next ih => simp only [call_bind, satisfies_call, ih]

theorem Satisfies.mono {post' : α → G → Prop} {p : Prog sig α}
    (proved : Satisfies m post ghost p)
    (weaker : ∀ value ghost, post value ghost → post' value ghost) :
    Satisfies m post' ghost p := by
  induction p generalizing ghost with
  | ret value => exact weaker value ghost proved
  | panic message => exact proved
  | access op next ih => exact fun reply => ⟨(proved reply).1, ih reply (proved reply).2⟩
  | call req next ih => exact fun reply => ⟨(proved reply).1, ih reply (proved reply).2⟩

theorem Satisfies.bind {mid : α → G → Prop} {after : β → G → Prop}
    {p : Prog sig α} {k : α → Prog sig β} (first : Satisfies m mid ghost p)
    (then_ : ∀ value ghost, mid value ghost → Satisfies m after ghost (k value)) :
    Satisfies m after ghost (p >>= k) :=
  satisfies_bind.mpr (first.mono then_)

theorem Satisfies.andThen {mid : Except ε α → G → Prop} {after : Except ε β → G → Prop}
    {p : Prog sig (Except ε α)} {k : α → Prog sig (Except ε β)}
    (first : Satisfies m mid ghost p)
    (failed : ∀ e ghost, mid (.error e) ghost → after (.error e) ghost)
    (went : ∀ value ghost, mid (.ok value) ghost → Satisfies m after ghost (k value)) :
    Satisfies m after ghost (p.andThen k) := by
  refine Satisfies.bind first ?_
  intro result ghost reached
  cases result with
  | error e => exact failed e ghost reached
  | ok value => exact went value ghost reached

theorem Satisfies.mapErrorThen {ε' : Type} {mid : Except ε α → G → Prop}
    {after : Except ε' β → G → Prop} {p : Prog sig (Except ε α)} {f : ε → ε'}
    {k : α → Prog sig (Except ε' β)} (first : Satisfies m mid ghost p)
    (failed : ∀ e ghost, mid (.error e) ghost → after (.error (f e)) ghost)
    (went : ∀ value ghost, mid (.ok value) ghost → Satisfies m after ghost (k value)) :
    Satisfies m after ghost ((p.mapError f).andThen k) := by
  refine satisfies_bind.mpr (satisfies_bind.mpr (first.mono ?_))
  intro result ghost reached
  cases result with
  | error e => exact failed e ghost reached
  | ok value => exact went value ghost reached

theorem satisfies_checked {ε' : Type} {result : Except ε α} {f : ε → ε'}
    {after : Except ε' β → G → Prop} {k : α → Prog sig (Except ε' β)}
    (failed : ∀ e, result = .error e → after (.error (f e)) ghost)
    (passed : ∀ value, result = .ok value → Satisfies m after ghost (k value)) :
    Satisfies m after ghost ((ret (result.mapError f)).andThen k) := by
  cases result with
  | error e => exact failed e rfl
  | ok value => exact passed value rfl

theorem satisfies_each_true (p : Prog sig α) (ghost : Unit) :
    Satisfies (.each fun _ => True) (fun _ _ => True) ghost p := by
  induction p with
  | ret value => trivial
  | panic message => trivial
  | access op next ih => exact fun reply => ⟨trivial, ih reply⟩
  | call req next ih => exact fun reply => ⟨trivial, ih reply⟩

end Prog

/-- A proof about the tree holds along every trace: each event meets its
demand, and what is left of the program is still proved. -/
theorem satisfies_reaches {m : Monitor sig G} {post : α → G → Prop} {ghost : G}
    {p q : Prog sig α} {trace : List (Event sig)}
    (proved : Prog.Satisfies m post ghost p) (run : Reaches p trace q) :
    m.Along m.demand ghost trace ∧ Prog.Satisfies m post (m.after ghost trace) q := by
  induction run generalizing ghost with
  | refl p => exact ⟨trivial, proved⟩
  | access reply _ ih =>
      obtain ⟨demanded, kept⟩ := proved reply
      obtain ⟨later, final⟩ := ih kept
      exact ⟨⟨demanded, later⟩, final⟩
  | call reply _ ih =>
      obtain ⟨demanded, kept⟩ := proved reply
      obtain ⟨later, final⟩ := ih kept
      exact ⟨⟨demanded, later⟩, final⟩

/-! ## Footprints -/

namespace Prog

/-- Every event `p` can take part in meets `P`, whatever the replies, every value
it returns meets `Q`, and `p` does not panic. -/
def Only (P : Event sig → Prop) (Q : α → Prop) : Prog sig α → Prop
  | .ret value => Q value
  | .panic _ => False
  | .access op next => ∀ reply, P (.access op reply) ∧ Only P Q (next reply)
  | .call req next => ∀ reply, P (.call req reply) ∧ Only P Q (next reply)

variable {P : Event sig → Prop} {Q : α → Prop}

theorem only_request_bind {R : β → Prop} {req : sig.Call} {k : sig.CallReply req → Prog sig β} :
    Only P R (request req >>= k) ↔ ∀ reply, P (.call req reply) ∧ Only P R (k reply) := Iff.rfl

theorem Only.bind {R : β → Prop} {p : Prog sig α} {k : α → Prog sig β} (first : Only P Q p)
    (second : ∀ value, Q value → Only P R (k value)) : Only P R (p >>= k) := by
  induction p with
  | ret value => exact second value first
  | panic message => exact first.elim
  | access op next ih => exact fun reply => ⟨(first reply).1, ih reply (first reply).2⟩
  | call req next ih => exact fun reply => ⟨(first reply).1, ih reply (first reply).2⟩

theorem Only.andThen {mid : Except ε α → Prop} {R : Except ε β → Prop}
    {p : Prog sig (Except ε α)} {k : α → Prog sig (Except ε β)} (first : Only P mid p)
    (failed : ∀ e, mid (.error e) → R (.error e))
    (went : ∀ value, Only P R (k value)) : Only P R (p.andThen k) := by
  refine Only.bind first ?_
  intro result reached
  cases result with
  | error e => exact failed e reached
  | ok value => exact went value

theorem Only.mono {P' : Event sig → Prop} {Q' : α → Prop} {p : Prog sig α} (only : Only P Q p)
    (weaker : ∀ event, P event → P' event) (returned : ∀ value, Q value → Q' value) :
    Only P' Q' p := by
  induction p with
  | ret value => exact returned value only
  | panic message => exact only
  | access op next ih =>
      exact fun reply => ⟨weaker _ (only reply).1, ih reply (only reply).2⟩
  | call req next ih =>
      exact fun reply => ⟨weaker _ (only reply).1, ih reply (only reply).2⟩

/-- A program within a footprint keeps every ghost property its events keep. -/
theorem Only.satisfies {m : Monitor sig G} {I : G → Prop} {ghost : G} {p : Prog sig α}
    (only : Only P Q p) (start : I ghost)
    (kept : ∀ ghost event, I ghost → P event →
      m.demand ghost event ∧ I (m.next ghost event)) :
    Satisfies m (fun value final => I final ∧ Q value) ghost p := by
  induction p generalizing ghost with
  | ret value => exact ⟨start, only⟩
  | panic message => exact only.elim
  | access op next ih =>
      intro reply
      obtain ⟨demanded, holds⟩ := kept ghost _ start (only reply).1
      exact ⟨demanded, ih reply (only reply).2 holds⟩
  | call req next ih =>
      intro reply
      obtain ⟨demanded, holds⟩ := kept ghost _ start (only reply).1
      exact ⟨demanded, ih reply (only reply).2 holds⟩

/-- Every event `p` can take part in meets `P`.  Unlike `Only`, this lets `p`
panic and return anything. -/
def Within (P : Event sig → Prop) (p : Prog sig α) : Prop :=
  Satisfies (.each P) (fun _ _ => True) () p

theorem within_enter_bind {op : sig.Access} {k : sig.AccessReply op → Prog sig β} :
    Within P (enter op >>= k) ↔ ∀ reply, P (.access op reply) ∧ Within P (k reply) := Iff.rfl

theorem within_request_bind {req : sig.Call} {k : sig.CallReply req → Prog sig β} :
    Within P (request req >>= k) ↔ ∀ reply, P (.call req reply) ∧ Within P (k reply) := Iff.rfl

theorem Within.bind {p : Prog sig α} {k : α → Prog sig β} (first : Within P p)
    (second : ∀ value, Within P (k value)) : Within P (p >>= k) :=
  Satisfies.bind first fun value _ _ => second value

theorem Within.andThen {p : Prog sig (Except ε α)} {k : α → Prog sig (Except ε β)}
    (first : Within P p) (second : ∀ value, Within P (k value)) : Within P (p.andThen k) :=
  Satisfies.andThen first (fun _ _ _ => trivial) fun value _ _ => second value

theorem Within.mapErrorThen {ε' : Type} {p : Prog sig (Except ε α)} {f : ε → ε'}
    {k : α → Prog sig (Except ε' β)} (first : Within P p)
    (second : ∀ value, Within P (k value)) : Within P ((p.mapError f).andThen k) :=
  Satisfies.mapErrorThen first (fun _ _ _ => trivial) fun value _ _ => second value

theorem Within.satisfies {m : Monitor sig G} {ghost : G} {p : Prog sig α} (within : Within P p)
    (kept : ∀ event, P event → m.demand ghost event ∧ m.next ghost event = ghost)
    (panics : m.panicOk ghost) : Satisfies m (fun _ final => final = ghost) ghost p := by
  induction p with
  | ret value => exact rfl
  | panic message => exact panics
  | access op next ih =>
      intro reply
      obtain ⟨demanded, same⟩ := kept _ (within reply).1
      refine ⟨demanded, ?_⟩
      rw [same]
      exact ih reply (within reply).2
  | call req next ih =>
      intro reply
      obtain ⟨demanded, same⟩ := kept _ (within reply).1
      refine ⟨demanded, ?_⟩
      rw [same]
      exact ih reply (within reply).2

theorem Within.mono {P' : Event sig → Prop} {p : Prog sig α} (within : Within P p)
    (weaker : ∀ event, P event → P' event) : Within P' p :=
  (within.satisfies (fun event member => ⟨weaker event member, rfl⟩) trivial).mono
    fun _ _ _ => trivial

theorem Within.keeps {m : Monitor sig G} {I : G → Prop} {ghost : G} {p : Prog sig α}
    (within : Within P p) (start : I ghost)
    (kept : ∀ ghost event, I ghost → P event →
      m.demand ghost event ∧ I (m.next ghost event))
    (panics : ∀ ghost, I ghost → m.panicOk ghost) :
    Satisfies m (fun _ final => I final) ghost p := by
  induction p generalizing ghost with
  | ret value => exact start
  | panic message => exact panics ghost start
  | access op next ih =>
      intro reply
      obtain ⟨demanded, holds⟩ := kept ghost _ start (within reply).1
      exact ⟨demanded, ih reply (within reply).2 holds⟩
  | call req next ih =>
      intro reply
      obtain ⟨demanded, holds⟩ := kept ghost _ start (within reply).1
      exact ⟨demanded, ih reply (within reply).2 holds⟩

theorem Only.within {p : Prog sig α} (only : Only P Q p) : Within P p :=
  (only.satisfies (I := fun _ => True) trivial fun _ _ _ member => ⟨member, trivial⟩).mono
    fun _ _ _ => trivial

/-- Every value that `p` can return meets `Q`, whatever the replies. -/
def Returns (Q : α → Prop) (p : Prog sig α) : Prop :=
  Satisfies (.each fun _ => True) (fun value _ => Q value) () p

theorem returns_request_bind {R : β → Prop} {req : sig.Call}
    {k : sig.CallReply req → Prog sig β} :
    Returns R (request req >>= k) ↔ ∀ reply, Returns R (k reply) :=
  ⟨fun returns reply => (returns reply).2, fun returns reply => ⟨trivial, returns reply⟩⟩

theorem Returns.bind {R : β → Prop} {p : Prog sig α} {k : α → Prog sig β} (first : Returns Q p)
    (second : ∀ value, Q value → Returns R (k value)) : Returns R (p >>= k) :=
  Satisfies.bind first fun value _ holds => second value holds

theorem Returns.andThen {mid : Except ε α → Prop} {R : Except ε β → Prop}
    {p : Prog sig (Except ε α)} {k : α → Prog sig (Except ε β)} (first : Returns mid p)
    (failed : ∀ e, mid (.error e) → R (.error e))
    (went : ∀ value, mid (.ok value) → Returns R (k value)) : Returns R (p.andThen k) :=
  Satisfies.andThen first (fun e _ => failed e) fun value _ holds => went value holds

theorem Satisfies.returns {m : Monitor sig G} {post : α → G → Prop} {ghost : G} {p : Prog sig α}
    (proved : Satisfies m post ghost p) (returns : Returns Q p) :
    Satisfies m (fun value final => post value final ∧ Q value) ghost p := by
  induction p generalizing ghost with
  | ret value => exact ⟨proved, returns⟩
  | panic message => exact proved
  | access op next ih =>
      exact fun reply => ⟨(proved reply).1, ih reply (proved reply).2 (returns reply).2⟩
  | call req next ih =>
      exact fun reply => ⟨(proved reply).1, ih reply (proved reply).2 (returns reply).2⟩

end Prog

theorem within_reaches {P : Event sig → Prop} {p q : Prog sig α} {trace : List (Event sig)}
    (within : p.Within P) (run : Reaches p trace q) : ∀ event ∈ trace, P event := by
  intro event member
  obtain ⟨_, meets⟩ := Monitor.along_mem _ (satisfies_reaches within run).1 event member
  exact meets

end LndkFormal.Async
