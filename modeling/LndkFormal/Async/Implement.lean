import LndkFormal.Async.Prog

/-!
# Programs whose requests are carried out by programs

A program is written against one signature; each of its critical sections and
requests is then carried out by a program over another.  What a monitor proves of
the first carries over to the second along a relation between the two ghost
states: `Satisfies.implement` asks, for one request at a time, that its
implementation takes related ghosts to related ghosts.
-/

set_option autoImplicit false

namespace LndkFormal.Async

variable {sig target : Signature} {α β : Type}

structure Implementation (sig target : Signature) where
  access : (op : sig.Access) → Prog target (sig.AccessReply op)
  call : (request : sig.Call) → Prog target (sig.CallReply request)

namespace Prog

def implement (impl : Implementation sig target) : Prog sig α → Prog target α
  | .ret value => .ret value
  | .panic message => .panic message
  | .access op next => impl.access op >>= fun reply => (next reply).implement impl
  | .call request next => impl.call request >>= fun reply => (next reply).implement impl

variable {G H : Type} {m : Monitor sig G} {low : Monitor target H}

/-- The implementation of each request keeps `R`, wherever the first monitor lets the
request be made. -/
structure Simulates (impl : Implementation sig target) (m : Monitor sig G)
    (low : Monitor target H) (R : G → H → Prop) : Prop where
  access : ∀ {g h} (op : sig.Access), R g h → (∀ reply, m.demand g (.access op reply)) →
    Satisfies low (fun reply h' => R (m.next g (.access op reply)) h') h (impl.access op)
  call : ∀ {g h} (request : sig.Call), R g h → (∀ reply, m.demand g (.call request reply)) →
    Satisfies low (fun reply h' => R (m.next g (.call request reply)) h') h (impl.call request)
  panics : ∀ {g h}, R g h → m.panicOk g → low.panicOk h

theorem Satisfies.implement {impl : Implementation sig target} {R : G → H → Prop}
    (simulates : Simulates impl m low R) {post : α → G → Prop} {p : Prog sig α} {g : G} {h : H}
    (proved : Satisfies m post g p) (related : R g h) :
    Satisfies low (fun value h' => ∃ g', R g' h' ∧ post value g') h (p.implement impl) := by
  induction p generalizing g h with
  | ret value => exact ⟨g, related, proved⟩
  | panic message => exact simulates.panics related proved
  | access op next ih =>
      refine Satisfies.bind (simulates.access op related fun reply => (proved reply).1) ?_
      intro reply h' kept
      exact ih reply (proved reply).2 kept
  | call request next ih =>
      refine Satisfies.bind (simulates.call request related fun reply => (proved reply).1) ?_
      intro reply h' kept
      exact ih reply (proved reply).2 kept

end Prog

end LndkFormal.Async
