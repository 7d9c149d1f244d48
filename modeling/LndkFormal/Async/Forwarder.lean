import Mathlib.Data.List.Basic

/-!
# Producers that forward streams

A producer subscribes to a stream, receives its items and puts what it makes of
each into a channel, one item after the other.  A stream that fails is closed
with one last event, and the producer may subscribe again.  A producer that is
asked to quit does so only while it waits for an item.

`Step` is the producer, `Record` what can be seen of it, and `Kept` what the two
have to do with each other at every moment.
-/

set_option autoImplicit false

namespace LndkFormal.Async.Forwarder

variable {Item Event Error : Type}

/-- What a stream has brought, whether the signal to quit was seen while it was received, what
was put into the channel for it, and the result with which it was left. -/
structure Stream (Item Event Error : Type) where
  items : List Item
  failure : Option Error
  signalled : Bool
  enqueued : List Event
  result : Option (Except Unit Unit)

def Stream.opened : Stream Item Event Error := ⟨[], none, false, [], none⟩

inductive Observation (Item Error : Type) where
  | subscribed
  | received (item : Except Error Item)
  | signalled
  | nothing

def Observation.isSubscribed : Observation Item Error → Bool
  | .subscribed => true
  | _ => false

structure Action (Item Event Error : Type) where
  observed : Observation Item Error
  pushed : List Event
  returned : Option (Except Unit Unit)

structure Record (Item Event Error : Type) where
  streams : List (Stream Item Event Error)
  sent : List Event

def Record.empty : Record Item Event Error := ⟨[], []⟩

def Stream.note (stream : Stream Item Event Error) (action : Action Item Event Error) :
    Stream Item Event Error where
  items :=
    match action.observed with
    | .received (.ok item) => stream.items ++ [item]
    | _ => stream.items
  failure :=
    match action.observed with
    | .received (.error e) => some e
    | _ => stream.failure
  signalled :=
    match action.observed with
    | .signalled => true
    | _ => stream.signalled
  enqueued := stream.enqueued ++ action.pushed
  result := action.returned.or stream.result

def Record.note (record : Record Item Event Error) (action : Action Item Event Error) :
    Record Item Event Error where
  streams :=
    match action.observed, record.streams with
    | .subscribed, streams => .opened :: streams
    | _, [] => []
    | _, stream :: earlier => stream.note action :: earlier
  sent := record.sent ++ action.pushed

inductive Phase (Item Event : Type) where
  | idle
  | waiting
  | looking (item : Item)
  | holding (event : Event)
  | failing
  | ended

section Steps

variable (Forward : Item → List Event → Prop) (exit : Event)

/-- `Forward` says what is made of an item. -/
inductive Step : Phase Item Event → Action Item Event Error → Phase Item Event → Prop where
  | pause : Step .idle ⟨.nothing, [], none⟩ .idle
  | stop : Step .idle ⟨.nothing, [], none⟩ .ended
  | rest : Step .ended ⟨.nothing, [], none⟩ .ended
  | subscribe : Step .idle ⟨.subscribed, [], none⟩ .waiting
  | quit : Step .waiting ⟨.signalled, [], some (.ok ())⟩ .ended
  | ignore {item : Item} (forward : Forward item []) :
      Step .waiting ⟨.received (.ok item), [], none⟩ .waiting
  | look (item : Item) : Step .waiting ⟨.received (.ok item), [], none⟩ (.looking item)
  | hold {item : Item} {event : Event} (forward : Forward item [event]) :
      Step .waiting ⟨.received (.ok item), [], none⟩ (.holding event)
  | found {item : Item} {event : Event} (forward : Forward item [event]) :
      Step (.looking item) ⟨.nothing, [], none⟩ (.holding event)
  | send (event : Event) : Step (.holding event) ⟨.nothing, [event], none⟩ .waiting
  | fail (e : Error) : Step .waiting ⟨.received (.error e), [], none⟩ .failing
  | exitIdle : Step .failing ⟨.nothing, [exit], some (.error ())⟩ .idle
  | exitEnded : Step .failing ⟨.nothing, [exit], some (.error ())⟩ .ended

/-! ## What is kept -/

inductive Forwarded : List Item → List Event → Prop where
  | nil : Forwarded [] []
  | concat {items : List Item} {events made : List Event} {item : Item}
      (before : Forwarded items events) (forward : Forward item made) :
      Forwarded (items ++ [item]) (events ++ made)

/-- A stream that is being received.  All its items are forwarded but those that are looked
up, and up to the events in hand. -/
structure Stream.Open (stream : Stream Item Event Error) (lookedUp : List Item)
    (inHand : List Event) : Prop where
  failure : stream.failure = none
  unsignalled : stream.signalled = false
  result : stream.result = none
  forwarded : ∃ items, stream.items = items ++ lookedUp ∧
    Forwarded Forward items (stream.enqueued ++ inHand)

structure Stream.Failing (stream : Stream Item Event Error) : Prop where
  failure : stream.failure.isSome = true
  unsignalled : stream.signalled = false
  result : stream.result = none
  forwarded : Forwarded Forward stream.items stream.enqueued

/-- A stream that has failed: its last event is the one exit, and the result is an error. -/
structure Stream.Failed (stream : Stream Item Event Error) : Prop where
  failure : stream.failure.isSome = true
  unsignalled : stream.signalled = false
  result : stream.result = some (.error ())
  forwarded : ∃ events, Forwarded Forward stream.items events ∧
    stream.enqueued = events ++ [exit]

/-- A stream that was left on the signal to quit, and for nothing else. -/
structure Stream.Left (stream : Stream Item Event Error) : Prop where
  failure : stream.failure = none
  signalled : stream.signalled = true
  result : stream.result = some (.ok ())
  forwarded : Forwarded Forward stream.items stream.enqueued

def Latest : Phase Item Event → Option (Stream Item Event Error) → Prop
  | .idle, none => True
  | .idle, some stream => stream.Failed Forward exit
  | .waiting, some stream => stream.Open Forward [] []
  | .looking item, some stream => stream.Open Forward [item] []
  | .holding event, some stream => stream.Open Forward [] [event]
  | .failing, some stream => stream.Failing Forward
  | .ended, none => True
  | .ended, some stream => stream.Failed Forward exit ∨ stream.Left Forward
  | _, none => False

structure Kept (phase : Phase Item Event) (record : Record Item Event Error) : Prop where
  latest : Latest Forward exit phase record.streams.head?
  /-- The producer subscribes again only after a failure. -/
  earlier : ∀ stream ∈ record.streams.tail, stream.Failed Forward exit
  /-- The channel got what the streams gave, one after the other. -/
  sent : record.sent = record.streams.reverse.flatMap Stream.enqueued

theorem kept_empty : Kept Forward exit .idle (.empty : Record Item Event Error) where
  latest := trivial
  earlier := by
    intro stream member
    cases member
  sent := rfl

variable {Forward exit} {phase next : Phase Item Event} {record : Record Item Event Error}
  {action : Action Item Event Error}

theorem Kept.noted {stream : Stream Item Event Error} {earlier : List (Stream Item Event Error)}
    (kept : Kept Forward exit phase record) (streams : record.streams = stream :: earlier)
    (observed : action.observed.isSubscribed = false)
    (latest : Latest Forward exit next (some (stream.note action))) :
    Kept Forward exit next (record.note action) := by
  have noted : (record.note action).streams = stream.note action :: earlier := by
    unfold Record.note
    rw [streams]
    cases seen : action.observed with
    | subscribed =>
        rw [seen] at observed
        cases observed
    | _ => rfl
  constructor
  · rw [noted]
    exact latest
  · have before := kept.earlier
    rw [streams] at before
    rw [noted]
    exact before
  · have sent := kept.sent
    rw [streams] at sent
    rw [noted]
    simp only [Record.note, sent, List.reverse_cons, List.flatMap_append, List.flatMap_cons,
      List.flatMap_nil, List.append_nil, Stream.note, List.append_assoc]

theorem Kept.stream (kept : Kept Forward exit phase record)
    (inside : Latest Forward exit phase (none : Option (Stream Item Event Error)) → False) :
    ∃ stream earlier, record.streams = stream :: earlier ∧
      Latest Forward exit phase (some stream) := by
  have latest := kept.latest
  cases streams : record.streams with
  | nil =>
      rw [streams] at latest
      exact (inside latest).elim
  | cons stream earlier =>
      rw [streams] at latest
      exact ⟨stream, earlier, rfl, latest⟩

theorem Stream.note_nothing (stream : Stream Item Event Error) :
    stream.note ⟨.nothing, [], none⟩ = stream := by
  simp [Stream.note]

theorem Kept.outside (kept : Kept Forward exit phase record)
    (latest : ∀ stream : Option (Stream Item Event Error),
      Latest Forward exit phase stream → Latest Forward exit next stream) :
    Kept Forward exit next (record.note ⟨.nothing, [], none⟩) := by
  have same : record.note ⟨.nothing, [], none⟩ = record := by
    cases record with
    | mk streams sent =>
        cases streams with
        | nil => simp [Record.note]
        | cons stream earlier => simp [Record.note, Stream.note_nothing]
  rw [same]
  exact ⟨latest _ kept.latest, kept.earlier, kept.sent⟩

theorem Kept.subscribed (kept : Kept Forward exit .idle record) :
    Kept Forward exit .waiting (record.note ⟨.subscribed, [], none⟩) where
  latest := ⟨rfl, rfl, rfl, [], rfl, .nil⟩
  earlier := by
    intro stream member
    have listed : stream ∈ record.streams := member
    have latest := kept.latest
    have before := kept.earlier
    cases streams : record.streams with
    | nil =>
        rw [streams] at listed
        cases listed
    | cons first rest =>
        rw [streams] at listed latest before
        rcases List.mem_cons.mp listed with rfl | member
        · exact latest
        · exact before stream member
  sent := by
    simp [Record.note, kept.sent, Stream.opened]

section Transitions

variable {stream : Stream Item Event Error} {item : Item} {made : List Event}

theorem Stream.Open.all_forwarded (here : stream.Open Forward [] made) :
    Forwarded Forward stream.items (stream.enqueued ++ made) := by
  obtain ⟨items, same, forwarded⟩ := here.forwarded
  rw [same, List.append_nil]
  exact forwarded

theorem Stream.Open.look (here : stream.Open Forward [] []) (item : Item) :
    (stream.note ⟨.received (.ok item), [], none⟩).Open Forward [item] [] := by
  refine ⟨here.failure, here.unsignalled, here.result, stream.items, rfl, ?_⟩
  rw [List.append_nil]
  exact here.all_forwarded

theorem Stream.Open.found (here : stream.Open Forward [item] []) (forward : Forward item made) :
    stream.Open Forward [] made := by
  obtain ⟨items, same, forwarded⟩ := here.forwarded
  rw [List.append_nil] at forwarded
  refine ⟨here.failure, here.unsignalled, here.result, items ++ [item], ?_, ?_⟩
  · rw [same, List.append_nil]
  · exact forwarded.concat forward

theorem Stream.Open.send (here : stream.Open Forward [] made) :
    (stream.note ⟨.nothing, made, none⟩).Open Forward [] [] := by
  obtain ⟨items, same, forwarded⟩ := here.forwarded
  refine ⟨here.failure, here.unsignalled, here.result, items, same, ?_⟩
  rw [List.append_nil]
  exact forwarded

theorem Stream.Open.left (here : stream.Open Forward [] []) :
    (stream.note ⟨.signalled, [], some (.ok ())⟩).Left Forward :=
  ⟨here.failure, rfl, rfl, here.all_forwarded⟩

theorem Stream.Open.fail (here : stream.Open Forward [] []) (e : Error) :
    (stream.note ⟨.received (.error e), [], none⟩).Failing Forward :=
  ⟨rfl, here.unsignalled, here.result, here.all_forwarded⟩

theorem Stream.Failing.closed (failing : stream.Failing Forward) :
    (stream.note ⟨.nothing, [exit], some (.error ())⟩).Failed Forward exit :=
  ⟨failing.failure, failing.unsignalled, rfl, stream.enqueued, failing.forwarded, rfl⟩

end Transitions

theorem Kept.step (kept : Kept Forward exit phase record)
    (step : Step Forward exit phase action next) : Kept Forward exit next (record.note action) := by
  cases step with
  | pause => exact kept.outside fun _ latest => latest
  | rest => exact kept.outside fun _ latest => latest
  | stop =>
      refine kept.outside fun stream latest => ?_
      cases stream with
      | none => trivial
      | some stream => exact Or.inl latest
  | subscribe => exact kept.subscribed
  | quit =>
      obtain ⟨stream, earlier, streams, here⟩ := kept.stream id
      exact kept.noted streams rfl (.inr (Stream.Open.left here))
  | @ignore item forward =>
      obtain ⟨stream, earlier, streams, here⟩ := kept.stream id
      exact kept.noted streams rfl ((Stream.Open.look here item).found forward)
  | look item =>
      obtain ⟨stream, earlier, streams, here⟩ := kept.stream id
      exact kept.noted streams rfl (Stream.Open.look here item)
  | @hold item event forward =>
      obtain ⟨stream, earlier, streams, here⟩ := kept.stream id
      exact kept.noted streams rfl ((Stream.Open.look here item).found forward)
  | @found item event forward =>
      -- the item was noted when it was received
      refine kept.outside fun stream latest => ?_
      cases stream with
      | none => exact latest
      | some stream => exact Stream.Open.found latest forward
  | send event =>
      obtain ⟨stream, earlier, streams, here⟩ := kept.stream id
      exact kept.noted streams rfl (Stream.Open.send here)
  | fail e =>
      obtain ⟨stream, earlier, streams, here⟩ := kept.stream id
      exact kept.noted streams rfl (Stream.Open.fail here e)
  | exitIdle =>
      obtain ⟨stream, earlier, streams, failing⟩ := kept.stream id
      exact kept.noted streams rfl (Stream.Failing.closed failing)
  | exitEnded =>
      obtain ⟨stream, earlier, streams, failing⟩ := kept.stream id
      exact kept.noted streams rfl (.inl (Stream.Failing.closed failing))

end Steps

end LndkFormal.Async.Forwarder
