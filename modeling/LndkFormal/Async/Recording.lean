import LndkFormal.Async.Prog

/-!
# Monitors that keep the log

The ghost state is everything that has happened, so that a demand on an event may speak
about all events before it, and a postcondition about the whole trace.
-/

set_option autoImplicit false

namespace LndkFormal.Async

variable {sig : Signature} {α : Type}

/-- Asks of each event that it fits the events before it.  Panics are allowed. -/
def Monitor.recording (demand : List (Event sig) → Event sig → Prop) :
    Monitor sig (List (Event sig)) where
  demand := demand
  next past event := past ++ [event]
  panicOk _ := True

variable {demand : List (Event sig) → Event sig → Prop}

theorem Monitor.recording_after (past log : List (Event sig)) :
    (Monitor.recording demand).after past log = past ++ log := by
  induction log generalizing past with
  | nil => simp [Monitor.after]
  | cons event rest ih =>
      rw [Monitor.after_cons, ih, Monitor.recording, List.append_assoc, List.singleton_append]

variable {post : α → List (Event sig) → Prop} {p : Prog sig α}

theorem recorded_event (proved : p.Satisfies (.recording demand) post [])
    {pre later : List (Event sig)} {event : Event sig} {rest : Prog sig α}
    (run : Reaches p (pre ++ event :: later) rest) : demand pre event := by
  have along := (satisfies_reaches proved run).1
  rw [Monitor.along_append, Monitor.recording_after, List.nil_append] at along
  exact along.2.1

theorem recorded_return (proved : p.Satisfies (.recording demand) post [])
    {log : List (Event sig)} {value : α} (run : Reaches p log (.ret value)) : post value log := by
  have returned := (satisfies_reaches proved run).2
  rw [Monitor.recording_after, List.nil_append] at returned
  exact returned

end LndkFormal.Async
