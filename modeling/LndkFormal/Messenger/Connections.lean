import Mathlib.Algebra.Group.Action.Defs
import Mathlib.Algebra.Order.BigOperators.Group.List
import Mathlib.Algebra.Order.Ring.Nat
import LndkFormal.Async.Pool
import LndkFormal.Messenger.Wire
import LndkFormal.Offers.ConnectRetry

/-!
# The connections that LDK asks for

The consumer spawns a task for every `ConnectionNeeded` of LDK, and the tasks run
beside it and beside each other.  Whatever the interleaving, LND is asked to connect
only to nodes that LDK asked for, at an address LND knows, and boundedly often.
-/

set_option autoImplicit false

namespace LndkFormal.Messenger

open LndkFormal.Async
open LndkFormal.Ldk
open LndkFormal.Lnd
open LndkFormal.RateLimit
open LndkFormal.Offers

def LdkEvent.needed : LdkEvent → Option PublicKey
  | .connectionNeeded nodeId _ => some nodeId
  | .onionMessageIntercepted | .onionMessagePeerConnected | .other => none

def neededNodes : Event WireSig → List PublicKey
  | .call .pendingEvents events => events.filterMap LdkEvent.needed
  | _ => []

def spawnedNode : Event WireSig → Option PublicKey
  | .access (.spawn nodeId) _ => some nodeId
  | _ => none

/-- The ghost state holds the nodes of LDK's last answer that have no task yet. -/
def spawnMonitor : Monitor WireSig (List PublicKey) where
  demand due
    | .access (.spawn nodeId) _ => due.head? = some nodeId
    | _ => due = []
  next due
    | .access (.spawn _) _ => due.tail
    | .call .pendingEvents events => events.filterMap LdkEvent.needed
    | _ => due
  panicOk _ := True

theorem handleLdkEvents_spawns (events : List LdkEvent) :
    (handleLdkEvents events).Satisfies spawnMonitor (fun _ due => due = [])
      (events.filterMap LdkEvent.needed) := by
  induction events with
  | nil => exact rfl
  | cons event rest ih =>
      cases event with
      | connectionNeeded nodeId addresses => exact fun _ => ⟨rfl, ih⟩
      | onionMessageIntercepted | onionMessagePeerConnected | other => exact ih

theorem wire_spawns {call : WireCall} (other : call ≠ .pendingEvents) :
    (wire call).Satisfies spawnMonitor (fun _ due => due = []) [] := by
  intro reply
  cases call with
  | pendingEvents => exact absurd rfl other
  | _ => exact ⟨rfl, rfl⟩

theorem attemptProg_spawns (request : SendCustomMessageRequest) (most attempt : UInt8) :
    (attemptProg (fun request => wire (.send request)) (fun millis => wire (.sleep millis))
      request most attempt).Satisfies spawnMonitor (fun _ due => due = []) [] := by
  induction left : 255 - attempt.toNat using Nat.strong_induction_on generalizing attempt with
  | _ left ih =>
      rw [attemptProg]
      refine Prog.satisfies_request_bind.mpr fun outcome => ⟨rfl, ?_⟩
      cases outcome with
      | ok response => exact rfl
      | error e =>
          dsimp only
          split
          · split
            next => trivial
            next free =>
              split
              · exact rfl
              · refine Prog.satisfies_request_bind.mpr fun _ => ⟨rfl, ?_⟩
                have grown := toNat_succ_of_ne free
                have bound := attempt.toNat_lt
                have notLast : attempt.toNat ≠ 255 := fun last => free (UInt8.toNat_inj.mp last)
                exact ih _ (by omega) _ rfl
          · exact rfl

theorem carriedOut_spawns :
    Prog.Simulates carriedOut (.each fun _ => True) spawnMonitor (fun _ due => due = []) where
  access := by
    rintro _ due event rfl _
    exact fun _ => ⟨rfl, rfl⟩
  call := by
    rintro _ due call rfl _
    cases call with
    | sendCustomMessage request => exact attemptProg_spawns request 3 0
    | processPendingEvents =>
        exact Prog.satisfies_request_bind.mpr fun events => ⟨rfl, handleLdkEvents_spawns events⟩
    | _ => exact wire_spawns nofun
  panics := fun _ _ => trivial

/-- The tasks that were spawned and those still due are what LDK asked for. -/
theorem along_spawned {trace : List (Event WireSig)}
    (along : spawnMonitor.Along spawnMonitor.demand [] trace) :
    trace.filterMap spawnedNode ++ spawnMonitor.after [] trace = trace.flatMap neededNodes := by
  refine spawnMonitor.along_invariant
    (I := fun due trace => trace.filterMap spawnedNode ++ due = trace.flatMap neededNodes)
    rfl ?_ along
  intro due past event holds demanded
  rw [List.filterMap_append, List.flatMap_append, ← holds]
  cases event with
  | access op reply =>
      cases op with
      | take event =>
          have free : due = [] := demanded
          subst free
          simp [spawnMonitor, spawnedNode, neededNodes]
      | spawn nodeId =>
          cases due with
          | nil => cases demanded
          | cons first rest =>
              have same : first = nodeId := by simpa [spawnMonitor] using demanded
              subst same
              simp [spawnMonitor, spawnedNode, neededNodes]
  | call call reply =>
      have free : due = [] := demanded
      subst free
      cases call <;> simp [spawnMonitor, spawnedNode, neededNodes]

section Task

def connects : Event RetrySig → Bool
  | .call (.inl (.connectPeer _ _)) _ => true
  | _ => false

theorem connects_lift (event : Event Sig) :
    connects (event.lift : Event RetrySig) = isConnect event := by
  cases event with
  | access op reply => rfl
  | call call reply => cases call <;> rfl

theorem countP_paced (r : Nat) (runs : List (List (Event Sig)))
    (once : ∀ run ∈ runs, run.countP isConnect ≤ 1) :
    (paced r runs).countP connects ≤ runs.length := by
  induction runs generalizing r with
  | nil => exact Nat.le_refl _
  | cons run rest ih =>
      have first := once run List.mem_cons_self
      have later := ih (r + 1) fun other member => once other (List.mem_cons_of_mem _ member)
      have same : (run.map Event.lift).countP connects = run.countP isConnect := by
        rw [List.countP_map]
        exact List.countP_congr fun event _ => by simp [connects_lift]
      rw [paced, List.countP_append, List.countP_cons_of_neg (by simp [connects]), same,
        List.length_cons]
      omega

theorem mem_paced {r : Nat} {runs : List (List (Event Sig))} {event : Event RetrySig}
    (member : event ∈ paced r runs) (connecting : connects event = true) :
    ∃ run ∈ runs, ∃ before after, paced r runs = before ++ run.map Event.lift ++ after ∧
      event ∈ run.map Event.lift := by
  induction runs generalizing r with
  | nil => cases member
  | cons run rest ih =>
      rw [paced] at member ⊢
      rcases List.mem_append.mp member with here | later
      · rcases List.mem_cons.mp here with rfl | own
        · cases connecting
        · exact ⟨run, List.mem_cons_self, [_], paced (r + 1) rest, rfl, own⟩
      · obtain ⟨other, listed, before, after, split, own⟩ := ih later
        refine ⟨other, List.mem_cons_of_mem _ listed, paced r [run] ++ before, after, ?_, own⟩
        rw [paced_single, split]
        simp only [List.append_assoc]

/-- LND is asked to connect right after it did not list the node as a peer and told its
addresses; the first of them is taken. -/
def ConnectsAfter (ldk : Library) (nodeId : PublicKey) (log : List (Event RetrySig))
    (key addr : String) : Prop :=
  key = ldk.publicKeyToString nodeId ∧
    ∃ before after peers info node address more reply,
      log = before ++ [.call (.inl .listPeers) (.ok peers),
        .call (.inl (.getNodeInfo key false)) (.ok info),
        .call (.inl (.connectPeer key addr)) reply] ++ after ∧
      (∀ peer ∈ peers, peer.pubKey ≠ key) ∧ info.node = some node ∧
      node.addresses = address :: more ∧ address.addr = addr

variable {ldk : Library} {nodeId : PublicKey} {log : List (Event RetrySig)}
  {rest : Prog RetrySig (Except OfferError Unit)}

theorem connectToPeerWithRetry_count
    (reached : Reaches (connectToPeerWithRetry ldk nodeId) log rest) :
    log.countP connects ≤ MAX_ATTEMPTS + 1 := by
  obtain ⟨runs, retrying⟩ := connectLoop_retrying (Nat.zero_le _) reached
  have holds := retrying.disciplined (Nat.zero_le _)
  obtain ⟨tail, split, ending⟩ := holds.turns
  have few := countP_paced 0 runs fun run member => (holds.genuine run member).2.once
  have quiet : tail.countP connects = 0 := by
    rcases ending with rfl | ⟨⟨pause, rfl⟩, _⟩ <;> rfl
  have bounded := holds.bounded
  rw [split, List.countP_append, quiet]
  omega

theorem connectToPeerWithRetry_connects
    (reached : Reaches (connectToPeerWithRetry ldk nodeId) log rest) {key addr : String}
    {reply : Except Status Unit} (sent : .call (.inl (.connectPeer key addr)) reply ∈ log) :
    ConnectsAfter ldk nodeId log key addr := by
  obtain ⟨runs, retrying⟩ := connectLoop_retrying (Nat.zero_le _) reached
  have holds := retrying.disciplined (Nat.zero_le _)
  obtain ⟨tail, split, ending⟩ := holds.turns
  have inRuns : .call (.inl (.connectPeer key addr)) reply ∈ paced 0 runs := by
    rw [split] at sent
    rcases List.mem_append.mp sent with member | member
    · exact member
    · rcases ending with rfl | ⟨⟨pause, rfl⟩, _⟩
      · cases member
      · rcases List.mem_singleton.mp member with same
        cases same
  obtain ⟨run, listed, before, after, whole, own⟩ := mem_paced inRuns rfl
  obtain ⟨event, member, lifted⟩ := List.mem_map.mp own
  obtain ⟨left, ran⟩ := (holds.genuine run listed).1
  have connecting : isConnect event = true := by
    rw [← connects_lift, lifted]
    rfl
  rcases connectToPeer_events ran with
    silent | ⟨peers, info, node, address, more, connected, rfl, unlisted, known, addresses⟩
  · rw [silent event member] at connecting
    cases connecting
  · simp only [List.mem_cons, List.not_mem_nil, or_false] at member
    rcases member with rfl | rfl | rfl
    · cases lifted
    · cases lifted
    · cases lifted
      refine ⟨rfl, before, after ++ tail, peers, info, node, address, more, reply, ?_, unlisted,
        known, addresses, rfl⟩
      rw [split, whole, List.append_assoc]
      rfl

end Task

/-! ## All tasks -/

def connections (ldk : Library) :
    Machine RetrySig OfferState PublicKey (Except OfferError Unit) where
  start := connectToPeerWithRetry ldk
  access := Access.run

/-- A task begins only if the consumer has spawned it in `trace`, and then once. -/
def spawnedIn (trace : List (Event WireSig)) :
    Guard RetrySig OfferState PublicKey (Except OfferError Unit) := fun _ pool label =>
  match label with
  | .spawn nodeId => (pool.tasks.map Task.request).count nodeId <
      (trace.filterMap spawnedNode).count nodeId
  | .act _ _ => True

instance (trace : List (Event WireSig)) (labels : List (Async.Label RetrySig PublicKey))
    (pool : Pool RetrySig OfferState PublicKey (Except OfferError Unit)) :
    (label : Async.Label RetrySig PublicKey) → Decidable (spawnedIn trace labels pool label)
  | .spawn _ => inferInstanceAs (Decidable (_ < _))
  | .act _ _ => isTrue trivial

section Pool

variable {ldk : Library} {trace : List (Event WireSig)} {init : OfferState}
  {labels : List (Async.Label RetrySig PublicKey)}
  {pool : Pool RetrySig OfferState PublicKey (Except OfferError Unit)}

theorem requests_act {pool pool' : Pool RetrySig OfferState PublicKey (Except OfferError Unit)}
    {i : Nat} {event : Event RetrySig} (taken : Step (connections ldk) pool (.act i event) pool') :
    pool'.tasks.map Task.request = pool.tasks.map Task.request := by
  refine List.ext_getElem? fun j => ?_
  rw [List.getElem?_map, List.getElem?_map]
  by_cases same : i = j
  · subst same
    obtain ⟨task, task', here, there, unchanged, _⟩ := taken.actor
    rw [here, there, Option.map_some, Option.map_some, unchanged]
  · rw [taken.bystander same]

theorem run_count (run : Run (connections ldk) init (spawnedIn trace) labels pool)
    (nodeId : PublicKey) :
    (pool.tasks.map Task.request).count nodeId ≤ (trace.filterMap spawnedNode).count nodeId := by
  refine run.invariant (I := fun _ pool => (pool.tasks.map Task.request).count nodeId ≤
    (trace.filterMap spawnedNode).count nodeId) (Nat.zero_le _) ?_
  intro labels pool label pool' _ holds allowed taken
  cases label with
  | act i event =>
      rw [requests_act taken]
      exact holds
  | spawn request =>
      cases taken
      rw [List.map_append, List.count_append]
      by_cases same : request = nodeId
      · subst same
        have room : (pool.tasks.map Task.request).count request <
            (trace.filterMap spawnedNode).count request := allowed
        rw [List.map_singleton, List.count_singleton_self]
        exact room
      · simpa [same] using holds

end Pool

structure ConnectsAsked (ldk : Library) (trace : List (Event WireSig))
    (tasks : List (Task RetrySig PublicKey (Except OfferError Unit))) : Prop where
  /-- Each request of LDK is worth so many calls of LND at most. -/
  bounded : ∀ nodeId,
    ((tasks.filter fun task => task.request = nodeId).map fun task =>
      task.log.countP connects).sum ≤
      (MAX_ATTEMPTS + 1) * (trace.flatMap neededNodes).count nodeId
  /-- LND connects to nodes only that LDK asked for, and as it advertises them. -/
  genuine : ∀ task ∈ tasks, ∀ key addr reply,
    .call (.inl (.connectPeer key addr)) reply ∈ task.log →
    task.request ∈ trace.flatMap neededNodes ∧ ConnectsAfter ldk task.request task.log key addr

theorem connections_asked {cfg : RateLimiterCfg} (ldk : Library) (parts : RelayParts)
    (network : Network) (limiter : TokenLimiter cfg) (events : List MessengerEvent)
    (trace : List (Event WireSig)) (rest : Prog WireSig (Except ConsumerError Unit))
    (consumed : Reaches (consumeOnWire parts network limiter events) trace rest)
    (init : OfferState) (labels : List (Async.Label RetrySig PublicKey))
    (pool : Pool RetrySig OfferState PublicKey (Except OfferError Unit))
    (run : Run (connections ldk) init (spawnedIn trace) labels pool) :
    ConnectsAsked ldk trace pool.tasks := by
  have proved := Prog.Satisfies.implement carriedOut_spawns
    (Prog.satisfies_each_true (consumeMessengerEvents parts network limiter events) ())
    (h := []) rfl
  have spawned := along_spawned (satisfies_reaches proved consumed).1
  have needed : ∀ nodeId, (pool.tasks.map Task.request).count nodeId ≤
      (trace.flatMap neededNodes).count nodeId := by
    intro nodeId
    rw [← spawned, List.count_append]
    exact Nat.le_add_right_of_le (run_count run nodeId)
  have followed : ∀ task ∈ pool.tasks,
      Reaches (connectToPeerWithRetry ldk task.request) task.log task.prog := by
    intro task member
    obtain ⟨i, found⟩ := List.mem_iff_getElem?.mp member
    exact run.task_reaches found
  constructor
  · intro nodeId
    have few : ∀ count ∈ (pool.tasks.filter fun task => task.request = nodeId).map fun task =>
        task.log.countP connects, count ≤ MAX_ATTEMPTS + 1 := by
      intro count member
      obtain ⟨task, listed, rfl⟩ := List.mem_map.mp member
      exact connectToPeerWithRetry_count (followed task (List.mem_filter.mp listed).1)
    have total := List.sum_le_card_nsmul _ _ few
    rw [List.length_map, smul_eq_mul, Nat.mul_comm] at total
    refine total.trans (Nat.mul_le_mul_left _ ?_)
    have counted := needed nodeId
    rw [← List.countP_eq_length_filter]
    simpa [List.count, List.countP_map, Function.comp_def, beq_eq_decide] using counted
  · intro task member key addr reply sent
    refine ⟨?_, connectToPeerWithRetry_connects (followed task member) sent⟩
    have here : 0 < (pool.tasks.map Task.request).count task.request :=
      List.count_pos_iff.mpr (List.mem_map_of_mem member)
    exact List.count_pos_iff.mp (Nat.lt_of_lt_of_le here (needed task.request))

/-- LND does not know the peer, advertises one address for it, and fails to connect. -/
def unreachable : (call : RetrySig.Call) → RetrySig.CallReply call
  | .inl .listPeers => .ok []
  | .inl (.getNodeInfo _ _) => .ok ⟨some ⟨[⟨"192.0.2.1:9735"⟩], []⟩, []⟩
  | .inl call => call.refused
  | .inr _ => .due

def twoAttempts : List (Async.Label RetrySig PublicKey) ×
    Pool RetrySig OfferState PublicKey (Except OfferError Unit) :=
  schedule (connections (.plain .twoPaths))
    (.spawn (.repeated 3) :: List.replicate 8 (.act 0 unreachable)) ([], ⟨.new, []⟩)

theorem connections_asked_twice :
    (twoAttempts.2.tasks.map fun task => task.log.countP connects) = [2] ∧
      ConnectsAsked (.plain .twoPaths) wireRun.1 twoAttempts.2.tasks := by
  refine ⟨by decide +kernel, connections_asked _ _ _ _ _ _ _ (Prog.play_reaches _ _ _) .new
    twoAttempts.1 twoAttempts.2 (schedule_run _ .start ?_)⟩
  decide +kernel

end LndkFormal.Messenger
