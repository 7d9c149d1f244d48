import LndkFormal.Async.Extend
import LndkFormal.Offers.LndRequests
import Mathlib.Algebra.Group.Nat.Defs

/-!
# Connecting to a peer again and again

`connect_to_peer_with_retry` runs `connect_to_peer` until a run succeeds, with a
growing pause before each further run, until the shutdown signal or until too
many runs have failed.
-/

set_option autoImplicit false

namespace LndkFormal.Offers

open LndkFormal.Async
open LndkFormal.Lnd
open LndkFormal.Ldk

def INITIAL_DELAY_MS : UInt64 := 500

def MAX_DELAY_MS : UInt64 := 60000

def MAX_ATTEMPTS : Nat := 10

/-- The `select!` before a run, with the time to sleep in milliseconds. -/
structure Pause where
  delay : Option UInt64
  deriving DecidableEq

/-- How the `select!` ends.  It looks for the shutdown signal first. -/
inductive Waking where
  | shutdown
  | due
  deriving DecidableEq

abbrev RetrySig : Signature := Sig.extend Pause fun _ => Waking

def retryDelay (attempts : Nat) : Option UInt64 :=
  if attempts > 0 then
    some (min (INITIAL_DELAY_MS * UInt64.pow 2 (attempts - 1)) MAX_DELAY_MS)
  else none

section Retry

variable (ldk : Library) (nodeId : PublicKey)

def connectLoop (attempts : Nat) : Prog RetrySig (Except OfferError Unit) :=
  .call (.inr ⟨retryDelay attempts⟩) fun
    | .shutdown => .ret (.ok ())
    | .due =>
        (connectToPeer ldk nodeId).lift >>= fun
          | .ok () => .ret (.ok ())
          | .error e =>
              if attempts + 1 > MAX_ATTEMPTS then .ret (.error e) else connectLoop (attempts + 1)
termination_by MAX_ATTEMPTS + 1 - attempts
decreasing_by omega

def connectToPeerWithRetry : Prog RetrySig (Except OfferError Unit) := connectLoop ldk nodeId 0

end Retry

def isConnect : Event Sig → Bool
  | .call (.connectPeer _ _) _ => true
  | _ => false

/-- A run of `connect_to_peer` asks LND to connect at most once, only to a node that
LND did not list as a peer, and at an address LND advertises for it. -/
structure ConnectsOnce (ldk : Library) (nodeId : PublicKey) (run : List (Event Sig)) : Prop where
  once : run.countP isConnect ≤ 1
  unlisted : ∀ key addr reply peers, .call (.connectPeer key addr) reply ∈ run →
    .call .listPeers (.ok peers) ∈ run → ∀ peer ∈ peers, peer.pubKey ≠ ldk.publicKeyToString nodeId
  advertised : ∀ key addr reply, .call (.connectPeer key addr) reply ∈ run →
    key = ldk.publicKeyToString nodeId ∧
    ∃ info node, .call (.getNodeInfo (ldk.publicKeyToString nodeId) false) (.ok info) ∈ run ∧
      info.node = some node ∧ ∃ address ∈ node.addresses, address.addr = addr

section Run

variable {ldk : Library} {nodeId : PublicKey} {run : List (Event Sig)}
  {left : Prog Sig (Except OfferError Unit)}

/-- A run either does not come to the connection, or it has all three requests. -/
theorem connectToPeer_events (reached : Reaches (connectToPeer ldk nodeId) run left) :
    (∀ event ∈ run, isConnect event = false) ∨
    ∃ peers info node address more connected,
      run = [.call .listPeers (.ok peers),
        .call (.getNodeInfo (ldk.publicKeyToString nodeId) false) (.ok info),
        .call (.connectPeer (ldk.publicKeyToString nodeId) address.addr) connected] ∧
      (∀ peer ∈ peers, peer.pubKey ≠ ldk.publicKeyToString nodeId) ∧
      info.node = some node ∧ node.addresses = address :: more := by
  rcases reaches_request_cases reached with rfl | ⟨listed, events, rfl, asked⟩
  · exact .inl (by simp)
  cases listed with
  | error e =>
    obtain rfl := Reaches.of_ret asked
    exact .inl (by simp [isConnect])
  | ok peers =>
    dsimp only at asked
    split at asked
    · obtain rfl := Reaches.of_ret asked
      exact .inl (by simp [isConnect])
    rename_i unlisted
    rcases reaches_request_cases asked with rfl | ⟨answer, events, rfl, answered⟩
    · exact .inl (by simp [isConnect])
    cases answer with
    | error e =>
      obtain rfl := Reaches.of_ret answered
      exact .inl (by simp [isConnect])
    | ok info =>
      dsimp only at answered
      split at answered
      · obtain rfl := Reaches.of_ret answered
        exact .inl (by simp [isConnect])
      · obtain rfl := Reaches.of_ret answered
        exact .inl (by simp [isConnect])
      rename_i address more addresses
      rcases reaches_request_cases answered with rfl | ⟨connected, events, rfl, ended⟩
      · exact .inl (by simp [isConnect])
      obtain ⟨node, known, listed⟩ := Option.map_eq_some_iff.mp addresses
      have done : events = [] := by
        cases connected <;> exact Reaches.of_ret ended
      subst done
      exact .inr ⟨peers, info, node, address, more, connected, rfl, by simpa using unlisted, known,
        listed⟩

theorem connectToPeer_connectsOnce (reached : Reaches (connectToPeer ldk nodeId) run left) :
    ConnectsOnce ldk nodeId run := by
  rcases connectToPeer_events reached with
    silent | ⟨peers, info, node, address, more, connected, whole, unlisted, known, listed⟩
  · have never : ∀ key addr reply, .call (.connectPeer key addr) reply ∉ run := by
      intro key addr reply sent
      cases silent _ sent
    constructor
    · rw [List.countP_eq_zero.mpr fun event member => by simp [silent event member]]
      omega
    · intro key addr reply peers sent
      exact absurd sent (never key addr reply)
    · intro key addr reply sent
      exact absurd sent (never key addr reply)
  · subst whole
    constructor
    · simp [isConnect]
    · intro key addr reply others _ seen
      simp only [List.mem_cons, List.not_mem_nil, or_false] at seen
      rcases seen with same | same | same <;> cases same
      exact unlisted
    · intro key addr reply sent
      simp only [List.mem_cons, List.not_mem_nil, or_false] at sent
      rcases sent with same | same | same <;> cases same
      refine ⟨rfl, info, node, by simp, known, address, ?_, rfl⟩
      rw [listed]
      exact List.mem_cons_self

end Run

/-! ## All runs -/

/-- The pause before a run in milliseconds; `r` runs came before. -/
def delayBefore : Nat → Option UInt64
  | 0 => none
  | r + 1 => some (UInt64.ofNat (min (500 * 2 ^ r) 60000))

theorem retryDelay_eq : ∀ r ≤ MAX_ATTEMPTS, retryDelay r = delayBefore r := by decide

theorem delay_fits : ∀ r ≤ MAX_ATTEMPTS, 500 * 2 ^ (r - 1) < UInt64.size := by decide

def paced : Nat → List (List (Event Sig)) → List (Event RetrySig)
  | _, [] => []
  | r, run :: runs =>
      (.call (.inr ⟨delayBefore r⟩) .due :: run.map Event.lift) ++ paced (r + 1) runs

theorem paced_single (r : Nat) (run : List (Event Sig)) :
    paced r [run] = .call (.inr ⟨delayBefore r⟩) .due :: run.map Event.lift :=
  List.append_nil _

section Loop

variable (ldk : Library) (nodeId : PublicKey)

/-- The runs the loop has started after `r` runs that failed, all its events, and what is
left of it. -/
inductive Retrying : Nat → List (List (Event Sig)) → List (Event RetrySig) →
    Prog RetrySig (Except OfferError Unit) → Prop where
  | waiting {r : Nat} {rest : Prog RetrySig (Except OfferError Unit)} (more : rest.Open) :
      Retrying r [] [] rest
  | stopped {r : Nat} :
      Retrying r [] [.call (.inr ⟨delayBefore r⟩) .shutdown] (.ret (.ok ()))
  | running {r : Nat} {run : List (Event Sig)} {left : Prog Sig (Except OfferError Unit)}
      {rest : Prog RetrySig (Except OfferError Unit)}
      (reached : Reaches (connectToPeer ldk nodeId) run left) (unfinished : left.Open)
      (more : rest.Open) : Retrying r [run] (paced r [run]) rest
  | succeeded {r : Nat} {run : List (Event Sig)}
      (reached : Reaches (connectToPeer ldk nodeId) run (.ret (.ok ()))) :
      Retrying r [run] (paced r [run]) (.ret (.ok ()))
  | gaveUp {run : List (Event Sig)} {e : OfferError}
      (reached : Reaches (connectToPeer ldk nodeId) run (.ret (.error e))) :
      Retrying MAX_ATTEMPTS [run] (paced MAX_ATTEMPTS [run]) (.ret (.error e))
  | failed {r : Nat} {run : List (Event Sig)} {e : OfferError} {runs : List (List (Event Sig))}
      {trace : List (Event RetrySig)} {rest : Prog RetrySig (Except OfferError Unit)}
      (few : r < MAX_ATTEMPTS) (reached : Reaches (connectToPeer ldk nodeId) run (.ret (.error e)))
      (later : Retrying (r + 1) runs trace rest) :
      Retrying r (run :: runs) (paced r [run] ++ trace) rest

variable {ldk nodeId}

theorem open_lift_bind {left : Prog Sig (Except OfferError Unit)} (unfinished : left.Open)
    (k : Except OfferError Unit → Prog RetrySig (Except OfferError Unit)) :
    (left.lift >>= k : Prog RetrySig _).Open := by
  cases left with
  | ret value => exact unfinished.elim
  | _ => trivial

/-- Every trace of the loop has this form.  The induction is on the runs that are left. -/
theorem connectLoop_retrying {r : Nat} (bound : r ≤ MAX_ATTEMPTS) {trace : List (Event RetrySig)}
    {rest : Prog RetrySig (Except OfferError Unit)}
    (reached : Reaches (connectLoop ldk nodeId r) trace rest) :
    ∃ runs, Retrying ldk nodeId r runs trace rest := by
  induction gap : MAX_ATTEMPTS - r using Nat.strong_induction_on generalizing r trace with
  | _ gap ih =>
    rw [connectLoop, retryDelay_eq r bound] at reached
    cases reached with
    | refl => exact ⟨[], .waiting trivial⟩
    | call waking onward =>
      cases waking with
      | shutdown =>
        cases onward
        exact ⟨[], .stopped⟩
      | due =>
        rcases reaches_lift_bind onward with ⟨run, left, rfl, went, unfinished, rfl⟩ |
          ⟨run, result, later, rfl, went, after⟩
        · rw [← paced_single]
          exact ⟨[run], .running went unfinished (open_lift_bind unfinished _)⟩
        · rw [← List.cons_append, ← paced_single]
          cases result with
          | ok _ =>
            cases after
            rw [List.append_nil]
            exact ⟨[run], .succeeded went⟩
          | error e =>
            dsimp only at after
            split at after
            · rename_i last
              obtain rfl : r = MAX_ATTEMPTS := by omega
              cases after
              rw [List.append_nil]
              exact ⟨[run], .gaveUp went⟩
            · rename_i more
              have few : r < MAX_ATTEMPTS := by omega
              obtain ⟨runs, retrying⟩ := ih _ (by omega) few after rfl
              exact ⟨run :: runs, .failed few went retrying⟩

/-- What holds of the loop after `r` runs that failed. -/
structure RetryDiscipline (ldk : Library) (nodeId : PublicKey) (r : Nat)
    (runs : List (List (Event Sig))) (trace : List (Event RetrySig))
    (rest : Prog RetrySig (Except OfferError Unit)) : Prop where
  bounded : r + runs.length ≤ MAX_ATTEMPTS + 1
  /-- Runs and pauses take turns, and after the shutdown signal there is neither. -/
  turns : ∃ tail, trace = paced r runs ++ tail ∧
    (tail = [] ∨ (∃ pause, tail = [.call (.inr pause) .shutdown]) ∧ rest = .ret (.ok ()))
  noOverflow : ∀ i < r + runs.length, 500 * 2 ^ (i - 1) < UInt64.size
  genuine : ∀ run ∈ runs, (∃ left, Reaches (connectToPeer ldk nodeId) run left) ∧
    ConnectsOnce ldk nodeId run
  again : ∀ run ∈ runs.dropLast, ∃ e, Reaches (connectToPeer ldk nodeId) run (.ret (.error e))
  success : ∀ run ∈ runs, Reaches (connectToPeer ldk nodeId) run (.ret (.ok ())) →
    runs.getLast? = some run ∧ trace = paced r runs ∧ rest = .ret (.ok ())
  failure : ∀ e, rest = .ret (.error e) → r + runs.length = MAX_ATTEMPTS + 1 ∧
    trace = paced r runs ∧ ∃ last, runs.getLast? = some last ∧
      Reaches (connectToPeer ldk nodeId) last (.ret (.error e))
  /-- `Ok` is a last run that has succeeded, or the shutdown signal. -/
  ended : rest = .ret (.ok ()) →
    (∃ last, runs.getLast? = some last ∧
      Reaches (connectToPeer ldk nodeId) last (.ret (.ok ()))) ∨
    ∃ pause, trace = paced r runs ++ [.call (.inr pause) .shutdown]

theorem RetryDiscipline.of_run {r : Nat} (bound : r ≤ MAX_ATTEMPTS) {run : List (Event Sig)}
    {left : Prog Sig (Except OfferError Unit)} {rest : Prog RetrySig (Except OfferError Unit)}
    (reached : Reaches (connectToPeer ldk nodeId) run left)
    (success : Reaches (connectToPeer ldk nodeId) run (.ret (.ok ())) → rest = .ret (.ok ()))
    (failure : ∀ e, rest = .ret (.error e) → r = MAX_ATTEMPTS ∧
      Reaches (connectToPeer ldk nodeId) run (.ret (.error e)))
    (ended : rest = .ret (.ok ()) → Reaches (connectToPeer ldk nodeId) run (.ret (.ok ()))) :
    RetryDiscipline ldk nodeId r [run] (paced r [run]) rest where
  bounded := by
    rw [List.length_singleton]
    omega
  turns := ⟨[], (List.append_nil _).symm, .inl rfl⟩
  noOverflow := by
    intro i early
    rw [List.length_singleton] at early
    exact delay_fits i (by omega)
  genuine := by
    intro other member
    rw [List.mem_singleton.mp member]
    exact ⟨⟨left, reached⟩, connectToPeer_connectsOnce reached⟩
  again := by
    intro other member
    cases member
  success := by
    intro other member ended
    rw [List.mem_singleton.mp member] at ended ⊢
    exact ⟨rfl, rfl, success ended⟩
  failure := by
    intro e same
    obtain ⟨last, ended⟩ := failure e same
    refine ⟨?_, rfl, run, rfl, ended⟩
    rw [last, List.length_singleton]
  ended := fun same => .inl ⟨run, rfl, ended same⟩

theorem RetryDiscipline.of_none {r : Nat} (bound : r ≤ MAX_ATTEMPTS)
    {trace : List (Event RetrySig)} {rest : Prog RetrySig (Except OfferError Unit)}
    (turns : trace = [] ∨ (∃ pause, trace = [.call (.inr pause) .shutdown]) ∧ rest = .ret (.ok ()))
    (unfailed : ∀ e, rest ≠ .ret (.error e))
    (ended : rest = .ret (.ok ()) → ∃ pause, trace = [.call (.inr pause) .shutdown]) :
    RetryDiscipline ldk nodeId r [] trace rest where
  bounded := Nat.le_succ_of_le bound
  turns := ⟨trace, rfl, turns⟩
  noOverflow := fun i early => delay_fits i (Nat.le_trans (Nat.le_of_lt early) bound)
  genuine := by
    intro run member
    cases member
  again := by
    intro run member
    cases member
  success := by
    intro run member
    cases member
  failure := fun e same => absurd same (unfailed e)
  ended := fun same => .inr (ended same)

/-- A run that fails goes before the rest of the loop. -/
theorem RetryDiscipline.cons {r : Nat} {run : List (Event Sig)} {e : OfferError}
    {runs : List (List (Event Sig))} {trace : List (Event RetrySig)}
    {rest : Prog RetrySig (Except OfferError Unit)}
    (reached : Reaches (connectToPeer ldk nodeId) run (.ret (.error e)))
    (later : RetryDiscipline ldk nodeId (r + 1) runs trace rest) :
    RetryDiscipline ldk nodeId r (run :: runs) (paced r [run] ++ trace) rest := by
  have longer : paced r [run] ++ paced (r + 1) runs = paced r (run :: runs) := by
    rw [paced_single]
    rfl
  have count : r + (run :: runs).length = r + 1 + runs.length := by
    rw [List.length_cons]
    omega
  have atLast {last : List (Event Sig)} (atEnd : runs.getLast? = some last) :
      (run :: runs).getLast? = some last := by
    rw [List.getLast?_cons, atEnd]
    rfl
  constructor
  · rw [count]
    exact later.bounded
  · obtain ⟨tail, split, ending⟩ := later.turns
    refine ⟨tail, ?_, ending⟩
    rw [split, ← List.append_assoc, longer]
  · rw [count]
    exact later.noOverflow
  · intro other member
    rcases List.mem_cons.mp member with same | member
    · rw [same]
      exact ⟨⟨_, reached⟩, connectToPeer_connectsOnce reached⟩
    · exact later.genuine other member
  · intro other member
    cases runs with
    | nil => cases member
    | cons next more =>
      rcases List.mem_cons.mp member with same | member
      · rw [same]
        exact ⟨e, reached⟩
      · exact later.again other member
  · intro other member ended
    rcases List.mem_cons.mp member with same | member
    · rw [same] at ended
      cases reached.unique ended
    · obtain ⟨last, split, returned⟩ := later.success other member ended
      refine ⟨atLast last, ?_, returned⟩
      rw [split, longer]
  · intro e same
    obtain ⟨all, split, last, atEnd, ended⟩ := later.failure e same
    refine ⟨count.trans all, ?_, last, atLast atEnd, ended⟩
    rw [split, longer]
  · intro same
    rcases later.ended same with ⟨last, atEnd, succeeded⟩ | ⟨pause, split⟩
    · exact .inl ⟨last, atLast atEnd, succeeded⟩
    · refine .inr ⟨pause, ?_⟩
      rw [split, ← List.append_assoc, longer]

theorem Retrying.disciplined {r : Nat} {runs : List (List (Event Sig))}
    {trace : List (Event RetrySig)} {rest : Prog RetrySig (Except OfferError Unit)}
    (retrying : Retrying ldk nodeId r runs trace rest) (bound : r ≤ MAX_ATTEMPTS) :
    RetryDiscipline ldk nodeId r runs trace rest := by
  induction retrying with
  | waiting more =>
    exact .of_none bound (.inl rfl) (fun e same => more.not_ret same)
      fun same => (more.not_ret same).elim
  | stopped =>
    exact .of_none bound (.inr ⟨⟨_, rfl⟩, rfl⟩) (fun e same => by cases same) fun _ => ⟨_, rfl⟩
  | running reached unfinished more =>
    refine .of_run bound reached (fun ended => ?_) (fun e same => ?_) fun same => ?_
    · exact (unfinished.not_ret (reached.unique ended)).elim
    · exact (more.not_ret same).elim
    · exact (more.not_ret same).elim
  | succeeded reached =>
    exact .of_run bound reached (fun _ => rfl) (fun e same => by cases same) fun _ => reached
  | gaveUp reached =>
    refine .of_run bound reached (fun ended => ?_) (fun e same => ?_) fun same => ?_
    · cases reached.unique ended
    · cases same
      exact ⟨rfl, reached⟩
    · cases same
  | failed few reached _ ih => exact .cons reached (ih few)

end Loop

/-- Every trace of `connect_to_peer_with_retry`, finished or not, keeps to the discipline. -/
theorem connectToPeerWithRetry_disciplined (ldk : Library) (nodeId : PublicKey)
    (trace : List (Event RetrySig)) (rest : Prog RetrySig (Except OfferError Unit))
    (reached : Reaches (connectToPeerWithRetry ldk nodeId) trace rest) :
    ∃ runs, RetryDiscipline ldk nodeId 0 runs trace rest := by
  obtain ⟨runs, retrying⟩ := connectLoop_retrying (Nat.zero_le _) reached
  exact ⟨runs, retrying.disciplined (Nat.zero_le _)⟩

def secondTry : List (Event RetrySig) :=
  let info : NodeInfo := ⟨some ⟨[⟨"127.0.0.1:9735"⟩], []⟩, []⟩
  [.call (.inr ⟨none⟩) .due, .call (.inl .listPeers) (.ok []),
    .call (.inl (.getNodeInfo "" false)) (.ok info),
    .call (.inl (.connectPeer "" "127.0.0.1:9735")) (.error ⟨.unavailable, "offline", none⟩),
    .call (.inr ⟨some 500⟩) .due, .call (.inl .listPeers) (.ok []),
    .call (.inl (.getNodeInfo "" false)) (.ok info),
    .call (.inl (.connectPeer "" "127.0.0.1:9735")) (.ok ())]

theorem connectToPeerWithRetry_disciplined_second :
    Reaches (connectToPeerWithRetry (.plain .twoPaths) (.repeated 2)) secondTry (.ret (.ok ())) ∧
      ∃ runs, RetryDiscipline (.plain .twoPaths) (.repeated 2) 0 runs secondTry
        (.ret (.ok ())) := by
  have reached : Reaches (connectToPeerWithRetry (.plain .twoPaths) (.repeated 2)) secondTry
      (.ret (.ok ())) := by
    rw [connectToPeerWithRetry, connectLoop]
    refine .call _ (.call _ (.call _ (.call _ ?_)))
    rw [connectLoop]
    exact .call _ (.call _ (.call _ (.call _ (.refl _))))
  exact ⟨reached, connectToPeerWithRetry_disciplined _ _ _ _ reached⟩

end LndkFormal.Offers
