import LndkFormal.Async.Pool
import Mathlib.Logic.Function.Basic

/-!
# Networks of machines

A network has a machine at each node.  Its steps are the steps of the nodes, one
at a time and in any order.  Each node's steps meet a guard of their own, which
sees that node only, and a guard of the network, which sees the steps of all
nodes so far.  A message that one node sends and another one gets is such a
network guard: it lets the second node be spawned a request only after the first
node's step.
-/

set_option autoImplicit false

namespace LndkFormal.Async

variable {ι : Type} [DecidableEq ι] {sig : Signature} {S Req α : Type}

def stepsOf (n : ι) (labels : List (ι × Label sig Req)) : List (Label sig Req) :=
  labels.filterMap fun (m, label) => if m = n then some label else none

theorem stepsOf_append (n : ι) (first second : List (ι × Label sig Req)) :
    stepsOf n (first ++ second) = stepsOf n first ++ stepsOf n second := by
  simp only [stepsOf, List.filterMap_append]

@[simp] theorem stepsOf_self (n : ι) (label : Label sig Req) :
    stepsOf n [(n, label)] = [label] := by
  simp [stepsOf]

theorem stepsOf_other {n m : ι} (other : m ≠ n) (label : Label sig Req) :
    stepsOf n [(m, label)] = [] := by
  simp [stepsOf, other]

abbrev NetGuard (ι : Type) (sig : Signature) (Req : Type) :=
  List (ι × Label sig Req) → ι × Label sig Req → Prop

inductive NetRun (M : ι → Machine sig S Req α) (init : S) (own : Guard sig S Req α)
    (joint : NetGuard ι sig Req) :
    List (ι × Label sig Req) → (ι → Pool sig S Req α) → Prop where
  | start : NetRun M init own joint [] (fun _ => ⟨init, []⟩)
  | step {labels : List (ι × Label sig Req)} {pools : ι → Pool sig S Req α} {n : ι}
      {label : Label sig Req} {pool' : Pool sig S Req α}
      (before : NetRun M init own joint labels pools)
      (allowed : own (stepsOf n labels) (pools n) label) (possible : joint labels (n, label))
      (taken : Step (M n) (pools n) label pool') :
      NetRun M init own joint (labels ++ [(n, label)]) (Function.update pools n pool')

variable {M : ι → Machine sig S Req α} {init : S} {own : Guard sig S Req α}
variable {joint : NetGuard ι sig Req} {labels : List (ι × Label sig Req)}
variable {pools : ι → Pool sig S Req α}

theorem NetRun.node (run : NetRun M init own joint labels pools) (n : ι) :
    Run (M n) init own (stepsOf n labels) (pools n) := by
  induction run with
  | start => exact .start
  | @step labels pools m label pool' _ allowed _ taken ih =>
      rw [stepsOf_append]
      by_cases same : m = n
      · subst same
        rw [stepsOf_self, Function.update_self]
        exact .step ih allowed taken
      · rw [stepsOf_other same, List.append_nil, Function.update_of_ne (Ne.symm same)]
        exact ih

theorem NetRun.spawned (run : NetRun M init own joint labels pools) {n : ι} {i : Nat}
    {task : Task sig Req α} (found : (pools n).tasks[i]? = some task) :
    ∃ pre post, pre ++ (n, .spawn task.request) :: post = labels ∧
      joint pre (n, .spawn task.request) := by
  induction run generalizing task with
  | start => simp at found
  | @step labels pools m label pool' _ _ possible taken ih =>
      have earlier : ∀ {other : Task sig Req α}, (pools n).tasks[i]? = some other →
          other.request = task.request →
          ∃ pre post, pre ++ (n, .spawn task.request) :: post = labels ++ [(m, label)] ∧
            joint pre (n, .spawn task.request) := by
        intro other before same
        obtain ⟨pre, post, whole, let_⟩ := ih before
        rw [same] at whole let_
        exact ⟨pre, post ++ [(m, label)], by simp [← whole], let_⟩
      by_cases same : m = n
      · subst same
        rw [Function.update_self] at found
        rcases taken.task_cases found with ⟨old, _⟩ | ⟨request, rfl, rfl, _⟩ |
          ⟨event, previous, rfl, old, sameRequest, _⟩
        · exact earlier old rfl
        · exact ⟨labels, [], rfl, possible⟩
        · exact earlier old sameRequest.symm
      · rw [Function.update_of_ne (Ne.symm same)] at found
        exact earlier found rfl

/-! ## Schedules that can be computed -/

abbrev NetState (ι : Type) (sig : Signature) (S Req α : Type) :=
  List (ι × Label sig Req) × (ι → Pool sig S Req α)

def netAdvance (M : ι → Machine sig S Req α) (state : NetState ι sig S Req α) (n : ι)
    (choice : Choice sig Req) : NetState ι sig S Req α :=
  let advanced := advance (M n) (state.2 n) choice
  (state.1 ++ advanced.1.map (Prod.mk n), Function.update state.2 n advanced.2)

def NetPermitted (M : ι → Machine sig S Req α) (own : Guard sig S Req α)
    (joint : NetGuard ι sig Req) : List (ι × Choice sig Req) → NetState ι sig S Req α → Prop
  | [], _ => True
  | (n, choice) :: rest, state =>
      (∀ label ∈ (advance (M n) (state.2 n) choice).1,
        own (stepsOf n state.1) (state.2 n) label ∧ joint state.1 (n, label)) ∧
      NetPermitted M own joint rest (netAdvance M state n choice)

instance decidableNetPermitted [∀ labels pool label, Decidable (own labels pool label)]
    [∀ labels label, Decidable (joint labels label)] :
    (choices : List (ι × Choice sig Req)) → (state : NetState ι sig S Req α) →
      Decidable (NetPermitted M own joint choices state)
  | [], _ => isTrue trivial
  | (n, choice) :: rest, state =>
      have := decidableNetPermitted rest (netAdvance M state n choice)
      inferInstanceAs (Decidable (_ ∧ _))

end LndkFormal.Async
