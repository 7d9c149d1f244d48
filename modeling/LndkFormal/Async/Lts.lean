import Mathlib.Data.List.Basic

/-!
# Labelled systems and their runs

A system says what each label makes of a state.  Its runs keep their labels, and
a guard may restrict a step by what has happened before it.
-/

set_option autoImplicit false

namespace LndkFormal.Async

structure Lts (S L : Type) where
  init : S
  next : S → L → Option S

namespace Lts

variable {S L : Type}

/-- A condition on a step, given the labels before it and the state it starts from. -/
abbrev Guard (S L : Type) := List L → S → L → Prop

def unguarded : Guard S L := fun _ _ _ => True

instance (past : List L) (s : S) (label : L) : Decidable (unguarded past s label) :=
  isTrue trivial

inductive Run (M : Lts S L) (guard : Guard S L) : List L → S → Prop where
  | start : Run M guard [] M.init
  | step {labels : List L} {s s' : S} {label : L} (before : Run M guard labels s)
      (allowed : guard labels s label) (taken : M.next s label = some s') :
      Run M guard (labels ++ [label]) s'

variable {M : Lts S L} {guard : Guard S L}

/-- An invariant that may also speak of the labels so far. -/
theorem Run.invariant {I : List L → S → Prop} (first : I [] M.init)
    (kept : ∀ labels s label s', Run M guard labels s → I labels s → guard labels s label →
      M.next s label = some s' → I (labels ++ [label]) s')
    {labels : List L} {s : S} (run : Run M guard labels s) : I labels s := by
  induction run with
  | start => exact first
  | step before allowed taken ih => exact kept _ _ _ _ before ih allowed taken

section Records

variable {R : Type} (write : R → S → L → S → R)

def record (M : Lts S L) : R → S → List L → R
  | kept, _, [] => kept
  | kept, s, label :: rest =>
      match M.next s label with
      | some s' => record M (write kept s label s') s' rest
      | none => kept

variable {write}

theorem Run.record_from {labels : List L} {s : S} (run : Run M guard labels s) (kept : R)
    (later : List L) :
    M.record write kept M.init (labels ++ later) =
      M.record write (M.record write kept M.init labels) s later := by
  induction run generalizing later with
  | start => rfl
  | step before allowed taken ih =>
      rw [List.append_assoc, ih, ih]
      simp only [List.singleton_append, record, taken]

/-- What every step keeps between the record and the state holds of every run. -/
theorem Run.record_invariant {I : R → S → Prop} {kept : R} (first : I kept M.init)
    (keeps : ∀ labels kept s label s', Run M guard labels s → I kept s → guard labels s label →
      M.next s label = some s' → I (write kept s label s') s')
    {labels : List L} {s : S} (run : Run M guard labels s) :
    I (M.record write kept M.init labels) s := by
  induction run with
  | start => exact first
  | @step labels s s' label before allowed taken ih =>
      have written : M.record write kept M.init (labels ++ [label]) =
          write (M.record write kept M.init labels) s label s' := by
        rw [before.record_from]
        simp only [record, taken]
      rw [written]
      exact keeps labels _ s label s' before ih allowed taken

end Records

/-! ## Refinement -/

section Refinement

variable {T K : Type} {N : Lts T K}

/-- A step of `M` is one step of `N` under `abs`, or it is hidden from `N`. -/
structure Refines (M : Lts S L) (N : Lts T K) (abs : S → T) (coarse : S → L → Option K) :
    Prop where
  init : abs M.init = N.init
  seen : ∀ s label s' k, M.next s label = some s' → coarse s label = some k →
    N.next (abs s) k = some (abs s')
  hidden : ∀ s label s', M.next s label = some s' → coarse s label = none → abs s' = abs s

def coarsen (M : Lts S L) (coarse : S → L → Option K) (labels : List L) : List K :=
  M.record (fun kept s label _ => kept ++ (coarse s label).toList) [] M.init labels

theorem Refines.run {abs : S → T} {coarse : S → L → Option K} (refines : M.Refines N abs coarse)
    {labels : List L} {s : S} (run : Run M guard labels s) :
    Run N unguarded (M.coarsen coarse labels) (abs s) := by
  refine run.record_invariant (I := fun kept s => Run N unguarded kept (abs s)) ?_ ?_
  · rw [refines.init]
    exact .start
  · intro labels kept s label s' _ before _ taken
    cases sees : coarse s label with
    | none =>
        rw [Option.toList_none, List.append_nil, refines.hidden s label s' taken sees]
        exact before
    | some k => exact .step before trivial (refines.seen s label s' k taken sees)

end Refinement

def follow (M : Lts S L) (guard : Guard S L)
    [∀ past s label, Decidable (guard past s label)] : List L → List L → S → Option S
  | _, [], s => some s
  | past, label :: rest, s =>
      if guard past s label then
        match M.next s label with
        | some s' => follow M guard (past ++ [label]) rest s'
        | none => none
      else none

theorem follow_run [∀ past s label, Decidable (guard past s label)] (labels : List L)
    {past : List L} {s s' : S} (run : Run M guard past s)
    (followed : follow M guard past labels s = some s') : Run M guard (past ++ labels) s' := by
  induction labels generalizing past s with
  | nil =>
      cases followed
      rw [List.append_nil]
      exact run
  | cons label rest ih =>
      simp only [follow] at followed
      split at followed
      next allowed =>
        cases taken : M.next s label with
        | none =>
            rw [taken] at followed
            cases followed
        | some next =>
            rw [taken] at followed
            have whole := ih (.step run allowed taken) followed
            rwa [List.append_assoc, List.singleton_append] at whole
      next => cases followed

theorem run_of_follow [∀ past s label, Decidable (guard past s label)] {labels : List L} {s : S}
    (followed : follow M guard [] labels M.init = some s) : Run M guard labels s :=
  follow_run labels .start followed

end Lts

end LndkFormal.Async
