import Mathlib.Data.Finset.Basic

/-!
# Changes of a set

A set that is changed one key at a time, and the replay of a list of changes.
-/

set_option autoImplicit false

namespace LndkFormal.Tables

variable {K : Type} [DecidableEq K]

inductive Change (K : Type) where
  | added (key : K)
  | removed (key : K)
  deriving DecidableEq

def Change.apply (keys : Finset K) : Change K → Finset K
  | .added key => insert key keys
  | .removed key => keys.erase key

def replay (keys : Finset K) (changes : List (Change K)) : Finset K :=
  changes.foldl Change.apply keys

@[simp] theorem replay_nil (keys : Finset K) : replay keys [] = keys := rfl

@[simp] theorem replay_cons (keys : Finset K) (change : Change K) (changes : List (Change K)) :
    replay keys (change :: changes) = replay (change.apply keys) changes := rfl

theorem replay_append (keys : Finset K) (first second : List (Change K)) :
    replay keys (first ++ second) = replay (replay keys first) second :=
  List.foldl_append ..

theorem replay_superfluous {keys : Finset K} {changes : List (Change K)}
    (present : ∀ change ∈ changes, ∃ key ∈ keys, change = .added key) :
    replay keys changes = keys := by
  induction changes with
  | nil => rfl
  | cons change rest ih =>
      obtain ⟨key, member, rfl⟩ := present change List.mem_cons_self
      rw [replay_cons, Change.apply, Finset.insert_eq_of_mem member]
      exact ih fun change later => present change (List.mem_cons_of_mem _ later)

end LndkFormal.Tables
