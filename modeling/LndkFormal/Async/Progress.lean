import Mathlib.Data.Prod.Lex
import Mathlib.Order.OrderIsoNat
import LndkFormal.Async.Lts

/-!
# Ranks of labelled systems

Some labels bring a system no further: an environment may repeat them for ever.
A rank that every other step lowers bounds the rest of a run, whatever the
environment answers.
-/

set_option autoImplicit false

namespace LndkFormal.Async.Lts

variable {S L : Type} {M : Lts S L} {guard : Guard S L}

structure Endless (M : Lts S L) (guard : Guard S L) where
  state : Nat → S
  label : Nat → L
  start : state 0 = M.init
  allowed : ∀ n, guard ((List.range n).map label) (state n) (label n)
  taken : ∀ n, M.next (state n) (label n) = some (state (n + 1))

def Endless.past (endless : Endless M guard) (n : Nat) : List L := (List.range n).map endless.label

theorem Endless.past_succ (endless : Endless M guard) (n : Nat) :
    endless.past (n + 1) = endless.past n ++ [endless.label n] := by
  simp [past, List.range_succ]

theorem Endless.run (endless : Endless M guard) (n : Nat) :
    Run M guard (endless.past n) (endless.state n) := by
  induction n with
  | zero =>
      rw [endless.start]
      exact .start
  | succ n ih =>
      rw [endless.past_succ]
      exact .step ih (endless.allowed n) (endless.taken n)

/-! ## Ranked phases -/

section Ranked

variable {α : Type} [PartialOrder α]

/-- From the runs in `phase` on, a step stays in the phase, and it is idle or lowers
the rank. -/
structure Ranked (M : Lts S L) (guard : Guard S L) (phase : S → Prop) (idle : L → Prop)
    (rank : List L → S → α) : Prop where
  stays : ∀ {labels s label s'}, Run M guard labels s → phase s → guard labels s label →
    M.next s label = some s' → phase s'
  keeps : ∀ {labels s label s'}, Run M guard labels s → phase s → guard labels s label →
    M.next s label = some s' → idle label → rank (labels ++ [label]) s' = rank labels s
  lowers : ∀ {labels s label s'}, Run M guard labels s → phase s → guard labels s label →
    M.next s label = some s' → ¬ idle label → rank (labels ++ [label]) s' < rank labels s

variable {phase : S → Prop} {idle : L → Prop} {rank : List L → S → α}

theorem Ranked.stays_later (ranked : Ranked M guard phase idle rank)
    (endless : Endless M guard) {n : Nat} (entered : phase (endless.state n)) (k : Nat) :
    phase (endless.state (n + k)) := by
  induction k with
  | zero => exact entered
  | succ k ih =>
      exact ranked.stays (endless.run (n + k)) ih (endless.allowed _) (endless.taken _)

theorem Ranked.step_cases (ranked : Ranked M guard phase idle rank)
    (endless : Endless M guard) {n : Nat} (here : phase (endless.state n)) :
    idle (endless.label n) ∧
        rank (endless.past (n + 1)) (endless.state (n + 1)) =
          rank (endless.past n) (endless.state n) ∨
      rank (endless.past (n + 1)) (endless.state (n + 1)) <
        rank (endless.past n) (endless.state n) := by
  rw [endless.past_succ]
  by_cases idles : idle (endless.label n)
  · exact Or.inl ⟨idles, ranked.keeps (endless.run n) here (endless.allowed n)
      (endless.taken n) idles⟩
  · exact Or.inr (ranked.lowers (endless.run n) here (endless.allowed n)
      (endless.taken n) idles)

/-- An endless run that enters the phase is idle from some point on. -/
theorem Ranked.settles [WellFoundedLT α] (ranked : Ranked M guard phase idle rank)
    (endless : Endless M guard) {n : Nat} (entered : phase (endless.state n)) :
    ∃ last, ∀ m, last ≤ m → idle (endless.label m) := by
  let ranks : Nat → α := fun k => rank (endless.past (n + k)) (endless.state (n + k))
  have falls : Antitone ranks := antitone_nat_of_succ_le fun k => by
    rcases ranked.step_cases endless (ranked.stays_later endless entered k) with
      ⟨_, same⟩ | lower
    · exact same.le
    · exact lower.le
  -- A well-founded rank cannot fall for ever.
  obtain ⟨last, constant⟩ := WellFoundedGT.monotone_chain_condition
    (α := αᵒᵈ) ⟨fun k => OrderDual.toDual (ranks k), falls.dual_right⟩
  have constant : ∀ k, last ≤ k → ranks last = ranks k := constant
  refine ⟨n + last, fun m later => ?_⟩
  obtain ⟨k, rfl⟩ := Nat.exists_eq_add_of_le later
  rcases ranked.step_cases endless (ranked.stays_later endless entered (last + k)) with
    ⟨idles, _⟩ | lower
  · rw [Nat.add_assoc]
    exact idles
  · have same : ranks (last + k) = ranks (last + k + 1) :=
      (constant _ (by omega)).symm.trans (constant _ (by omega))
    exact absurd lower same.not_gt

/-- Where every state of the phase that is not `over` can be brought further, some steps
that are not idle end the run. -/
theorem Ranked.completes [WellFoundedLT α] (ranked : Ranked M guard phase idle rank)
    {done : S → Prop}
    (moves : ∀ {labels s}, Run M guard labels s → phase s → ¬ done s →
      ∃ label s', ¬ idle label ∧ guard labels s label ∧ M.next s label = some s')
    {labels : List L} {s : S} (run : Run M guard labels s) (entered : phase s) :
    ∃ more s', Run M guard (labels ++ more) s' ∧ done s' ∧ ∀ label ∈ more, ¬ idle label := by
  induction ranked_at : rank labels s using WellFoundedLT.induction generalizing labels s with
  | ind r ih =>
      by_cases ended : done s
      · exact ⟨[], s, by simpa using run, ended, nofun⟩
      · obtain ⟨label, s', works, allowed, taken⟩ := moves run entered ended
        obtain ⟨more, last, reached, ended, working⟩ :=
          ih _ (ranked_at ▸ ranked.lowers run entered allowed taken works)
            (.step run allowed taken) (ranked.stays run entered allowed taken) rfl
        refine ⟨label :: more, last, ?_, ended, ?_⟩
        · simpa using reached
        · intro other member
          rcases List.mem_cons.mp member with rfl | later
          · exact works
          · exact working other later

end Ranked

end LndkFormal.Async.Lts
