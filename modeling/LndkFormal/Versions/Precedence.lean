import Mathlib.Data.List.Lex
import Mathlib.Data.Prod.Lex
import Mathlib.Data.String.Basic
import Mathlib.Data.Sum.Order
import Mathlib.Order.WithBot

/-!
# Precedence of versions

The precedence of Semantic Versioning as a lexicographic order.  Major, minor
and patch come first.  Among versions with the same three numbers the one
without a pre-release tag is the last, and tags are compared identifier by
identifier: numbers as numbers, numbers before words, words letter by letter, and
a tag before every longer one that begins with it.  Tags outside the grammar are
ordered by the same rules.
-/

set_option autoImplicit false

namespace LndkFormal.Versions

/-- An identifier of a tag, a number or a word; every number is before every word. -/
abbrev Identifier := Nat ⊕ₗ List Char

def decimal (digits : List Char) : Nat :=
  digits.foldl (fun value digit => 10 * value + (digit.toNat - '0'.toNat)) 0

def readIdentifier (text : List Char) : Identifier :=
  if text ≠ [] ∧ text.all Char.isDigit then Sum.inlₗ (decimal text) else Sum.inrₗ text

def tagRank (tag : String) : WithTop (List Identifier) :=
  if tag = "" then ⊤ else ((tag.toList.splitOn '.').map readIdentifier : List Identifier)

theorem tagRank_le_release (tag : String) : tagRank tag ≤ tagRank "" := by
  have last : tagRank "" = ⊤ := if_pos rfl
  rw [last]
  exact le_top

example : (["alpha", "alpha.1", "alpha.beta", "beta", "beta.2", "beta.11", "rc.1", ""].map
    tagRank).Pairwise (· < ·) := by decide

structure SemVer where
  major : Nat
  minor : Nat
  patch : Nat
  preRelease : String
  deriving DecidableEq

namespace SemVer

def numbers (version : SemVer) : Nat ×ₗ Nat ×ₗ Nat :=
  toLex (version.major, toLex (version.minor, version.patch))

def precedence (version : SemVer) : (Nat ×ₗ Nat ×ₗ Nat) ×ₗ WithTop (List Identifier) :=
  toLex (version.numbers, tagRank version.preRelease)

instance : Preorder SemVer := Preorder.lift precedence

instance (v w : SemVer) : Decidable (v ≤ w) :=
  inferInstanceAs (Decidable (v.precedence ≤ w.precedence))

theorem le_iff {v w : SemVer} :
    v ≤ w ↔ v.numbers < w.numbers ∨
      v.numbers = w.numbers ∧ tagRank v.preRelease ≤ tagRank w.preRelease :=
  Prod.Lex.toLex_le_toLex

theorem numbers_le {v w : SemVer} (later : v ≤ w) : v.numbers ≤ w.numbers := by
  rcases le_iff.mp later with less | ⟨same, -⟩
  · exact less.le
  · exact same.le

theorem le_release (v : SemVer) : v ≤ { v with preRelease := "" } :=
  le_iff.mpr (.inr ⟨rfl, tagRank_le_release v.preRelease⟩)

end SemVer

theorem lex_le_iff_of_le {N S : Type} [PartialOrder N] [LE S] {a b : N} (ordered : a ≤ b)
    (s t : S) : toLex (a, s) ≤ toLex (b, t) ↔ (a = b → s ≤ t) := by
  rw [Prod.Lex.toLex_le_toLex]
  constructor
  · rintro (less | ⟨-, second⟩) same
    · exact absurd same less.ne
    · exact second
  · intro second
    rcases ordered.lt_or_eq with less | same
    · exact .inl less
    · exact .inr ⟨same, second same⟩

end LndkFormal.Versions
