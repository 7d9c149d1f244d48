import LndkFormal.Versions.Precedence

/-!
# The version gate

Before it starts, LNDK checks that LND was built with the subservers it needs and
that LND's version is high enough.  `has_version` compares major, minor and
patch as numbers and pre-release tags as plain strings.  `hasVersion_iff_le` says
this as one lexicographic order; it is not the order of version precedence.
-/

set_option autoImplicit false

namespace LndkFormal.Lnd

open LndkFormal.Versions

structure Version where
  appMajor : UInt32
  appMinor : UInt32
  appPatch : UInt32
  appPreRelease : String
  buildTags : List String := []
  deriving DecidableEq

structure VersionRequirement where
  major : UInt32
  minor : UInt32
  patch : UInt32
  preRelease : String
  deriving DecidableEq

structure BuildTagsRequirement where
  tags : List String
  deriving DecidableEq

def MIN_LND_MAJOR_VER : UInt32 := 0

def MIN_LND_MINOR_VER : UInt32 := 18

def MIN_LND_PATCH_VER : UInt32 := 0

def MIN_LND_PRE_RELEASE_VER : String := "beta"

def BUILD_TAGS_REQUIRED : List String := ["peersrpc", "signrpc", "walletrpc"]

def VersionRequirement.resolve (requirement : Option VersionRequirement) : VersionRequirement :=
  requirement.getD
    { major := MIN_LND_MAJOR_VER
      minor := MIN_LND_MINOR_VER
      patch := MIN_LND_PATCH_VER
      preRelease := MIN_LND_PRE_RELEASE_VER }

/-- Rust compares strings byte by byte, which is the order of their characters. -/
def hasVersion (version : Version) (requirement : Option VersionRequirement) : Bool :=
  let requirement := VersionRequirement.resolve requirement
  if version.appMajor ≠ requirement.major then version.appMajor > requirement.major
  else if version.appMinor ≠ requirement.minor then version.appMinor > requirement.minor
  else if version.appPatch ≠ requirement.patch then version.appPatch > requirement.patch
  else if version.appPreRelease ≠ requirement.preRelease then
    version.appPreRelease > requirement.preRelease
  else true

def hasBuildTags (version : Version) (requirement : Option BuildTagsRequirement) : Bool :=
  (requirement.getD ⟨BUILD_TAGS_REQUIRED⟩).tags.all fun tag => version.buildTags.contains tag

/-- The checks of `LndkOnionMessenger::run`. -/
def admitsLnd (skipVersionCheck : Bool) (version : Version) : Bool :=
  hasBuildTags version none && (skipVersionCheck || hasVersion version none)

def Version.semVer (version : Version) : SemVer :=
  ⟨version.appMajor.toNat, version.appMinor.toNat, version.appPatch.toNat, version.appPreRelease⟩

def VersionRequirement.semVer (requirement : VersionRequirement) : SemVer :=
  ⟨requirement.major.toNat, requirement.minor.toNat, requirement.patch.toNat,
    requirement.preRelease⟩

/-- What `has_version` compares: the numbers, then the tag as a string. -/
def plainRank (version : SemVer) : (Nat ×ₗ Nat ×ₗ Nat) ×ₗ String :=
  toLex (version.numbers, version.preRelease)

/-- A field that differs decides; between equal fields what follows does. -/
theorem field_iff {a b : UInt32} {rest : Bool} :
    (if b ≠ a then decide (b > a) else rest) = true ↔
      a.toNat < b.toNat ∨ a.toNat = b.toNat ∧ rest = true := by
  by_cases same : b = a
  · subst same
    simp
  · have differ : a.toNat ≠ b.toNat := fun equal => same (UInt32.toNat_inj.mp equal.symm)
    rw [if_pos same, decide_eq_true_eq]
    simp only [differ, false_and, or_false, GT.gt, UInt32.lt_iff_toNat_lt]

theorem tag_iff {a b : String} : (if b ≠ a then decide (b > a) else true) = true ↔ a ≤ b := by
  by_cases same : b = a
  · subst same
    simp
  · rw [if_pos same, decide_eq_true_eq]
    constructor
    · exact le_of_lt
    · intro most
      exact lt_of_le_of_ne most (Ne.symm same)

theorem hasVersion_iff_le (version : Version) (requirement : Option VersionRequirement) :
    hasVersion version requirement = true ↔
      plainRank (VersionRequirement.resolve requirement).semVer ≤ plainRank version.semVer := by
  unfold hasVersion
  generalize VersionRequirement.resolve requirement = required
  simp only [field_iff, tag_iff, plainRank, SemVer.numbers, VersionRequirement.semVer,
    Version.semVer, Prod.Lex.toLex_le_toLex, Prod.Lex.toLex_lt_toLex, toLex_inj, Prod.mk.injEq,
    and_or_left, or_assoc, and_assoc]

/-- The gate is monotone in its own order and in the build tags. -/
theorem admitsLnd_mono {skip : Bool} {v w : Version}
    (later : plainRank v.semVer ≤ plainRank w.semVer) (tags : v.buildTags ⊆ w.buildTags)
    (admitted : admitsLnd skip v = true) : admitsLnd skip w = true := by
  simp only [admitsLnd, hasBuildTags, Bool.and_eq_true, Bool.or_eq_true, List.all_eq_true,
    List.contains_iff_mem, hasVersion_iff_le] at admitted ⊢
  obtain ⟨built, passed⟩ := admitted
  constructor
  · intro tag required
    exact tags (built tag required)
  · exact passed.imp_right fun accepted => accepted.trans later

/-! ## The gate and version precedence -/

theorem hasVersion_later {v w : Version} {requirement : Option VersionRequirement}
    (later : v.semVer ≤ w.semVer) (accepted : hasVersion v requirement = true) :
    hasVersion w requirement = true ↔
      ((VersionRequirement.resolve requirement).semVer.numbers = w.semVer.numbers →
        (VersionRequirement.resolve requirement).preRelease ≤ w.appPreRelease) := by
  have reached : (VersionRequirement.resolve requirement).semVer.numbers ≤ v.semVer.numbers := by
    rcases Prod.Lex.toLex_le_toLex.mp ((hasVersion_iff_le v requirement).mp accepted) with
      less | ⟨same, -⟩
    · exact less.le
    · exact same.le
  rw [hasVersion_iff_le]
  exact lex_le_iff_of_le (reached.trans (SemVer.numbers_le later)) _ _

def VersionRequirement.exactly (required : VersionRequirement) (tag : String) : Version :=
  ⟨required.major, required.minor, required.patch, tag, []⟩

theorem empty_le (tag : String) : "" ≤ tag := by
  apply le_of_not_gt
  intro before
  exact absurd before (List.not_lt_nil tag.toList)

/-- The gate is monotone in version precedence exactly for requirements without a
pre-release tag; behind an accepted version it refuses exactly the versions with the
required numbers and a tag that is smaller as a string. -/
theorem hasVersion_monotone_iff (requirement : Option VersionRequirement) :
    (∀ v w : Version, v.semVer ≤ w.semVer → hasVersion v requirement = true →
      (hasVersion w requirement = true ↔
        ((VersionRequirement.resolve requirement).semVer.numbers = w.semVer.numbers →
          (VersionRequirement.resolve requirement).preRelease ≤ w.appPreRelease))) ∧
    ((∀ v w : Version, v.semVer ≤ w.semVer → hasVersion v requirement = true →
        hasVersion w requirement = true) ↔
      (VersionRequirement.resolve requirement).preRelease = "") := by
  refine ⟨fun v w later accepted => hasVersion_later later accepted, ?_⟩
  constructor
  · intro monotone
    generalize resolved : VersionRequirement.resolve requirement = required
    have later : (required.exactly required.preRelease).semVer ≤ (required.exactly "").semVer :=
      SemVer.le_release _
    have accepted : hasVersion (required.exactly required.preRelease) requirement = true := by
      rw [hasVersion_iff_le, resolved]
      exact le_refl _
    have most := (hasVersion_later later accepted).mp (monotone _ _ later accepted)
    rw [resolved] at most
    exact le_antisymm (most rfl) (empty_le _)
  · intro untagged v w later accepted
    apply (hasVersion_later later accepted).mpr
    intro _
    rw [untagged]
    exact empty_le _

theorem hasVersion_monotone_untagged :
    ∀ v w : Version, v.semVer ≤ w.semVer → hasVersion v (some ⟨0, 18, 0, ""⟩) = true →
      hasVersion w (some ⟨0, 18, 0, ""⟩) = true :=
  (hasVersion_monotone_iff (some ⟨0, 18, 0, ""⟩)).2.mpr rfl

def builtVersion (tag : String) : Version := ⟨0, 18, 0, tag, BUILD_TAGS_REQUIRED⟩

/-- The pre-release 0.18.0-beta is admitted and the release 0.18.0 is not; with rc.9
required, rc.9 is accepted and rc.10 is not. -/
theorem hasVersion_refuses_later :
    (builtVersion "beta").semVer ≤ (builtVersion "").semVer ∧
      hasVersion (builtVersion "beta") none = true ∧
      hasVersion (builtVersion "") none = false ∧
      admitsLnd false (builtVersion "beta") = true ∧
      admitsLnd false (builtVersion "") = false ∧
      (builtVersion "rc.9").semVer ≤ (builtVersion "rc.10").semVer ∧
      hasVersion (builtVersion "rc.9") (some ⟨0, 18, 0, "rc.9"⟩) = true ∧
      hasVersion (builtVersion "rc.10") (some ⟨0, 18, 0, "rc.9"⟩) = false := by
  decide

end LndkFormal.Lnd
