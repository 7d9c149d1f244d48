import Mathlib.Data.List.AList

/-!
# Hash maps as association lists

The operations of a standard-library hash map that Mathlib's `AList` lacks:
changing the value under one key in place, changing every value, and keeping
the entries whose value passes a test.  Each comes with what `lookup` sees.
-/

set_option autoImplicit false

namespace LndkFormal.Tables

/-- A finite map with one entry a key. -/
abbrev Table (K V : Type) := AList fun _ : K => V

variable {K V : Type}

namespace Table

def mapEntries (t : Table K V) (f : K → V → V) : Table K V :=
  ⟨t.entries.map fun entry => ⟨entry.1, f entry.1 entry.2⟩,
    List.NodupKeys.map₂ f t.entries t.nodupKeys⟩

def retain (t : Table K V) (keep : V → Bool) : Table K V :=
  ⟨t.entries.filter fun entry => keep entry.2,
    List.NodupKeys.sublist List.filter_sublist t.nodupKeys⟩

variable [DecidableEq K]

/-- The entry API's `and_modify`: nothing happens to an absent key. -/
def modify (t : Table K V) (key : K) (f : V → V) : Table K V :=
  mapEntries t fun k value => if k = key then f value else value

@[simp] theorem lookup_mapEntries (t : Table K V) (f : K → V → V) (key : K) :
    (mapEntries t f).lookup key = (t.lookup key).map (f key) :=
  List.dlookup_map₂ key

theorem lookup_modify (t : Table K V) (key : K) (f : V → V) (other : K) :
    (modify t key f).lookup other =
      if other = key then (t.lookup other).map f else t.lookup other := by
  by_cases same : other = key
  · simp [modify, same]
  · simp [modify, same]

theorem lookup_insert_cases (t : Table K V) (key : K) (value : V) (other : K) :
    (AList.insert key value t).lookup other =
      if other = key then some value else t.lookup other := by
  by_cases same : other = key
  · subst same
    simp
  · simp [AList.lookup_insert_ne same, same]

theorem lookup_erase_cases (t : Table K V) (key other : K) :
    (t.erase key).lookup other = if other = key then none else t.lookup other := by
  by_cases same : other = key
  · subst same
    simp
  · simp [AList.lookup_erase_ne same, same]

theorem lookup_retain (t : Table K V) (keep : V → Bool) (key : K) :
    (retain t keep).lookup key = (t.lookup key).filter keep := by
  apply Option.ext
  intro value
  rw [← Option.mem_def, ← Option.mem_def, AList.mem_lookup_iff, Option.mem_filter_iff,
    AList.mem_lookup_iff]
  simp only [retain, List.mem_filter]

end Table

end LndkFormal.Tables
