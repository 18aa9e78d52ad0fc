import DataMax.Library.SortedMap

/-! Sets held in the order of their keys. -/

namespace DataMax.Library

universe u

abbrev SortedSet (Key : Type u) [Ord Key] : Type u := SortedMap Key Unit

namespace SortedSet

variable {Key : Type u} [Ord Key]

def toList (set : SortedSet Key) : List Key := set.entries.map (·.1)

variable {set others : SortedSet Key} {key other : Key}

theorem mem_toList [Std.LawfulEqOrd Key] : key ∈ toList set ↔ set.get? key = some () := by
  rw [toList, List.mem_map]
  constructor
  · intro member
    rcases member with ⟨⟨same, ⟨⟩⟩, inside, rfl⟩
    exact SortedMap.mem_entries_iff.mp inside
  · intro found
    exact ⟨(key, ()), SortedMap.mem_entries_iff.mpr found, rfl⟩

variable [Std.TransOrd Key]

def add (set : SortedSet Key) (key : Key) : SortedSet Key := SortedMap.insert set key ()

variable [Std.LawfulEqOrd Key]

@[simp] theorem mem_add [DecidableEq Key] : other ∈ toList (add set key) ↔ other ∈ toList set ∨ other = key := by
  rw [mem_toList, mem_toList, add, SortedMap.get?_insert]
  by_cases same : key = other
  · subst same
    simp
  · simp [Ne.symm same]

theorem toList_add (absent : key ∉ toList set) : (toList (add set key)).Perm (key :: toList set) := by
  have missing : SortedMap.findEntry key set.entries = none := by
    rw [Option.eq_none_iff_forall_not_mem]
    exact fun _ found => absent (mem_toList.mpr found)
  exact (SortedMap.insertEntry_perm missing).map _

theorem toList_congr (same : ∀ key, key ∈ toList set ↔ key ∈ toList others) : toList set = toList others := by
  have equal : set = others := by
    refine SortedMap.ext_get? fun key => Option.ext fun value => ?_
    cases value
    rw [← mem_toList, ← mem_toList, same]
  rw [equal]

end SortedSet

end DataMax.Library
