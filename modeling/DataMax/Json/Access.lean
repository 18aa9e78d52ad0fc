import DataMax.Json.Depth
import DataMax.Library.Decimal

/-! Numbers and lists of a JSON value, and members put into an object. -/

namespace DataMax.Json

open Library

/-- `Number::as_f64`, which every number has. -/
def Number.bits : Number → UInt64
  | .posInt value => doubleBits false (Float64.nearestRank value.toNat)
  | .negInt value => doubleBits (value.toInt < 0) (Float64.nearestRank value.toInt.natAbs)
  | .float bits => bits

namespace Value

def asF64 : Value → Option UInt64
  | .number value => some value.bits
  | _ => none

def asArray : Value → Option (List Value)
  | .array items => some items
  | _ => none

def ofU64 (value : UInt64) : Value := .number (.posInt value)

/-- `Value::from` of a double, which has no JSON number if it is not finite. -/
def ofF64 (bits : UInt64) : Value := if isFiniteDouble bits then .number (.float bits) else .null

end Value

theorem asMap_eq_some {value : Value} {map : Map} : value.asMap = some map ↔ value = .ofMap map := by
  constructor
  · intro found
    cases value with
    | object entries =>
      rw [Value.asMap] at found
      split at found
      · cases found
        rfl
      · cases found
    | _ => cases found
  · rintro rfl
    exact Value.asMap_ofMap map

theorem get_ofMap (map : Map) (key : String) : (Value.ofMap map).get key = map.get? key := rfl

/-- What is already there can be put in again. -/
theorem Map.insert_of_get? {map : Map} {key : String} {item : Value} (found : map.get? key = some item) :
    map.insert key item = map := by
  apply SortedMap.ext_get?
  intro other
  rw [SortedMap.get?_insert]
  split
  · rename_i same
    rw [same, found]
  · rfl

/-- The entries put into the map one after the other. -/
def Map.insertAll (map : Map) (entries : List (String × Value)) : Map :=
  entries.foldl (fun map entry => map.insert entry.1 entry.2) map

theorem Map.get?_insertAll (map : Map) (entries : List (String × Value)) (key : String) :
    (map.insertAll entries).get? key = (SortedMap.findEntry key entries.reverse).or (map.get? key) := by
  induction entries using List.reverseRecOn with
  | nil => rfl
  | append_singleton earlier last ih =>
    have extended : map.insertAll (earlier ++ [last]) = (map.insertAll earlier).insert last.1 last.2 := by
      simp [Map.insertAll, List.foldl_append]
    rw [extended, List.reverse_append, List.reverse_singleton, List.singleton_append, SortedMap.findEntry,
      SortedMap.get?_insert, ih]
    by_cases same : key = last.1
    · rw [if_pos same, if_pos (same ▸ Std.ReflCmp.compare_self), Option.some_or]
    · rw [if_neg same, if_neg fun equal => same (Std.LawfulEqCmp.eq_of_compare equal)]

/-- What is put in under the keys of another map is what that map holds. -/
theorem Map.get?_insertAll_entries (map other : Map) (key : String) :
    (map.insertAll other.entries).get? key = (other.get? key).or (map.get? key) := by
  have whole : SortedMap.ofList other.entries = other := by
    apply SortedMap.ext_get?
    intro name
    cases found : other.get? name with
    | none =>
      cases listed : (SortedMap.ofList other.entries).get? name with
      | none => rfl
      | some item =>
        have inside := SortedMap.mem_entries_iff.mp (SortedMap.mem_of_get?_ofList listed)
        rw [found] at inside
        cases inside
    | some item =>
      have distinct : (other.entries.map (·.1)).Nodup := other.keys_pairwise.imp fun less same => by simp [same] at less
      have listed : (name, item) ∈ other.entries := SortedMap.mem_entries_iff.mpr found
      exact SortedMap.mem_entries_iff.mp ((SortedMap.mem_ofList distinct).mpr listed)
  rw [Map.get?_insertAll, ← SortedMap.get?_ofList, whole]

section Depth

variable {keyOk : String → Prop} {textOk : Option String → String → Prop} {under : Option String}

/-- An object is fine if each of its members is. -/
theorem throughout_ofMap {map : Map} : Throughout keyOk textOk under (.ofMap map) ↔
    ∀ key value, map.get? key = some value → keyOk key ∧ Throughout keyOk textOk (some key) value := by
  constructor
  · intro whole key value found
    have listed : (key, value) ∈ map.entries := SortedMap.mem_entries_iff.mpr found
    exact whole.entry listed
  · intro each
    have members : ∀ entry ∈ map.entries, keyOk entry.1 ∧ Throughout keyOk textOk (some entry.1) entry.2 :=
      fun entry inside => each entry.1 entry.2 (SortedMap.mem_entries_iff.mp inside)
    exact .object (fun entry inside => (members entry inside).1) fun entry inside => (members entry inside).2

theorem throughout_json {entries : List (String × Value)}
    (each : ∀ entry ∈ entries, keyOk entry.1 ∧ Throughout keyOk textOk (some entry.1) entry.2) :
    Throughout keyOk textOk under (json entries) := by
  rw [json, throughout_ofMap]
  exact fun key value found => each (key, value) (SortedMap.mem_of_get?_ofList found)

theorem throughout_ofF64 (bits : UInt64) : Throughout keyOk textOk under (.ofF64 bits) := by
  rw [Value.ofF64]
  split
  · exact .number
  · exact .null

end Depth

end DataMax.Json
