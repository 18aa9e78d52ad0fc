import DataMax.Json.Value

/-! Where something is in a JSON value: by keys and positions from the outside in. -/

namespace DataMax.Json

open Library

inductive Step where
  | key (name : String)
  | index (position : Nat)

namespace Step

def key? : Step → Option String
  | key name => some name
  | index _ => none

end Step

/-- The keys on the way. -/
def keysOf (path : List Step) : List String := path.filterMap Step.key?

namespace Value

def child : Value → Step → Option Value
  | .object entries, .key name => SortedMap.findEntry name entries
  | .array items, .index position => items[position]?
  | _, _ => none

/-- What is found at the end of the path. -/
def at? : Value → List Step → Option Value
  | value, [] => some value
  | value, step :: rest => (value.child step).bind (at? · rest)

/-- Nothing is in it. -/
def IsLeaf : Value → Prop
  | .array (_ :: _) => False
  | .object (_ :: _) => False
  | _ => True

theorem items_leaf {items : List Value} (leaf : (array items).IsLeaf) : items = [] := by
  cases items with
  | nil => rfl
  | cons => cases leaf

theorem entries_leaf {entries : List (String × Value)} (leaf : (object entries).IsLeaf) : entries = [] := by
  cases entries with
  | nil => rfl
  | cons => cases leaf

theorem child_leaf {value : Value} (leaf : value.IsLeaf) (step : Step) : value.child step = none := by
  cases value with
  | array items => rw [items_leaf leaf]; cases step <;> rfl
  | object entries => rw [entries_leaf leaf]; cases step <;> rfl
  | _ => rfl

theorem at?_leaf {value found : Value} {path : List Step} (leaf : value.IsLeaf) (reached : value.at? path = some found) :
    path = [] ∧ found = value := by
  cases path with
  | nil => exact ⟨rfl, (Option.some.inj reached).symm⟩
  | cons step rest => simp [at?, child_leaf leaf] at reached

end Value

end DataMax.Json
