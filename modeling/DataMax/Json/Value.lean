import DataMax.Library.SortedMap

/-! JSON values as `serde_json` holds them: numbers keep their integer or
floating representation, and an object is a map ordered by key. -/

namespace DataMax.Json

open Library

inductive Number where
  | posInt (value : UInt64)
  | negInt (value : Int64)
  | float (bits : UInt64)
  deriving DecidableEq

inductive Value where
  | null
  | bool (value : Bool)
  | number (value : Number)
  | string (value : String)
  | array (items : List Value)
  | object (entries : List (String × Value))

abbrev Map := SortedMap String Value

namespace Value

def ofMap (map : Map) : Value := .object map.entries

def asStr : Value → Option String
  | .string value => some value
  | _ => none

def asBool : Value → Option Bool
  | .bool value => some value
  | _ => none

/-- Only a number held as an unsigned integer is one. -/
def asU64 : Value → Option UInt64
  | .number (.posInt value) => some value
  | _ => none

/-- An object whose entries are in key order is the map it was written from. -/
def asMap (value : Value) : Option Map := match value with
  | .object entries =>
    if sorted : entries.Pairwise EntryBefore then some ⟨entries, sorted⟩ else none
  | _ => none

def get (value : Value) (key : String) : Option Value := match value with
  | .object entries => SortedMap.findEntry key entries
  | _ => none

def isObject : Value → Bool
  | .object _ => true
  | _ => false

/-- `jsonb_set` with a path of one key, which an object gets if it lacks it. -/
def jsonbSet (value : Value) (key : String) (item : Value) : Value := match value.asMap with
  | some map => .ofMap (map.insert key item)
  | none => value

def ofU32 (value : UInt32) : Value := .number (.posInt value.toUInt64)

@[simp] theorem asMap_ofMap (map : Map) : (ofMap map).asMap = some map := by
  simp [ofMap, asMap, map.sorted]

@[simp] theorem asU64_ofU32 (value : UInt32) : (ofU32 value).asU64 = some value.toUInt64 := rfl

end Value

/-- The `json!` object literal. -/
def json (entries : List (String × Value)) : Value := .ofMap (.ofList entries)

end DataMax.Json
