import DataMax.StaticPage.Operations

/-! The payload of a static page and its modules: values merged into each other, and
modules changed, added and removed. -/

namespace DataMax.StaticPage

open Domain Json Library

section Values

mutual

/-- Objects are merged member by member, anything else is replaced. -/
def mergeJsonValue (target : Value) : Value → Value
  | .object entries =>
    match target.asMap with
    | some map => .ofMap (mergeJsonEntries map entries)
    | none => .object entries
  | patch => patch

def mergeJsonEntries (map : Map) : List (String × Value) → Map
  | [] => map
  | (key, value) :: rest =>
    mergeJsonEntries
      (map.insert key (match map.get? key with | some existing => mergeJsonValue existing value | none => value)) rest

end

/-- The object of a value, which anything else is replaced by an empty one. -/
def ensureJsonObject (value : Value) : Map := value.asMap.getD .empty

def setPayloadValue (payload : Value) (key : String) (value : Value) : Value :=
  .ofMap ((ensureJsonObject payload).insert key value)

def setPayloadString (payload : Value) (key value : String) : Value := setPayloadValue payload key (.string value)

theorem setPayloadValue_ofMap (object : Map) (key : String) (value : Value) :
    setPayloadValue (.ofMap object) key value = .ofMap (object.insert key value) := by
  simp [setPayloadValue, ensureJsonObject]

/-- A member that no entry names stays. -/
theorem get?_mergeJsonEntries_other {key : String} {entries : List (String × Value)}
    (unnamed : ∀ entry ∈ entries, entry.1 ≠ key) (map : Map) : (mergeJsonEntries map entries).get? key = map.get? key := by
  induction entries generalizing map with
  | nil => rfl
  | cons head rest ih =>
    obtain ⟨name, value⟩ := head
    rw [mergeJsonEntries, ih fun entry inside => unnamed entry (List.mem_cons_of_mem _ inside)]
    exact SortedMap.get?_insert_other map _ (unnamed (name, value) List.mem_cons_self).symm

end Values

section Modules

variable {Item : Type}

/-- The first item that is chosen changed. -/
def updateFirst (chosen : Item → Bool) (change : Item → Item) : List Item → List Item
  | [] => []
  | item :: rest => if chosen item then change item :: rest else item :: updateFirst chosen change rest

def moduleId (module : Value) : Option String := module.asMap >>= (·.get? "id") >>= Value.asStr

def hasModuleId (id : String) (module : Value) : Bool := moduleId module = some id

def payloadModules (payload : Value) : List Value := (payload.asMap >>= (·.get? "modules") >>= Value.asArray).getD []

/-- `get_mut` of the list of modules. -/
def editModules (payload : Value) (edit : List Value → List Value) : Value :=
  match payload.asMap with
  | none => payload
  | some object =>
    match object.get? "modules" >>= Value.asArray with
    | none => payload
    | some items => .ofMap (object.insert "modules" (.array (edit items)))

def mergeStaticPageModule (payload : Value) (id : String) (patch : Value) : Value :=
  editModules payload (updateFirst (hasModuleId id) (mergeJsonValue · patch))

def pushStaticPageModule (payload module : Value) : Value :=
  let object := ensureJsonObject payload
  let items := (object.get? "modules" >>= Value.asArray).getD []
  .ofMap (object.insert "modules" (.array (items ++ [module])))

def removeStaticPageModule (payload : Value) (id : String) : Value :=
  editModules payload (List.filter fun module => !hasModuleId id module)

theorem payloadModules_ofMap (object : Map) :
    payloadModules (.ofMap object) = (object.get? "modules" >>= Value.asArray).getD [] := by
  simp [payloadModules]

theorem payloadModules_ensured (payload : Value) : payloadModules (.ofMap (ensureJsonObject payload)) = payloadModules payload := by
  rw [payloadModules_ofMap, ensureJsonObject, payloadModules]
  cases payload.asMap with
  | none => rfl
  | some object => rfl

theorem payloadModules_setPayloadValue (payload : Value) {key : String} (other : key ≠ "modules") (value : Value) :
    payloadModules (setPayloadValue payload key value) = payloadModules payload := by
  rw [setPayloadValue, payloadModules_ofMap, SortedMap.get?_insert_other _ value other.symm, ← payloadModules_ofMap,
    payloadModules_ensured]

theorem payloadModules_editModules {edit : List Value → List Value} (empty : edit [] = []) (payload : Value) :
    payloadModules (editModules payload edit) = edit (payloadModules payload) := by
  rw [editModules]
  cases found : payload.asMap with
  | none => simp [payloadModules, found, empty]
  | some object =>
    cases listed : object.get? "modules" >>= Value.asArray with
    | none =>
      rw [Option.bind_eq_bind] at listed
      simp [payloadModules, found, listed, empty]
    | some items =>
      rw [Option.bind_eq_bind] at listed
      simp [payloadModules, found, listed, Value.asArray]

theorem payloadModules_push (payload module : Value) :
    payloadModules (pushStaticPageModule payload module) = payloadModules payload ++ [module] := by
  rw [pushStaticPageModule, payloadModules_ofMap, SortedMap.get?_insert_self, ← payloadModules_ofMap, payloadModules_ensured]
  rfl

end Modules

end DataMax.StaticPage
