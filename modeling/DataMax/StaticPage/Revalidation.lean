import DataMax.StaticPage.Validation

/-! Operations stored after one pass can be checked again: a second pass finds every
key in its new spelling and accepts what the first one made. -/

namespace DataMax.StaticPage

open Domain Json Library

section Renaming

/-- A key is renamed, or its new spelling is already taken. -/
def Settled (names : List (String × String)) (object : Map) : Prop :=
  ∀ name ∈ names, (object.get? name.2).isSome ∨ object.get? name.1 = none

/-- No new spelling is an old one. -/
abbrev Apart (names : List (String × String)) : Prop := ∀ name ∈ names, ∀ other ∈ names, name.2 ≠ other.1

theorem get?_renameKey (object : Map) (source target key : String) :
    (renameKey object source target).get? key =
      if (object.get? target).isSome ∨ object.get? source = none then object.get? key
      else if key = target then object.get? source
      else if key = source then none
      else object.get? key := by
  rw [renameKey]
  by_cases taken : (object.get? target).isSome
  · rw [if_pos taken, if_pos (.inl taken)]
  · rw [if_neg taken]
    cases found : object.get? source with
    | none => rw [if_pos (.inr rfl)]
    | some value => simp [taken, SortedMap.get?_insert, SortedMap.get?_erase]

theorem renameKey_of_settled {object : Map} {source target : String}
    (settled : (object.get? target).isSome ∨ object.get? source = none) : renameKey object source target = object := by
  apply SortedMap.ext_get?
  intro key
  rw [get?_renameKey, if_pos settled]

theorem renameKey_settles (object : Map) {source target : String} (apart : target ≠ source) :
    ((renameKey object source target).get? target).isSome ∨ (renameKey object source target).get? source = none := by
  by_cases settled : (object.get? target).isSome ∨ object.get? source = none
  · rw [renameKey_of_settled settled]
    exact settled
  · right
    rw [get?_renameKey, if_neg settled, if_neg apart.symm, if_pos rfl]

/-- A renaming undoes no other: it takes away no new spelling and brings no old one. -/
theorem renameKey_keeps {object : Map} {source target : String} {other : String × String} (new : other.2 ≠ source)
    (old : target ≠ other.1) (settled : (object.get? other.2).isSome ∨ object.get? other.1 = none) :
    ((renameKey object source target).get? other.2).isSome ∨ (renameKey object source target).get? other.1 = none := by
  by_cases kept : (object.get? target).isSome ∨ object.get? source = none
  · rw [renameKey_of_settled kept]
    exact settled
  · simp only [get?_renameKey, if_neg kept, if_neg new, if_neg old.symm]
    rw [not_or] at kept
    rcases settled with present | absent
    · left
      split
      · exact Option.isSome_iff_ne_none.mpr kept.2
      · exact present
    · right
      split
      · rfl
      · exact absent

theorem renameKeys_of_settled {names : List (String × String)} {object : Map} (settled : Settled names object) :
    renameKeys names object = object := by
  induction names with
  | nil => rfl
  | cons name rest ih =>
    have first : renameKey object name.1 name.2 = object := renameKey_of_settled (settled name List.mem_cons_self)
    rw [renameKeys, List.foldl_cons, first]
    exact ih fun other inside => settled other (List.mem_cons_of_mem name inside)

/-- With the names already gone through settled, the rest of the list settles all. -/
theorem renameKeys_settles {names : List (String × String)} (apart : Apart names) (earlier rest : List (String × String))
    (whole : earlier ++ rest = names) (object : Map) (settled : Settled earlier object) :
    Settled names (renameKeys rest object) := by
  induction rest generalizing earlier object with
  | nil => simpa [← whole, renameKeys] using settled
  | cons name rest ih =>
    refine ih (earlier ++ [name]) (by simpa using whole) (renameKey object name.1 name.2) fun other inside => ?_
    have listed : name ∈ names := by simp [← whole]
    rcases List.mem_append.mp inside with before | last
    · have member : other ∈ names := by simp [← whole, before]
      exact renameKey_keeps (apart other member name listed) (apart name listed other member) (settled other before)
    · rw [List.mem_singleton.mp last]
      exact renameKey_settles object (apart name listed name listed)

theorem settled_renameKeys {names : List (String × String)} (apart : Apart names) (object : Map) :
    Settled names (renameKeys names object) :=
  renameKeys_settles apart [] names rfl object fun _ inside => by cases inside

theorem renameKeys_idempotent {names : List (String × String)} (apart : Apart names) (object : Map) :
    renameKeys names (renameKeys names object) = renameKeys names object :=
  renameKeys_of_settled (settled_renameKeys apart object)

end Renaming

section Editing

variable {object : Map} {key other : String} {edit change : Map → Map}

/-- The edit of a member has nothing left to do. -/
def Edited (object : Map) (key : String) (edit : Map → Map) : Prop :=
  ∀ inner, object.get? key >>= Value.asMap = some inner → edit inner = inner

theorem editObject_of_edited (edited : Edited object key edit) : editObject object key edit = object := by
  rw [editObject]
  cases found : object.get? key >>= Value.asMap with
  | none => rfl
  | some inner =>
    obtain ⟨value, listed, same⟩ := Option.bind_eq_some_iff.mp found
    rw [asMap_eq_some] at same
    dsimp only
    rw [edited inner found, ← same]
    exact Map.insert_of_get? listed

theorem get?_editObject_other (different : other ≠ key) : (editObject object key edit).get? other = object.get? other := by
  rw [editObject]
  split
  · exact SortedMap.get?_insert_other object _ different
  · rfl

theorem get?_editObject_self :
    (editObject object key edit).get? key =
      ((object.get? key >>= Value.asMap).map fun inner => Value.ofMap (edit inner)).or (object.get? key) := by
  rw [editObject]
  cases object.get? key >>= Value.asMap with
  | none => rfl
  | some inner => exact SortedMap.get?_insert_self object key _

theorem edited_editObject (idempotent : ∀ inner, edit (edit inner) = edit inner) :
    Edited (editObject object key edit) key edit := by
  intro inner found
  rw [get?_editObject_self] at found
  cases member : object.get? key >>= Value.asMap with
  | none =>
    rw [member, Option.map_none, Option.none_or, member] at found
    cases found
  | some before =>
    rw [member, Option.map_some, Option.some_or] at found
    have same : edit before = inner := by simpa using found
    rw [← same, idempotent]

theorem edited_editObject_other (edited : Edited object key edit) (different : key ≠ other) :
    Edited (editObject object other change) key edit := by
  intro inner found
  rw [get?_editObject_other different] at found
  exact edited inner found

/-- An edited member stays where it is. -/
theorem isSome_editObject : ((editObject object key edit).get? other).isSome = (object.get? other).isSome := by
  by_cases same : other = key
  · rw [same, get?_editObject_self]
    cases object.get? key with
    | none => rfl
    | some value => cases found : value.asMap <;> simp [found]
  · rw [get?_editObject_other same]

theorem settled_editObject {names : List (String × String)} (settled : Settled names object) :
    Settled names (editObject object key edit) := by
  intro name inside
  rcases settled name inside with present | absent
  · left
    rw [isSome_editObject]
    exact present
  · right
    rw [← Option.not_isSome_iff_eq_none, isSome_editObject, absent]
    exact Bool.false_ne_true

end Editing

section Normalizing

theorem normalizeDataBindingObject_idempotent (object : Map) :
    normalizeDataBindingObject (normalizeDataBindingObject object) = normalizeDataBindingObject object :=
  renameKeys_idempotent (by decide) object

theorem normalizeModuleObject_idempotent (object : Map) :
    normalizeModuleObject (normalizeModuleObject object) = normalizeModuleObject object := by
  have named : Settled moduleNames (normalizeModuleObject object) :=
    settled_editObject (settled_editObject (settled_renameKeys (by decide) object))
  have bound : Edited (normalizeModuleObject object) "dataBinding" normalizeDataBindingObject :=
    edited_editObject_other (edited_editObject normalizeDataBindingObject_idempotent) (by decide)
  have drawn : Edited (normalizeModuleObject object) "visualization" (renameKeys visualizationNames) :=
    edited_editObject (renameKeys_idempotent (by decide))
  rw [normalizeModuleObject, renameKeys_of_settled named, editObject_of_edited bound, editObject_of_edited drawn]

/-- The three members of an operation that are normalised themselves. -/
def editMembers (object : Map) : Map :=
  editObject (editObject (editObject object "patch" normalizeModuleObject) "dataBinding" normalizeDataBindingObject)
    "module" normalizeModuleObject

theorem normalizeOperationObject_eq (object : Map) :
    normalizeOperationObject object = editMembers (renameKeys operationNames object) := rfl

theorem editMembers_idempotent (object : Map) : editMembers (editMembers object) = editMembers object := by
  have patched : Edited (editMembers object) "patch" normalizeModuleObject :=
    edited_editObject_other (edited_editObject_other (edited_editObject normalizeModuleObject_idempotent) (by decide))
      (by decide)
  have bound : Edited (editMembers object) "dataBinding" normalizeDataBindingObject :=
    edited_editObject_other (edited_editObject normalizeDataBindingObject_idempotent) (by decide)
  have added : Edited (editMembers object) "module" normalizeModuleObject :=
    edited_editObject normalizeModuleObject_idempotent
  rw [editMembers, editObject_of_edited patched, editObject_of_edited bound, editObject_of_edited added]

theorem settled_editMembers {names : List (String × String)} {object : Map} (settled : Settled names object) :
    Settled names (editMembers object) :=
  settled_editObject (settled_editObject (settled_editObject settled))

theorem normalizeOperationObject_idempotent (object : Map) :
    normalizeOperationObject (normalizeOperationObject object) = normalizeOperationObject object := by
  have named : Settled operationNames (renameKeys operationNames object) := settled_renameKeys (by decide) object
  rw [normalizeOperationObject_eq, normalizeOperationObject_eq]
  generalize renameKeys operationNames object = renamed at named ⊢
  rw [renameKeys_of_settled (settled_editMembers named), editMembers_idempotent]

theorem normalizeStaticPageOperation_idempotent (operation : Value) :
    normalizeStaticPageOperation (normalizeStaticPageOperation operation) = normalizeStaticPageOperation operation := by
  cases found : operation.asMap with
  | none => simp only [normalizeStaticPageOperation, found]
  | some object => simp only [normalizeStaticPageOperation, found, Value.asMap_ofMap, normalizeOperationObject_idempotent]

end Normalizing

section SafeKeys

def isUnsafeKey (key : String) : Bool := ["__proto__", "constructor", "prototype"].contains key

/-- No key of the object or of what it holds is refused. -/
def SafeObject (object : Map) : Prop :=
  ∀ key value, object.get? key = some value → isUnsafeKey key = false ∧ containsUnsafeKey value = false

theorem entriesContainUnsafeKey_iff (entries : List (String × Value)) :
    entriesContainUnsafeKey entries = false ↔
      ∀ entry ∈ entries, isUnsafeKey entry.1 = false ∧ containsUnsafeKey entry.2 = false := by
  induction entries with
  | nil => simp [entriesContainUnsafeKey]
  | cons head rest ih =>
    obtain ⟨key, value⟩ := head
    simp [entriesContainUnsafeKey, ih, isUnsafeKey, Bool.or_eq_false_iff, and_assoc]

theorem containsUnsafeKey_ofMap (object : Map) : containsUnsafeKey (.ofMap object) = false ↔ SafeObject object := by
  rw [Value.ofMap, containsUnsafeKey, entriesContainUnsafeKey_iff]
  constructor
  · intro each key value found
    have listed : (key, value) ∈ object.entries := SortedMap.mem_entries_iff.mpr found
    exact each (key, value) listed
  · intro safe entry inside
    exact safe entry.1 entry.2 (SortedMap.mem_entries_iff.mp inside)

theorem safeObject_renameKey {object : Map} (safe : SafeObject object) (source : String) {target : String}
    (harmless : isUnsafeKey target = false) : SafeObject (renameKey object source target) := by
  intro key value found
  rw [get?_renameKey] at found
  split at found
  · exact safe key value found
  · split at found
    · rename_i renamed
      exact ⟨renamed ▸ harmless, (safe source value found).2⟩
    · split at found
      · cases found
      · exact safe key value found

theorem safeObject_renameKeys {names : List (String × String)} (harmless : ∀ name ∈ names, isUnsafeKey name.2 = false)
    {object : Map} (safe : SafeObject object) : SafeObject (renameKeys names object) := by
  induction names generalizing object with
  | nil => exact safe
  | cons name rest ih =>
    refine ih (fun other inside => harmless other (List.mem_cons_of_mem name inside)) ?_
    exact safeObject_renameKey safe name.1 (harmless name List.mem_cons_self)

theorem safeObject_editObject {object : Map} (safe : SafeObject object) (key : String) {edit : Map → Map}
    (kept : ∀ inner, SafeObject inner → SafeObject (edit inner)) : SafeObject (editObject object key edit) := by
  rw [editObject]
  split
  · rename_i inner found
    obtain ⟨value, listed, same⟩ := Option.bind_eq_some_iff.mp found
    rw [asMap_eq_some] at same
    have member := safe key value listed
    intro other item present
    rw [SortedMap.get?_insert] at present
    split at present
    · rename_i own
      cases present
      rw [same, containsUnsafeKey_ofMap] at member
      exact ⟨own ▸ member.1, (containsUnsafeKey_ofMap _).mpr (kept inner member.2)⟩
    · exact safe other item present
  · exact safe

theorem safeObject_dataBinding (object : Map) (safe : SafeObject object) : SafeObject (normalizeDataBindingObject object) :=
  safeObject_renameKeys (by decide) safe

theorem safeObject_module (object : Map) (safe : SafeObject object) : SafeObject (normalizeModuleObject object) := by
  have named := safeObject_renameKeys (by decide : ∀ name ∈ moduleNames, isUnsafeKey name.2 = false) safe
  exact safeObject_editObject (safeObject_editObject named "dataBinding" safeObject_dataBinding) "visualization"
    fun inner => safeObject_renameKeys (by decide)

theorem safeObject_editMembers {object : Map} (safe : SafeObject object) : SafeObject (editMembers object) := by
  have patched := safeObject_editObject safe "patch" safeObject_module
  have bound := safeObject_editObject patched "dataBinding" safeObject_dataBinding
  exact safeObject_editObject bound "module" safeObject_module

theorem normalize_safe {operation : Value} (safe : containsUnsafeKey operation = false) :
    containsUnsafeKey (normalizeStaticPageOperation operation) = false := by
  rw [normalizeStaticPageOperation]
  cases found : operation.asMap with
  | none => exact safe
  | some object =>
    rw [asMap_eq_some.mp found, containsUnsafeKey_ofMap] at safe
    have named := safeObject_renameKeys (by decide : ∀ name ∈ operationNames, isUnsafeKey name.2 = false) safe
    dsimp only
    rw [normalizeOperationObject_eq, containsUnsafeKey_ofMap]
    generalize renameKeys operationNames object = renamed at named ⊢
    exact safeObject_editMembers named

end SafeKeys

section Passes

theorem sanitizeStaticPageOperation_eq_ok {operation sanitized : Value} :
    sanitizeStaticPageOperation operation = .ok sanitized ↔ containsUnsafeKey operation = false ∧
      (∃ operationType, checkStaticPageOperation (normalizeStaticPageOperation operation) = .ok operationType) ∧
      sanitized = normalizeStaticPageOperation operation := by
  cases safe : containsUnsafeKey operation with
  | true => simp [sanitizeStaticPageOperation, safe, bind, Except.bind]
  | false =>
    cases checked : checkStaticPageOperation (normalizeStaticPageOperation operation) with
    | error error => simp [sanitizeStaticPageOperation, safe, checked, bind, Except.bind]
    | ok operationType =>
      simp [sanitizeStaticPageOperation, safe, checked, bind, Except.bind, pure, Except.pure, eq_comm]

theorem sanitizeStaticPageOperation_again {operation sanitized : Value}
    (accepted : sanitizeStaticPageOperation operation = .ok sanitized) :
    sanitizeStaticPageOperation sanitized = .ok sanitized := by
  obtain ⟨safe, ⟨operationType, checked⟩, same⟩ := sanitizeStaticPageOperation_eq_ok.mp accepted
  have again : normalizeStaticPageOperation sanitized = sanitized := by
    rw [same, normalizeStaticPageOperation_idempotent]
  refine sanitizeStaticPageOperation_eq_ok.mpr ⟨?_, ⟨operationType, ?_⟩, again.symm⟩
  · rw [same]
    exact normalize_safe safe
  · rw [again, same]
    exact checked

/-- A second pass accepts what the first one made, and changes nothing. -/
theorem sanitize_operations_idempotent {operations sanitized : List Value}
    (accepted : sanitizeStaticPageOperations operations = .ok sanitized) :
    sanitizeStaticPageOperations sanitized = .ok sanitized := by
  rw [sanitizeStaticPageOperations] at accepted ⊢
  split at accepted
  · cases accepted
  · rename_i few
    rw [if_neg (by rw [length_of_mapM_ok accepted]; exact few)]
    exact mapM_again (fun _ _ first => sanitizeStaticPageOperation_again first) accepted

/-- One module under both spellings of its keys, with both old spellings of one of them. -/
def mixedOperation : Value := json [("type", .string "add_module"), ("runtime", .string "echarts"),
  ("chart_runtime", .string "echarts"), ("module", json [("id", .string "hero"), ("data_label", .string "Sales"),
    ("dataBinding", json [("source_id", .string "orders")]), ("data_binding", .null)])]

theorem mixed_operation_sanitized_again : ∃ sanitized, sanitizeStaticPageOperations [mixedOperation] = .ok sanitized ∧
    sanitizeStaticPageOperations sanitized = .ok sanitized := by
  have accepted : (sanitizeStaticPageOperations [mixedOperation]).toBool = true := by decide +kernel
  cases ran : sanitizeStaticPageOperations [mixedOperation] with
  | error error =>
    rw [ran] at accepted
    cases accepted
  | ok sanitized => exact ⟨sanitized, rfl, sanitize_operations_idempotent ran⟩

end Passes

end DataMax.StaticPage
