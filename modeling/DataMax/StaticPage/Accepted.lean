import DataMax.StaticPage.Revalidation

/-! What the checks of an edit say about it when they pass. -/

namespace DataMax.StaticPage

open Domain Json Library

section Parts

variable {Item : Type} {object : Map}

theorem requireKnownKeys_eq_ok {known : List String} {message : String} {result : Unit} :
    requireKnownKeys object known message = .ok result ↔ ∀ key value, object.get? key = some value → key ∈ known := by
  rw [requireKnownKeys]
  constructor
  · intro passed key value found
    have listed : (key, value) ∈ object.entries := SortedMap.mem_entries_iff.mpr found
    cases unknown : object.entries.find? fun entry => !known.contains entry.1 with
    | none => simpa using List.find?_eq_none.mp unknown (key, value) listed
    | some entry =>
      rw [unknown] at passed
      cases passed
  · intro each
    have none : object.entries.find? (fun entry => !known.contains entry.1) = none := by
      refine List.find?_eq_none.mpr fun entry inside => ?_
      simpa using each entry.1 entry.2 (SortedMap.mem_entries_iff.mp inside)
    rw [none]

theorem checkEach_eq_ok {items : List Item} {check : Item → Except String Unit} {result : Unit} :
    checkEach items check = .ok result ↔ ∀ item ∈ items, check item = .ok () := by
  induction items with
  | nil => simp [checkEach]
  | cons item rest ih =>
    have unfolded : checkEach (item :: rest) check = (do check item; checkEach rest check) := rfl
    rw [unfolded, bind_eq_ok, List.forall_mem_cons]
    constructor
    · rintro ⟨_, first, later⟩
      exact ⟨first, ih.mp later⟩
    · rintro ⟨first, later⟩
      exact ⟨(), first, ih.mpr later⟩

theorem checkFound_eq_ok {found : Option Value} {check : Value → Except String Unit} {result : Unit} :
    checkFound found check = .ok result ↔ ∀ value, found = some value → check value = .ok () := by
  cases found with
  | none => simp [checkFound]
  | some value => simp [checkFound]

theorem checkMember_eq_ok {key : String} {check : Value → Except String Unit} {result : Unit} :
    checkMember object key check = .ok result ↔ ∀ value, object.get? key = some value → check value = .ok () :=
  checkFound_eq_ok

theorem requireThat_eq_ok {condition : Bool} {message : String} {result : Unit} :
    requireThat condition message = .ok result ↔ condition = true := by
  rw [requireThat]
  cases condition <;> simp

end Parts

section Texts

/-- Nothing, or a text without a marker. -/
def SafeTextOrNull (value : Value) : Prop :=
  value = .null ∨ ∃ text, value = .string text ∧ staticPageTextStringIsUnsafe text = false

theorem validateSafeText_eq_ok {text fieldName : String} {result : Unit} :
    validateSafeText text fieldName = .ok result ↔ staticPageTextStringIsUnsafe text = false := by
  rw [validateSafeText]
  cases staticPageTextStringIsUnsafe text <;> simp

theorem validateSafeOptionalString_eq_ok {value : Value} {fieldName : String} {result : Unit} :
    validateSafeOptionalString value fieldName = .ok result ↔ SafeTextOrNull value := by
  rw [validateSafeOptionalString, bind_eq_ok, SafeTextOrNull]
  cases value with
  | null => simp [validateOptionalString, Value.asStr]; rfl
  | string text => simp [validateOptionalString, Value.asStr, validateSafeText_eq_ok]
  | _ => simp [validateOptionalString]

end Texts

section Operation

/-- An operation that passes the checks has the type, and is one that the type allows. -/
theorem checkStaticPageOperation_eq_ok {operation : Value} {operationType : OperationType} :
    checkStaticPageOperation operation = .ok operationType ↔
      staticPageOperationType operation = some operationType.asStr ∧
        validateStaticPageOperation operation operationType = .ok () := by
  rw [checkStaticPageOperation]
  simp only [bind_eq_ok, okOr_eq_ok]
  constructor
  · rintro ⟨name, named, found, supported, _, valid, same⟩
    cases same
    exact ⟨OperationType.ofStr_eq_some supported ▸ named, valid⟩
  · rintro ⟨named, valid⟩
    exact ⟨operationType.asStr, named, operationType, OperationType.ofStr_asStr operationType, (), valid, rfl⟩

theorem sanitizeStaticPageOperation_checked {operation sanitized : Value}
    (accepted : sanitizeStaticPageOperation operation = .ok sanitized) :
    ∃ operationType, checkStaticPageOperation sanitized = .ok operationType := by
  obtain ⟨_, checked, same⟩ := sanitizeStaticPageOperation_eq_ok.mp accepted
  rw [same]
  exact checked

/-- Every operation of a sanitised list passes the checks as it stands. -/
theorem sanitizeStaticPageOperations_checked {given operations : List Value}
    (accepted : sanitizeStaticPageOperations given = .ok operations) {operation : Value} (inside : operation ∈ operations) :
    ∃ operationType, checkStaticPageOperation operation = .ok operationType := by
  rw [sanitizeStaticPageOperations] at accepted
  split at accepted
  · cases accepted
  · obtain ⟨source, _, made⟩ := exists_of_mem_mapM accepted inside
    exact sanitizeStaticPageOperation_checked made

end Operation

end DataMax.StaticPage
