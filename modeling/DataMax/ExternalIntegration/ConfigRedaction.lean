import DataMax.Domain.Text
import DataMax.Json.Paths

/-! What is shown of the configuration of an external integration: values under sensitive keys are
taken out, at every depth. -/

namespace DataMax.ExternalIntegration

open Domain Json Library

def sensitiveMarkers : List String := ["secret", "token", "password", "private_key", "api_key", "access_key",
  "refresh_key", "signing_key", "encrypt_key", "credential"]

def externalIntegrationConfigKeyIsSensitive (key : String) : Bool := sensitiveMarkers.any (contains (asciiLower key))

def isSensitive (parentKey : Option String) : Bool := (parentKey.map externalIntegrationConfigKeyIsSensitive).getD false

def redacted : Value := .string "[redacted]"

mutual

/-- Items of a list are under the key that the list is under. -/
def redactExternalConfigValue (parentKey : Option String) (value : Value) : Value :=
  if isSensitive parentKey then redacted
  else match value with
    | .object entries => .object (redactEntries entries)
    | .array items => .array (redactItems parentKey items)
    | other => other

def redactItems (parentKey : Option String) : List Value → List Value
  | [] => []
  | item :: rest => redactExternalConfigValue parentKey item :: redactItems parentKey rest

def redactEntries : List (String × Value) → List (String × Value)
  | [] => []
  | (key, value) :: rest => (key, redactExternalConfigValue (some key) value) :: redactEntries rest

end

def externalIntegrationConfigRedactedSummary (config : Value) : Value := redactExternalConfigValue none config

section Redaction

variable {parentKey : Option String} {key : String} {value found : Value} {step : Step} {path : List Step}

theorem redactItems_eq (parentKey : Option String) (items : List Value) :
    redactItems parentKey items = items.map (redactExternalConfigValue parentKey) := by
  induction items with
  | nil => rfl
  | cons item rest ih => rw [redactItems, ih, List.map_cons]

theorem redactEntries_eq (entries : List (String × Value)) : redactEntries entries =
    entries.map fun entry => (entry.1, redactExternalConfigValue (some entry.1) entry.2) := by
  induction entries with
  | nil => rfl
  | cons entry rest ih => rw [redactEntries, ih, List.map_cons]

attribute [local simp] redactExternalConfigValue in
theorem redact_sensitive (sensitive : isSensitive parentKey = true) (value : Value) :
    redactExternalConfigValue parentKey value = redacted := by
  cases value <;> simp [sensitive]

theorem redact_leaf (harmless : isSensitive parentKey = false) (leaf : value.IsLeaf) :
    redactExternalConfigValue parentKey value = value := by
  cases value with
  | array items => simp [Value.items_leaf leaf, redactExternalConfigValue, redactItems, harmless]
  | object entries => simp [Value.entries_leaf leaf, redactExternalConfigValue, redactEntries, harmless]
  | _ => simp [redactExternalConfigValue, harmless]

theorem redact_object (harmless : isSensitive parentKey = false) (entries : List (String × Value)) :
    redactExternalConfigValue parentKey (.object entries) =
      .object (entries.map fun entry => (entry.1, redactExternalConfigValue (some entry.1) entry.2)) := by
  rw [redactExternalConfigValue, if_neg (Bool.eq_false_iff.mp harmless), redactEntries_eq]

theorem redact_array (harmless : isSensitive parentKey = false) (items : List Value) :
    redactExternalConfigValue parentKey (.array items) =
      .array (items.map (redactExternalConfigValue parentKey)) := by
  rw [redactExternalConfigValue, if_neg (Bool.eq_false_iff.mp harmless), redactItems_eq]

theorem findEntry_map {change : String → Value → Value} (key : String) (entries : List (String × Value)) :
    SortedMap.findEntry key (entries.map fun entry => (entry.1, change entry.1 entry.2)) =
      (SortedMap.findEntry key entries).map (change key) := by
  induction entries with
  | nil => rfl
  | cons entry rest ih =>
    rw [List.map_cons, SortedMap.findEntry, SortedMap.findEntry, ih]
    split
    · rename_i same
      rw [Std.LawfulEqCmp.eq_of_compare same]
      rfl
    · rfl

/-- The key that something is under after the step. -/
def under (parentKey : Option String) (step : Step) : Option String := step.key?.or parentKey

theorem child_redact (harmless : isSensitive parentKey = false) :
    (redactExternalConfigValue parentKey value).child step =
      (value.child step).map (redactExternalConfigValue (under parentKey step)) := by
  cases value with
  | object entries =>
    rw [redact_object harmless]
    cases step with
    | key name => exact @findEntry_map (fun key => redactExternalConfigValue (some key)) name entries
    | index => rfl
  | array items =>
    rw [redact_array harmless]
    cases step with
    | key => rfl
    | index position => exact List.getElem?_map ..
  | null | bool | number | string => simp [redactExternalConfigValue, harmless, Value.child]

/-- The keys that the end of the path is under. -/
def keysOver (parentKey : Option String) (path : List Step) : List String := parentKey.toList ++ keysOf path

theorem mem_keysOver_cons {other : String} : other ∈ keysOver parentKey (step :: path) ↔
    other ∈ parentKey.toList ∨ other ∈ keysOver (under parentKey step) path := by
  cases step with
  | key name => simp [keysOver, keysOf, under, Step.key?]
  | index => simp [keysOver, keysOf, under, Step.key?]

theorem isSensitive_iff : isSensitive parentKey = true ↔
    ∃ key ∈ parentKey.toList, externalIntegrationConfigKeyIsSensitive key = true := by
  cases parentKey <;> simp [isSensitive]

/-- Under a sensitive key there is nothing but the mark. -/
theorem at_redact_sensitive (sensitive : ∃ key ∈ keysOver parentKey path, externalIntegrationConfigKeyIsSensitive key = true)
    (reached : (redactExternalConfigValue parentKey value).at? path = some found) : found = redacted := by
  induction path generalizing parentKey value with
  | nil =>
    have own : isSensitive parentKey = true := by simpa [isSensitive_iff, keysOver, keysOf] using sensitive
    rw [redact_sensitive own] at reached
    exact (Option.some.inj reached).symm
  | cons step rest ih =>
    cases own : isSensitive parentKey with
    | true =>
      rw [redact_sensitive own] at reached
      have leaf : redacted.IsLeaf := trivial
      exact (Value.at?_leaf leaf reached).2
    | false =>
      rw [Value.at?, child_redact own] at reached
      obtain ⟨inner, there, later⟩ := Option.bind_eq_some_iff.mp reached
      obtain ⟨original, -, rfl⟩ := Option.map_eq_some_iff.mp there
      refine ih ?_ later
      obtain ⟨key, above, flagged⟩ := sensitive
      rw [mem_keysOver_cons] at above
      refine ⟨key, above.resolve_left fun outer => ?_, flagged⟩
      rw [← Bool.not_eq_true, isSensitive_iff] at own
      exact own ⟨key, outer, flagged⟩

theorem mem_last_key (key : String) (last : key ∈ (path.foldl under parentKey).toList) : key ∈ keysOver parentKey path := by
  induction path generalizing parentKey with
  | nil => exact List.mem_append_left _ last
  | cons step rest ih =>
    rw [mem_keysOver_cons]
    exact .inr (ih last)

/-- Elsewhere what is found is shown, and what is in it is treated the same. -/
theorem at_redact_harmless (harmless : ∀ key ∈ keysOver parentKey path, externalIntegrationConfigKeyIsSensitive key = false) :
    (redactExternalConfigValue parentKey value).at? path =
      (value.at? path).map (redactExternalConfigValue (path.foldl under parentKey)) := by
  induction path generalizing parentKey value with
  | nil => rfl
  | cons step rest ih =>
    simp only [mem_keysOver_cons] at harmless
    have own : isSensitive parentKey = false := by
      rw [← Bool.not_eq_true, isSensitive_iff]
      simpa using fun key outer => harmless key (.inl outer)
    rw [Value.at?, Value.at?, child_redact own]
    cases value.child step with
    | none => rfl
    | some inner => exact ih fun key above => harmless key (.inr above)

theorem last_harmless (harmless : ∀ key ∈ keysOver parentKey path, externalIntegrationConfigKeyIsSensitive key = false) :
    isSensitive (path.foldl under parentKey) = false := by
  rw [← Bool.not_eq_true, isSensitive_iff]
  rintro ⟨key, last, flagged⟩
  rw [harmless key (mem_last_key key last)] at flagged
  cases flagged

mutual

theorem redact_redact (parentKey : Option String) (value : Value) : redactExternalConfigValue parentKey
    (redactExternalConfigValue parentKey value) = redactExternalConfigValue parentKey value := by
  cases own : isSensitive parentKey with
  | true => rw [redact_sensitive own, redact_sensitive own]
  | false =>
    match value with
    | .object entries =>
      have inner := redactEntries_redact entries
      simp only [redactEntries_eq] at inner
      rw [redact_object own, redact_object own, inner]
    | .array items =>
      have inner := redactItems_redact parentKey items
      simp only [redactItems_eq] at inner
      rw [redact_array own, redact_array own, inner]
    | .null | .bool _ | .number _ | .string _ => simp [redactExternalConfigValue, own]

theorem redactItems_redact (parentKey : Option String) : ∀ items,
    redactItems parentKey (redactItems parentKey items) = redactItems parentKey items
  | [] => rfl
  | item :: rest => by
    rw [redactItems, redactItems, redact_redact parentKey item, redactItems_redact parentKey rest]

theorem redactEntries_redact : ∀ entries, redactEntries (redactEntries entries) = redactEntries entries
  | [] => rfl
  | (key, value) :: rest => by
    rw [redactEntries, redactEntries, redact_redact (some key) value, redactEntries_redact rest]

end

end Redaction

section Spelling

variable {config : Value}

/-- Its letters and digits, in lower case. -/
def lettersAndDigits (key : String) : String := .ofList ((asciiLower key).toList.filter Char.isAlphanum)

/-- The key has one of the names, however it is written. -/
def SpellsSensitive (key : String) : Prop :=
  ∃ marker ∈ sensitiveMarkers, contains (lettersAndDigits key) (lettersAndDigits marker) = true

/-- What is under such a key is taken out, and all else is as it was. -/
structure HidesSensitive (config summary : Value) : Prop where
  hidden : ∀ path leaf, config.at? path = some leaf → leaf.IsLeaf → (∃ key ∈ keysOf path, SpellsSensitive key) →
    summary.at? path = some leaf → leaf = redacted
  leaves : ∀ path leaf, config.at? path = some leaf → leaf.IsLeaf → (∀ key ∈ keysOf path, ¬ SpellsSensitive key) →
    summary.at? path = some leaf
  keys : ∀ path entries, config.at? path = some (.object entries) → (∀ key ∈ keysOf path, ¬ SpellsSensitive key) →
    ∃ shown, summary.at? path = some (.object shown) ∧ shown.map (·.1) = entries.map (·.1)
  items : ∀ path items, config.at? path = some (.array items) → (∀ key ∈ keysOf path, ¬ SpellsSensitive key) →
    ∃ shown, summary.at? path = some (.array shown) ∧ shown.length = items.length

/-- The markers are in lower case already. -/
theorem spells_of_sensitive {key : String} (sensitive : externalIntegrationConfigKeyIsSensitive key = true) :
    SpellsSensitive key := by
  obtain ⟨marker, listed, inside⟩ := List.any_eq_true.mp sensitive
  have lower : sensitiveMarkers.all (fun marker => asciiLower marker == marker) = true := by decide +kernel
  have own : asciiLower marker = marker := by simpa using List.all_eq_true.mp lower marker listed
  refine ⟨marker, listed, ?_⟩
  rw [contains_iff] at inside ⊢
  rw [lettersAndDigits, lettersAndDigits, String.toList_ofList, String.toList_ofList, own]
  exact inside.filter _

/-- The leaves that a spelled name is over and no marker. -/
theorem hidesSensitive_iff : HidesSensitive config (externalIntegrationConfigRedactedSummary config) ↔
    ∀ path leaf, config.at? path = some leaf → leaf.IsLeaf → (∃ key ∈ keysOf path, SpellsSensitive key) →
      (∃ key ∈ keysOf path, externalIntegrationConfigKeyIsSensitive key = true) ∨ leaf = redacted := by
  have above : ∀ path : List Step, keysOver none path = keysOf path := fun path => rfl
  have unspelled : ∀ path : List Step, (∀ key ∈ keysOf path, ¬ SpellsSensitive key) →
      ∀ key ∈ keysOver none path, externalIntegrationConfigKeyIsSensitive key = false := by
    intro path plain key listed
    rw [← Bool.not_eq_true]
    exact fun sensitive => plain key listed (spells_of_sensitive sensitive)
  rw [externalIntegrationConfigRedactedSummary]
  constructor
  · intro hides path leaf there isLeaf spelled
    by_cases sensitive : ∃ key ∈ keysOf path, externalIntegrationConfigKeyIsSensitive key = true
    · exact .inl sensitive
    · push Not at sensitive
      have harmless : ∀ key ∈ keysOver none path, externalIntegrationConfigKeyIsSensitive key = false := by
        simpa [above] using sensitive
      refine .inr (hides.hidden path leaf there isLeaf spelled ?_)
      rw [at_redact_harmless harmless, there, Option.map_some, redact_leaf (last_harmless harmless) isLeaf]
  · intro covered
    refine ⟨?_, ?_, ?_, ?_⟩
    · intro path leaf there isLeaf spelled shown
      rcases covered path leaf there isLeaf spelled with sensitive | marked
      · exact @at_redact_sensitive none _ _ path sensitive shown
      · exact marked
    · intro path leaf there isLeaf plain
      have harmless := unspelled path plain
      rw [at_redact_harmless harmless, there, Option.map_some, redact_leaf (last_harmless harmless) isLeaf]
    · intro path entries there plain
      have harmless := unspelled path plain
      rw [at_redact_harmless harmless, there, Option.map_some, redact_object (last_harmless harmless)]
      exact ⟨_, rfl, by simp⟩
    · intro path items there plain
      have harmless := unspelled path plain
      rw [at_redact_harmless harmless, there, Option.map_some, redact_array (last_harmless harmless)]
      exact ⟨_, rfl, List.length_map _⟩

/-- A leaf under a key that spells a name is taken out where some key over it also contains a name with
its underscore, and what is shown once is shown the same again. -/
theorem config_redacted_iff (config : Value) :
    (HidesSensitive config (externalIntegrationConfigRedactedSummary config) ∧
      externalIntegrationConfigRedactedSummary (externalIntegrationConfigRedactedSummary config) =
        externalIntegrationConfigRedactedSummary config) ↔
    ∀ path leaf, config.at? path = some leaf → leaf.IsLeaf → (∃ key ∈ keysOf path, SpellsSensitive key) →
      (∃ key ∈ keysOf path, externalIntegrationConfigKeyIsSensitive key = true) ∨ leaf = redacted := by
  have again : externalIntegrationConfigRedactedSummary (externalIntegrationConfigRedactedSummary config) =
      externalIntegrationConfigRedactedSummary config := redact_redact none config
  rw [hidesSensitive_iff, and_iff_left again]

def camelConfig : Value := .object [("apiKey", .string "raw-api-key")]

theorem config_redacted_camel :
    ¬ ∀ config, HidesSensitive config (externalIntegrationConfigRedactedSummary config) := by
  intro always
  have hidden := (always camelConfig).hidden [.key "apiKey"] (.string "raw-api-key") (by rfl) trivial
  have spelled : ∃ key ∈ keysOf [.key "apiKey"], SpellsSensitive key :=
    ⟨"apiKey", List.mem_singleton_self _, "api_key", by simp [sensitiveMarkers], by decide +kernel⟩
  have harmless : externalIntegrationConfigKeyIsSensitive "apiKey" = false := by decide +kernel
  have shown : (externalIntegrationConfigRedactedSummary camelConfig).at? [.key "apiKey"] =
      some (.string "raw-api-key") := by
    have own : isSensitive (some "apiKey") = false := harmless
    have leaf : (Value.string "raw-api-key").IsLeaf := trivial
    have alone : externalIntegrationConfigRedactedSummary camelConfig = camelConfig := by
      rw [externalIntegrationConfigRedactedSummary, camelConfig, redact_object rfl, List.map_cons, List.map_nil,
        redact_leaf own leaf]
    rw [alone]
    rfl
  exact absurd (hidden spelled shown) (by simp [redacted])

end Spelling

end DataMax.ExternalIntegration
