import DataMax.StaticPage.KeyParts
import Mathlib.Data.Set.List

/-! Page keys and the scopes they stand for: what is collected, as kinds and ids, and that keys tell scopes apart. -/

namespace DataMax.StaticPage

open Domain Json Library

section Insertion

variable {part other : PartKind → String → Prop} {parts : ScopeParts}

/-- What a step adds to the parts. -/
def Adds (step : ScopeParts → ScopeParts) (part : PartKind → String → Prop) : Prop :=
  ∀ parts text, text ∈ SortedSet.toList (step parts) ↔
    text ∈ SortedSet.toList parts ∨ ∃ kind id, part kind id ∧ text = scopePartText kind id

theorem Adds.congr {step : ScopeParts → ScopeParts} (adds : Adds step part)
    (same : ∀ kind id, part kind id ↔ other kind id) : Adds step other := by
  intro parts text
  simp only [adds parts text, same]

theorem Adds.comp {first second : ScopeParts → ScopeParts} (adds : Adds first part) (later : Adds second other) :
    Adds (fun parts => second (first parts)) fun kind id => part kind id ∨ other kind id := by
  intro parts text
  simp only [later (first parts) text, adds parts text, or_assoc, or_and_right, exists_or]

theorem Adds.foldl {Item : Type} {step : ScopeParts → Item → ScopeParts} {added : Item → PartKind → String → Prop}
    (each : ∀ item, Adds (fun parts => step parts item) (added item)) (items : List Item) :
    Adds (fun parts => items.foldl step parts) fun kind id => ∃ item ∈ items, added item kind id := by
  induction items with
  | nil => simp [Adds]
  | cons item rest ih =>
    refine ((each item).comp ih).congr fun kind id => ?_
    simp

theorem adds_insertPart (kind : PartKind) (id : Option String) :
    Adds (fun parts => insertPart parts kind.text (id.map escapeId)) fun named value => named = kind ∧ id = some value := by
  intro parts text
  cases id with
  | none => simp [insertPart]
  | some value => simp [insertPart, scopePartText]

/-- The items of a value that may be a list or stand alone. -/
def itemsOf : Option Value → List Value
  | none => []
  | some (.array items) => items
  | some other => [other]

/-- The id is that of a text of the value. -/
def Listed (value : Option Value) (id : String) : Prop := ∃ text, .string text ∈ itemsOf value ∧ normalizedId text = some id

theorem mem_pushExternalId {ids : List String} {value : Value} {id : String} : id ∈ pushExternalId ids value ↔
    id ∈ ids ∨ ∃ text, value = .string text ∧ trim text = id ∧ id ≠ "" := by
  rw [pushExternalId]
  cases value with
  | string text =>
    by_cases blank : trim text = ""
    · have filtered : ((Value.string text).asStr.map trim).filter (· ≠ "") = none := by simp [Value.asStr, blank]
      rw [filtered]
      simp [blank, eq_comm]
    · have filtered : ((Value.string text).asStr.map trim).filter (· ≠ "") = some (trim text) := by
        simp [Value.asStr, blank]
      rw [filtered]
      by_cases known : trim text ∈ ids
      · simp only [if_pos known]
        grind
      · simp only [if_neg known]
        grind
  | _ => simp [Value.asStr]

theorem mem_externalStringIds {value : Value} {id : String} : id ∈ externalStringIdsFromPayloadValue value ↔
    ∃ text, .string text ∈ itemsOf (some value) ∧ trim text = id ∧ id ≠ "" := by
  have fold (items : List Value) (ids : List String) : id ∈ items.foldl pushExternalId ids ↔
      id ∈ ids ∨ ∃ text, .string text ∈ items ∧ trim text = id ∧ id ≠ "" := by
    induction items generalizing ids with
    | nil => simp
    | cons item rest ih =>
      rw [List.foldl_cons, ih, mem_pushExternalId]
      grind
  have items : externalStringIdsFromPayloadValue value = (itemsOf (some value)).foldl pushExternalId [] := by
    cases value <;> rfl
  rw [items, fold]
  simp

theorem normalizedId_trim (text : String) : normalizedId (trim text) = normalizedId text := by
  rw [normalizedId, trim_trim, normalizedId]

theorem normalizedId_blank : normalizedId "" = none := by decide

theorem adds_insertValue (kind : PartKind) (value : Option Value) :
    Adds (fun parts => staticPageStableKeyInsertValue parts kind.text value) fun named id => named = kind ∧ Listed value id := by
  cases value with
  | none => simp [Adds, staticPageStableKeyInsertValue, Listed, itemsOf]
  | some value =>
    have each (raw : String) : Adds (fun parts => insertPart parts kind.text (staticPageStableKeyToken raw))
        fun named id => named = kind ∧ normalizedId raw = some id := by
      rw [staticPageStableKeyToken_eq]
      exact adds_insertPart kind (normalizedId raw)
    refine (Adds.foldl each (externalStringIdsFromPayloadValue value)).congr fun named id => ?_
    simp only [mem_externalStringIds, Listed]
    constructor
    · rintro ⟨raw, ⟨text, listed, rfl, -⟩, same, normalized⟩
      exact ⟨same, text, listed, by rw [← normalizedId_trim, normalized]⟩
    · rintro ⟨same, text, listed, normalized⟩
      refine ⟨trim text, ⟨text, listed, rfl, fun blank => ?_⟩, same, by rw [normalizedId_trim, normalized]⟩
      rw [← normalizedId_trim, blank, normalizedId_blank] at normalized
      cases normalized

/-- Keys with the kinds of their parts. -/
theorem adds_insertValues (named : List (String × PartKind))
    (texts : ∀ pair ∈ named, Ingest.trimEndMatches 's' pair.1 = pair.2.text) (valueOf : String → Option Value) :
    Adds (fun parts => insertValues parts (named.map (·.1)) valueOf) fun kind id =>
      ∃ pair ∈ named, kind = pair.2 ∧ Listed (valueOf pair.1) id := by
  simp only [insertValues, List.foldl_map]
  induction named with
  | nil => simp [Adds]
  | cons pair rest ih =>
    obtain ⟨first, others⟩ := List.forall_mem_cons.mp texts
    simp only [List.foldl_cons, first]
    refine ((adds_insertValue pair.2 (valueOf pair.1)).comp (ih others)).congr fun kind id => ?_
    simp

/-- The id of the first key that has one. -/
def firstId (keys : List String) (item : Value) : Option String :=
  keys.findSome? fun key => ((item.get key).bind Value.asStr).bind normalizedId

theorem firstToken_eq (keys : List String) (item : Value) : firstToken keys item = (firstId keys item).map escapeId := by
  have token : staticPageStableKeyToken = fun value => (normalizedId value).map escapeId :=
    funext staticPageStableKeyToken_eq
  induction keys with
  | nil => rfl
  | cons key rest ih =>
    rw [firstToken, firstId, List.findSome?_cons, List.findSome?_cons, ← firstToken, ← firstId, ih, token]
    cases (item.get key).bind Value.asStr with
    | none => rfl
    | some text =>
      simp only [Option.bind_some]
      cases normalizedId text <;> rfl

end Insertion

section Collection

variable (floatText : UInt64 → String) (parseUuid : String → Option UuidBytes) (scope refs : Value)
  (connection : Option String)

/-- The keys of external datasets, those of the document scope first. -/
def scopedDatasetKeys : List (String × PartKind) :=
  [("dataset_external_ids", .datasetExternalId), ("requested_dataset_external_ids", .requestedDatasetExternalId)]

def externalDatasetKeys : List (String × PartKind) :=
  scopedDatasetKeys ++ [("available_dataset_external_ids", .availableDatasetExternalId)]

def databaseSourceKeys : List (String × PartKind) :=
  [("database_source_ids", .databaseSourceId), ("databaseSourceIds", .databaseSourceIdCamel),
    ("database_source_id", .databaseSourceId), ("databaseSourceId", .databaseSourceIdCamel)]

def ChannelPart (kind : PartKind) (id : String) : Prop := kind = .channel ∧ connection.bind normalizedId = some id

def ExternalDatasetPart (kind : PartKind) (id : String) : Prop :=
  (∃ pair ∈ externalDatasetKeys, kind = pair.2 ∧ Listed (scope.get pair.1) id) ∨
    ∃ pair ∈ scopedDatasetKeys, kind = pair.2 ∧ Listed ((scope.get "dataset_document_scope").bind (·.get pair.1)) id

def CanonicalDatasetPart (kind : PartKind) (id : String) : Prop :=
  (¬ ∃ kind id, ExternalDatasetPart scope kind id) ∧ ∃ item ∈ arrayItems (scope.get "canonical_datasets"),
    kind = .canonicalDatasetId ∧ firstId scopeItemIdKeys item = some id

def SelectedDatasetPart (kind : PartKind) (id : String) : Prop :=
  (¬ ∃ kind id, ExternalDatasetPart scope kind id ∨ CanonicalDatasetPart scope kind id) ∧
    ∃ key ∈ ["datasets", "selected"], ∃ item ∈ arrayItems (scope.get key),
      kind = .datasetId ∧ (datasetIdFromScopeItem parseUuid item).map UuidBytes.text = some id

def DatasetPart (kind : PartKind) (id : String) : Prop :=
  ExternalDatasetPart scope kind id ∨ CanonicalDatasetPart scope kind id ∨ SelectedDatasetPart parseUuid scope kind id

def DocumentPart (kind : PartKind) (id : String) : Prop :=
  (¬ ∃ kind id, DatasetPart parseUuid scope kind id) ∧
    (kind = .availableDocumentExternalId ∧ Listed (scope.get "available_document_external_ids") id ∨
      ∃ item ∈ arrayItems (scope.get "documents"),
        kind = .documentExternalId ∧ firstId scopeItemExternalIdKeys item = some id ∨
          kind = .documentId ∧ firstId scopeItemIdKeys item = some id)

def DatabaseSourcePart (kind : PartKind) (id : String) : Prop :=
  ∃ pair ∈ databaseSourceKeys, kind = pair.2 ∧ Listed ((refs.get pair.1).or (scope.get pair.1)) id

/-- What a delivery has under a key. -/
def deliveryValue (key : String) : Option Value := (refs.get "recipient_delivery").bind (·.get key)

/-- The id of a mapping is its JSON text. -/
def RecipientPart (kind : PartKind) (id : String) : Prop :=
  kind = .recipientUser ∧ Listed (deliveryValue refs "target_external_user_ids") id ∨
    (∃ candidate ∈ arrayItems (deliveryValue refs "role_scope_candidates"),
      kind = .recipientRole ∧ ((candidate.get "role").bind Value.asStr).bind normalizedId = some id ∨
        kind = .recipientScope ∧ ((candidate.get "default_scope").bind Value.asStr).bind normalizedId = some id) ∨
    ∃ mapping, deliveryValue refs "provided_mapping" = some mapping ∧ mapping ≠ .null ∧
      kind = .recipientMapping ∧ normalizedId (mapping.text floatText) = some id

/-- The parts of a scope, each a kind and an id. -/
def ScopePart (kind : PartKind) (id : String) : Prop :=
  ChannelPart connection kind id ∨ DatasetPart parseUuid scope kind id ∨ DocumentPart parseUuid scope kind id ∨
    DatabaseSourcePart scope refs kind id ∨ RecipientPart floatText refs kind id

variable {floatText parseUuid scope refs connection}

theorem adds_externalDatasets : Adds (collectExternalDatasets · scope) (ExternalDatasetPart scope) := by
  have outer := adds_insertValues externalDatasetKeys (by decide) scope.get
  cases nested : scope.get "dataset_document_scope" with
  | none =>
    have only : (collectExternalDatasets · scope) = fun parts =>
        insertValues parts (externalDatasetKeys.map (·.1)) scope.get := by
      funext parts
      rw [collectExternalDatasets, nested]
      rfl
    rw [only]
    refine outer.congr fun kind id => ?_
    simp [ExternalDatasetPart, nested, Listed, itemsOf]
  | some documentScope =>
    have both : (collectExternalDatasets · scope) = fun parts =>
        insertValues (insertValues parts (externalDatasetKeys.map (·.1)) scope.get) (scopedDatasetKeys.map (·.1))
          documentScope.get := by
      funext parts
      rw [collectExternalDatasets, nested]
      rfl
    rw [both]
    refine (outer.comp (adds_insertValues scopedDatasetKeys (by decide) documentScope.get)).congr fun kind id => ?_
    simp [ExternalDatasetPart, nested]

theorem adds_canonicalDatasets : Adds (collectCanonicalDatasets · scope) fun kind id =>
    ∃ item ∈ arrayItems (scope.get "canonical_datasets"), kind = .canonicalDatasetId ∧ firstId scopeItemIdKeys item = some id := by
  refine Adds.foldl (fun item => ?_) _
  simp only [staticPageStableKeyInsertScopeItemId, firstToken_eq]
  exact adds_insertPart .canonicalDatasetId _

theorem mem_selectedDatasetIds {datasetId : UuidBytes} : datasetId ∈ selectedDatasetIdsFromScope parseUuid scope ↔
    ∃ key ∈ ["datasets", "selected"], ∃ item ∈ arrayItems (scope.get key),
      datasetIdFromScopeItem parseUuid item = some datasetId := by
  have pushed (ids : List UuidBytes) (item : Value) : datasetId ∈ pushDatasetId parseUuid ids item ↔
      datasetId ∈ ids ∨ datasetIdFromScopeItem parseUuid item = some datasetId := by
    rw [pushDatasetId]
    cases datasetIdFromScopeItem parseUuid item with
    | none => simp
    | some found =>
      by_cases known : found ∈ ids
      · simp only [if_pos known]
        grind
      · simp only [if_neg known]
        grind
  have fold (items : List Value) (ids : List UuidBytes) : datasetId ∈ items.foldl (pushDatasetId parseUuid) ids ↔
      datasetId ∈ ids ∨ ∃ item ∈ items, datasetIdFromScopeItem parseUuid item = some datasetId := by
    induction items generalizing ids with
    | nil => simp
    | cons item rest ih =>
      rw [List.foldl_cons, ih, pushed]
      grind
  rw [selectedDatasetIdsFromScope, List.foldl_cons, List.foldl_cons, List.foldl_nil, fold, fold]
  simp

theorem escapeId_uuid (uuid : UuidBytes) : escapeId uuid.text = uuid.text := by
  have plain : ∀ ch ∈ uuid.text.toList, escapeMark ch = [ch] := by
    intro ch inside
    rcases UuidBytes.mem_text inside with rfl | ⟨digit, rfl⟩
    · decide
    · have every : ∀ digit : Fin 16, escapeMark (Nat.digitChar digit) = [Nat.digitChar digit] := by decide
      exact every digit
  rw [escapeId, List.flatMap_congr plain, List.flatMap_singleton', String.ofList_toList]

theorem adds_selectedDatasets : Adds (collectSelectedDatasets parseUuid · scope) fun kind id =>
    ∃ key ∈ ["datasets", "selected"], ∃ item ∈ arrayItems (scope.get key),
      kind = .datasetId ∧ (datasetIdFromScopeItem parseUuid item).map UuidBytes.text = some id := by
  have each (datasetId : UuidBytes) : Adds (fun parts => SortedSet.add parts ("dataset_id:" ++ datasetId.text))
      fun kind id => kind = .datasetId ∧ some datasetId.text = some id := by
    have inserted := adds_insertPart .datasetId (some datasetId.text)
    rw [Option.map_some, escapeId_uuid] at inserted
    exact inserted
  refine (Adds.foldl each _).congr fun kind id => ?_
  simp only [mem_selectedDatasetIds, Option.map_eq_some_iff]
  grind

theorem adds_documents : Adds (collectDocuments · scope) fun kind id =>
    kind = .availableDocumentExternalId ∧ Listed (scope.get "available_document_external_ids") id ∨
      ∃ item ∈ arrayItems (scope.get "documents"),
        kind = .documentExternalId ∧ firstId scopeItemExternalIdKeys item = some id ∨
          kind = .documentId ∧ firstId scopeItemIdKeys item = some id := by
  refine (adds_insertValue .availableDocumentExternalId _).comp (Adds.foldl (fun item => ?_) _)
  simp only [staticPageStableKeyInsertScopeItemId, staticPageStableKeyInsertScopeItemExternalId, firstToken_eq]
  exact (adds_insertPart .documentExternalId _).comp (adds_insertPart .documentId _)

theorem adds_databaseSources : Adds (collectDatabaseSources · scope refs) (DatabaseSourcePart scope refs) :=
  adds_insertValues databaseSourceKeys (by decide) fun key => (refs.get key).or (scope.get key)

theorem adds_candidate (candidate : Value) : Adds (insertCandidate · candidate) fun kind id =>
    kind = .recipientRole ∧ ((candidate.get "role").bind Value.asStr).bind normalizedId = some id ∨
      kind = .recipientScope ∧ ((candidate.get "default_scope").bind Value.asStr).bind normalizedId = some id := by
  have token (raw : Option String) : raw.bind staticPageStableKeyToken = (raw.bind normalizedId).map escapeId := by
    cases raw with
    | none => rfl
    | some text => rw [Option.bind_some, Option.bind_some, staticPageStableKeyToken_eq]
  simp only [insertCandidate, token]
  exact (adds_insertPart .recipientRole _).comp (adds_insertPart .recipientScope _)

theorem insertMapping_some {value : Value} (other : value ≠ .null) (parts : ScopeParts) :
    insertMapping floatText parts (some value) =
      insertPart parts "recipient_mapping" (staticPageStableKeyToken (value.text floatText)) := by
  cases value with
  | null => exact absurd rfl other
  | _ => rfl

theorem insertMapping_none (parts : ScopeParts) : insertMapping floatText parts none = parts := rfl

theorem insertMapping_null (parts : ScopeParts) : insertMapping floatText parts (some .null) = parts := rfl

theorem adds_mapping (mapping : Option Value) : Adds (insertMapping floatText · mapping) fun kind id =>
    ∃ value, mapping = some value ∧ value ≠ .null ∧
      kind = .recipientMapping ∧ normalizedId (value.text floatText) = some id := by
  have written (value : Value) : Adds (fun parts => insertPart parts "recipient_mapping"
      (staticPageStableKeyToken (value.text floatText))) fun kind id =>
        kind = .recipientMapping ∧ normalizedId (value.text floatText) = some id := by
    rw [staticPageStableKeyToken_eq]
    exact adds_insertPart .recipientMapping _
  cases mapping with
  | none =>
    intro parts text
    simp [insertMapping_none]
  | some value =>
    by_cases null : value = .null
    · subst null
      intro parts text
      simp [insertMapping_null]
    · simp only [insertMapping_some null]
      refine (written value).congr fun kind id => ?_
      simp [null]

theorem adds_recipients : Adds (collectRecipients floatText · refs) (RecipientPart floatText refs) := by
  cases delivered : refs.get "recipient_delivery" with
  | none =>
    intro parts text
    simp [collectRecipients, delivered, RecipientPart, deliveryValue, Listed, itemsOf, arrayItems]
  | some delivery =>
    have users := adds_insertValue .recipientUser (delivery.get "target_external_user_ids")
    have candidates := Adds.foldl adds_candidate (arrayItems (delivery.get "role_scope_candidates"))
    have mapped := @adds_mapping floatText (delivery.get "provided_mapping")
    have steps : (collectRecipients floatText · refs) = fun parts => insertMapping floatText
        ((arrayItems (delivery.get "role_scope_candidates")).foldl insertCandidate
          (staticPageStableKeyInsertValue parts "recipient_user" (delivery.get "target_external_user_ids")))
        (delivery.get "provided_mapping") := by
      funext parts
      rw [collectRecipients, delivered]
    rw [steps]
    refine ((users.comp candidates).comp mapped).congr fun kind id => ?_
    simp [RecipientPart, deliveryValue, delivered, or_assoc]

/-- The parts are those of the kinds and ids. -/
def Holds (parts : ScopeParts) (part : PartKind → String → Prop) : Prop :=
  ∀ text, text ∈ SortedSet.toList parts ↔ ∃ kind id, part kind id ∧ text = scopePartText kind id

variable {parts : ScopeParts} {part other : PartKind → String → Prop}
  {insertion : ScopeParts → ScopeParts}

theorem Holds.congr (holds : Holds parts part) (same : ∀ kind id, part kind id ↔ other kind id) : Holds parts other := by
  intro text
  simp only [holds text, same]

theorem Holds.step (holds : Holds parts part) (adds : Adds insertion other) :
    Holds (insertion parts) fun kind id => part kind id ∨ other kind id := by
  intro text
  simp only [adds parts text, holds text, or_and_right, exists_or]

theorem Holds.guard (holds : Holds parts part) (adds : Adds insertion other) {flag : Bool} {guarded : Prop}
    (known : flag = true ↔ guarded) : Holds (if flag then parts else insertion parts) fun kind id =>
      part kind id ∨ ¬ guarded ∧ other kind id := by
  cases flag with
  | true =>
    intro text
    simp [holds text, known.mp rfl]
  | false =>
    have unguarded : ¬ guarded := fun now => Bool.false_ne_true (known.mpr now)
    intro text
    simp [holds.step adds text, unguarded]

theorem Holds.hasPart_iff (holds : Holds parts part) (kinds : List PartKind) :
    hasPart parts (kinds.map partStart) = true ↔ ∃ kind ∈ kinds, ∃ id, part kind id := by
  simp only [hasPart, List.any_map, List.any_eq_true, Function.comp_apply]
  constructor
  · rintro ⟨text, inside, kind, listed, starts⟩
    obtain ⟨found, id, holding, rfl⟩ := (holds text).mp inside
    rw [startsWith_scopePartText] at starts
    exact ⟨kind, listed, id, starts ▸ holding⟩
  · rintro ⟨kind, listed, id, holding⟩
    exact ⟨scopePartText kind id, (holds _).mpr ⟨kind, id, holding, rfl⟩, kind, listed, (startsWith_scopePartText kind kind id).mpr rfl⟩

def externalDatasetKinds : List PartKind := externalDatasetKeys.map (·.2)

theorem ExternalDatasetPart.kind_mem {kind : PartKind} {id : String} (collected : ExternalDatasetPart scope kind id) :
    kind ∈ externalDatasetKinds := by
  rcases collected with ⟨pair, listed, rfl, -⟩ | ⟨pair, listed, rfl, -⟩
  · exact List.mem_map_of_mem listed
  · exact List.mem_map_of_mem (List.mem_append_left _ listed)

def datasetKinds : List PartKind := externalDatasetKinds ++ [.canonicalDatasetId, .datasetId]

theorem DatasetPart.kind_mem {kind : PartKind} {id : String} (collected : DatasetPart parseUuid scope kind id) :
    kind ∈ datasetKinds := by
  rcases collected with external | ⟨-, _, -, rfl, -⟩ | ⟨-, _, -, _, -, rfl, -⟩
  · exact List.mem_append_left _ external.kind_mem
  · decide
  · decide

theorem starts_eq : externalDatasetStarts = externalDatasetKinds.map partStart ∧
    datasetStarts = datasetKinds.map partStart ∧ ["canonical_dataset_id:"] = [PartKind.canonicalDatasetId].map partStart := by
  decide

section Stages

variable {chosen : ScopeParts}

/-- The parts that are there when canonical datasets are looked for. -/
def EarlyPart (scope : Value) (connection : Option String) (kind : PartKind) (id : String) : Prop :=
  ChannelPart connection kind id ∨ ExternalDatasetPart scope kind id

theorem hasPart_external (holds : Holds chosen (EarlyPart scope connection)) :
    hasPart chosen externalDatasetStarts = true ↔ ∃ kind id, ExternalDatasetPart scope kind id := by
  rw [starts_eq.1, holds.hasPart_iff]
  constructor
  · rintro ⟨kind, listed, id, ⟨rfl, -⟩ | collected⟩
    · exact absurd listed (by decide)
    · exact ⟨kind, id, collected⟩
  · rintro ⟨kind, id, collected⟩
    exact ⟨kind, collected.kind_mem, id, .inr collected⟩

theorem hasPart_canonical (holds : Holds chosen fun kind id =>
    EarlyPart scope connection kind id ∨ CanonicalDatasetPart scope kind id) :
    hasPart chosen ["canonical_dataset_id:"] = true ↔ ∃ kind id, CanonicalDatasetPart scope kind id := by
  rw [starts_eq.2.2, holds.hasPart_iff]
  constructor
  · rintro ⟨kind, listed, id, (⟨rfl, -⟩ | collected) | collected⟩
    · exact absurd listed (by decide)
    · rw [List.mem_singleton.mp listed] at collected
      exact absurd collected.kind_mem (by decide)
    · exact ⟨kind, id, collected⟩
  · rintro ⟨kind, id, collected⟩
    have named := collected
    obtain ⟨-, _, -, rfl, -⟩ := named
    exact ⟨_, List.mem_singleton_self _, id, .inr collected⟩

theorem hasPart_dataset (holds : Holds chosen fun kind id =>
    ChannelPart connection kind id ∨ DatasetPart parseUuid scope kind id) :
    hasPart chosen datasetStarts = true ↔ ∃ kind id, DatasetPart parseUuid scope kind id := by
  rw [starts_eq.2.1, holds.hasPart_iff]
  constructor
  · rintro ⟨kind, listed, id, ⟨rfl, -⟩ | collected⟩
    · exact absurd listed (by decide)
    · exact ⟨kind, id, collected⟩
  · rintro ⟨kind, id, collected⟩
    exact ⟨kind, collected.kind_mem, id, .inr collected⟩

end Stages

/-- The parts of the collection are those of the scope. -/
theorem holds_collect : Holds (staticPageStableKeyCollectScopeParts floatText parseUuid scope refs connection)
    (ScopePart floatText parseUuid scope refs connection) := by
  have token : connection.bind staticPageStableKeyToken = (connection.bind normalizedId).map escapeId := by
    cases connection with
    | none => rfl
    | some text => rw [Option.bind_some, Option.bind_some, staticPageStableKeyToken_eq]
  have channel : Holds (insertPart .empty "channel" (connection.bind staticPageStableKeyToken)) (ChannelPart connection) := by
    intro text
    rw [token]
    refine (adds_insertPart .channel _ _ _).trans ?_
    simp [SortedSet.mem_toList, ChannelPart]
  have external : Holds _ (EarlyPart scope connection) := channel.step (@adds_externalDatasets scope)
  have canonical := external.guard (@adds_canonicalDatasets scope) (hasPart_external external)
  have either := or_congr (hasPart_external external) (hasPart_canonical canonical)
  rw [← Bool.or_eq_true, ← exists_or] at either
  simp only [← exists_or] at either
  have selected := canonical.guard (@adds_selectedDatasets parseUuid scope) either
  have datasets : Holds _ fun kind id => ChannelPart connection kind id ∨ DatasetPart parseUuid scope kind id :=
    selected.congr fun kind id => or_assoc.trans or_assoc
  have documents := datasets.guard (@adds_documents scope) (hasPart_dataset datasets)
  have whole := (documents.step (@adds_databaseSources scope refs)).step (@adds_recipients floatText refs)
  refine whole.congr fun kind id => ?_
  rw [ScopePart, or_assoc, or_assoc, or_assoc]
  rfl

theorem key_text {template key : String}
    (found : staticPageDatasetArtifactKey floatText parseUuid scope refs template connection = some key) :
    key.toList = "v3-static-page".toList ++ '|' :: (template.toList ++
      (SortedSet.toList (staticPageStableKeyCollectScopeParts floatText parseUuid scope refs connection)).flatMap
        fun part => '|' :: part.toList) := by
  have bar : "|".toList = ['|'] := rfl
  rw [staticPageDatasetArtifactKey] at found
  split at found
  · rw [← Option.some.inj found, String.toList_intercalate, bar, List.map_cons, intercalate_announced, List.map_cons,
      List.flatMap_cons, List.flatMap_map, List.cons_append]
  · cases found

theorem parts_of_holds (holds : Holds parts part) :
    ∃ pairs : List (PartKind × String), SortedSet.toList parts = pairs.map fun pair => scopePartText pair.1 pair.2 := by
  have each : SortedSet.toList parts ∈ Set.range (List.map fun pair : PartKind × String => scopePartText pair.1 pair.2) := by
    rw [Set.range_list_map]
    intro text inside
    obtain ⟨kind, id, -, rfl⟩ := (holds text).mp inside
    exact ⟨(kind, id), rfl⟩
  obtain ⟨pairs, same⟩ := each
  exact ⟨pairs, same.symm⟩

/-- Keys tell scopes apart by their parts alone. -/
theorem key_eq_iff {otherScope otherRefs : Value} {otherConnection : Option String} {template key otherKey : String}
    (found : staticPageDatasetArtifactKey floatText parseUuid scope refs template connection = some key)
    (otherFound : staticPageDatasetArtifactKey floatText parseUuid otherScope otherRefs template otherConnection =
      some otherKey) :
    key = otherKey ↔ ∀ kind id, ScopePart floatText parseUuid scope refs connection kind id ↔
      ScopePart floatText parseUuid otherScope otherRefs otherConnection kind id := by
  have holds := @holds_collect floatText parseUuid scope refs connection
  have otherHolds := @holds_collect floatText parseUuid otherScope otherRefs otherConnection
  have text := key_text found
  have otherText := key_text otherFound
  constructor
  · rintro rfl kind id
    obtain ⟨pairs, listed⟩ := parts_of_holds holds
    obtain ⟨others, otherListed⟩ := parts_of_holds otherHolds
    rw [text] at otherText
    have tails := List.append_cancel_left (List.cons.inj (List.append_cancel_left otherText)).2
    rw [listed, otherListed, List.flatMap_map, List.flatMap_map] at tails
    have same : SortedSet.toList (staticPageStableKeyCollectScopeParts floatText parseUuid scope refs connection) =
        SortedSet.toList (staticPageStableKeyCollectScopeParts floatText parseUuid otherScope otherRefs otherConnection) := by
      rw [listed, otherListed, parts_injective tails]
    have member := (holds (scopePartText kind id)).symm.trans (same ▸ otherHolds (scopePartText kind id))
    have own (part : PartKind → String → Prop) : (∃ named value, part named value ∧ scopePartText kind id = scopePartText named value) ↔
        part kind id := by
      constructor
      · rintro ⟨named, value, holding, equal⟩
        obtain ⟨rfl, rfl⟩ := scopePartText_injective equal
        exact holding
      · exact fun holding => ⟨kind, id, holding, rfl⟩
    rwa [own, own] at member
  · intro same
    have listed := SortedSet.toList_congr fun part => (holds part).trans <|
      (exists_congr fun kind => exists_congr fun id => and_congr_left fun _ => same kind id).trans (otherHolds part).symm
    apply String.toList_injective
    rw [text, otherText, listed]

end Collection

section Rearrangement

variable {floatText : UInt64 → String} {parseUuid : String → Option UuidBytes} {scope otherScope refs otherRefs : Value}
  {connection otherConnection : Option String} {first second : Option Value}

/-- The values are the same, or lists of the same items, in any order and as often as they like. -/
def SameItems (first second : Option Value) : Prop :=
  first = second ∨ ∃ items others, first = some (.array items) ∧ second = some (.array others) ∧
    ∀ item, item ∈ items ↔ item ∈ others

/-- The lists of a scope may be rearranged. -/
structure ScopeRearranged (scope otherScope : Value) : Prop where
  outer : ∀ key ≠ "dataset_document_scope", SameItems (scope.get key) (otherScope.get key)
  inner : ∀ key, SameItems ((scope.get "dataset_document_scope").bind (·.get key))
    ((otherScope.get "dataset_document_scope").bind (·.get key))

/-- The lists of the source references may be rearranged, but not inside a mapping. -/
structure RefsRearranged (refs otherRefs : Value) : Prop where
  outer : ∀ key ≠ "recipient_delivery", SameItems (refs.get key) (otherRefs.get key)
  inner : ∀ key, SameItems (deliveryValue refs key) (deliveryValue otherRefs key)
  mapping : deliveryValue refs "provided_mapping" = deliveryValue otherRefs "provided_mapping"

theorem SameItems.listed (same : SameItems first second) (id : String) : Listed first id ↔ Listed second id := by
  rcases same with rfl | ⟨items, others, rfl, rfl, same⟩
  · rfl
  · simp only [Listed, itemsOf, same]

theorem SameItems.arrayItems (same : SameItems first second) (item : Value) :
    item ∈ arrayItems first ↔ item ∈ arrayItems second := by
  rcases same with rfl | ⟨items, others, rfl, rfl, same⟩
  · rfl
  · exact same item

theorem SameItems.or {third fourth : Option Value} (same : SameItems first second) (fallback : SameItems third fourth) :
    SameItems (first.or third) (second.or fourth) := by
  rcases same with rfl | ⟨items, others, rfl, rfl, same⟩
  · cases first with
    | none => exact fallback
    | some value => exact .inl rfl
  · exact .inr ⟨items, others, rfl, rfl, same⟩

theorem externalDatasetPart_rearranged (moved : ScopeRearranged scope otherScope) (kind : PartKind) (id : String) :
    ExternalDatasetPart scope kind id ↔ ExternalDatasetPart otherScope kind id := by
  refine or_congr (exists_congr fun pair => and_congr_right fun listed => and_congr_right fun _ => ?_)
    (exists_congr fun pair => and_congr_right fun _ => and_congr_right fun _ => (moved.inner pair.1).listed id)
  refine (moved.outer pair.1 ?_).listed id
  have outside : ∀ pair ∈ externalDatasetKeys, pair.1 ≠ "dataset_document_scope" := by decide
  exact outside pair listed

theorem scopePart_rearranged (moved : ScopeRearranged scope otherScope) (refsMoved : RefsRearranged refs otherRefs)
    (kind : PartKind) (id : String) : ScopePart floatText parseUuid scope refs connection kind id ↔
      ScopePart floatText parseUuid otherScope otherRefs connection kind id := by
  have external := externalDatasetPart_rearranged moved
  have canonical (kind : PartKind) (id : String) : CanonicalDatasetPart scope kind id ↔ CanonicalDatasetPart otherScope kind id := by
    simp only [CanonicalDatasetPart, external, (moved.outer "canonical_datasets" (by decide)).arrayItems]
  have selected (kind : PartKind) (id : String) :
      SelectedDatasetPart parseUuid scope kind id ↔ SelectedDatasetPart parseUuid otherScope kind id := by
    simp only [SelectedDatasetPart, external, canonical, List.mem_cons, List.not_mem_nil, or_false, exists_eq_or_imp,
      exists_eq_left, (moved.outer "datasets" (by decide)).arrayItems, (moved.outer "selected" (by decide)).arrayItems]
  have dataset (kind : PartKind) (id : String) : DatasetPart parseUuid scope kind id ↔ DatasetPart parseUuid otherScope kind id := by
    simp only [DatasetPart, external, canonical, selected]
  have document : DocumentPart parseUuid scope kind id ↔ DocumentPart parseUuid otherScope kind id := by
    simp only [DocumentPart, dataset, (moved.outer "documents" (by decide)).arrayItems,
      (moved.outer "available_document_external_ids" (by decide)).listed]
  have database : DatabaseSourcePart scope refs kind id ↔ DatabaseSourcePart otherScope otherRefs kind id := by
    have outside : ∀ pair ∈ databaseSourceKeys, pair.1 ≠ "recipient_delivery" ∧ pair.1 ≠ "dataset_document_scope" := by
      decide
    refine exists_congr fun pair => and_congr_right fun listed => and_congr_right fun _ => ?_
    obtain ⟨notDelivery, notScope⟩ := outside pair listed
    exact ((refsMoved.outer pair.1 notDelivery).or (moved.outer pair.1 notScope)).listed id
  have recipient : RecipientPart floatText refs kind id ↔ RecipientPart floatText otherRefs kind id := by
    simp only [RecipientPart, (refsMoved.inner "target_external_user_ids").listed, refsMoved.mapping,
      (refsMoved.inner "role_scope_candidates").arrayItems]
  rw [ScopePart, dataset, document, database, recipient, ScopePart]

def recipientKinds : List PartKind := [.recipientUser, .recipientRole, .recipientScope, .recipientMapping]

theorem RecipientPart.kind_mem {kind : PartKind} {id : String} (collected : RecipientPart floatText refs kind id) :
    kind ∈ recipientKinds := by
  rcases collected with ⟨rfl, -⟩ | ⟨_, -, ⟨rfl, -⟩ | ⟨rfl, -⟩⟩ | ⟨_, -, -, rfl, -⟩ <;> decide

theorem scopePart_recipient {kind : PartKind} (recipient : kind ∈ recipientKinds) (id : String) :
    ScopePart floatText parseUuid scope refs connection kind id ↔ RecipientPart floatText refs kind id := by
  constructor
  · rintro (⟨rfl, -⟩ | dataset | ⟨-, ⟨rfl, -⟩ | ⟨_, -, ⟨rfl, -⟩ | ⟨rfl, -⟩⟩⟩ | ⟨pair, listed, rfl, -⟩ | collected)
    · exact absurd recipient (by decide)
    · have apart : ∀ kind ∈ datasetKinds, kind ∉ recipientKinds := by decide
      exact absurd recipient (apart kind dataset.kind_mem)
    · exact absurd recipient (by decide)
    · exact absurd recipient (by decide)
    · exact absurd recipient (by decide)
    · have apart : ∀ pair ∈ databaseSourceKeys, pair.2 ∉ recipientKinds := by decide
      exact absurd recipient (apart pair listed)
    · exact collected
  · exact fun collected => .inr (.inr (.inr (.inr collected)))

/-- Two keys for a template are the same exactly when the scopes have the same parts. So a rearranged list does not
change the key, and a recipient that comes, goes or changes does. -/
theorem artifact_keys_separate_scopes {template key otherKey : String}
    (found : staticPageDatasetArtifactKey floatText parseUuid scope refs template connection = some key)
    (otherFound : staticPageDatasetArtifactKey floatText parseUuid otherScope otherRefs template otherConnection =
      some otherKey) :
    (key = otherKey ↔ ∀ kind id, ScopePart floatText parseUuid scope refs connection kind id ↔
      ScopePart floatText parseUuid otherScope otherRefs otherConnection kind id) ∧
    (connection = otherConnection → ScopeRearranged scope otherScope → RefsRearranged refs otherRefs → key = otherKey) ∧
    ((∃ kind id, ¬ (RecipientPart floatText refs kind id ↔ RecipientPart floatText otherRefs kind id)) → key ≠ otherKey) := by
  have same := key_eq_iff found otherFound
  refine ⟨same, ?_, ?_⟩
  · rintro rfl moved refsMoved
    exact same.mpr (scopePart_rearranged moved refsMoved)
  · rintro ⟨kind, id, different⟩ equal
    by_cases recipient : kind ∈ recipientKinds
    · have parts := same.mp equal kind id
      rw [scopePart_recipient recipient, scopePart_recipient recipient] at parts
      exact different parts
    · have neither (refs : Value) : ¬ RecipientPart floatText refs kind id := fun collected => recipient collected.kind_mem
      exact different (iff_of_false (neither refs) (neither otherRefs))

theorem artifact_keys_of_recipients :
    let scope := json [("dataset_external_ids", .string "a|b:c")]
    let refs := json [("recipient_delivery", json [("target_external_user_ids", .array [.string "u", .string " u "])])]
    let key := "v3-static-page|t|dataset_external_id:a\\|b\\:c|recipient_user:u"
    let otherKey := "v3-static-page|t|dataset_external_id:a\\|b\\:c"
    key = otherKey ↔ ∀ kind id, ScopePart (fun _ => "0") (fun _ => none) scope refs none kind id ↔
      ScopePart (fun _ => "0") (fun _ => none) scope .null none kind id := by
  intro scope refs key otherKey
  have found : staticPageDatasetArtifactKey (fun _ => "0") (fun _ => none) scope refs "t" none = some key := by
    decide +kernel
  have otherFound : staticPageDatasetArtifactKey (fun _ => "0") (fun _ => none) scope .null "t" none = some otherKey := by
    decide +kernel
  exact (artifact_keys_separate_scopes found otherFound).1

end Rearrangement

end DataMax.StaticPage
