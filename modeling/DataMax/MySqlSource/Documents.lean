import DataMax.Domain.Hex
import DataMax.Json.Access
import DataMax.Library.Separated
import DataMax.MySqlSource.Mapping

/-! The documents that the rows of MySQL tables become, and which rows have one document id. -/

namespace DataMax.MySqlSource

open Domain Json Library

abbrev RowValues := SortedMap String String

def trimmedValue (values : RowValues) (column : String) : String := ((values.get? column).map trim).getD ""

/-- The value of a column that the mapping names, if there is one. -/
def filledValue (values : RowValues) (column : Option String) : Option String :=
  ((column.bind values.get?).map trim).filter (· ≠ "")

def mysqlRowPrimaryKey (mapping : MySqlTableMapping) (identityColumns : List String) (values : RowValues) :
    Except DatabaseSourceError String := do
  let parts := identityColumns.map fun column => column ++ "=" ++ trimmedValue values column
  ensure (identityColumns.any fun column => trimmedValue values column ≠ "") (.invalidField "id_columns"
    ("mapped table " ++ mapping.table ++ " has a row with empty identity columns " ++ ",".intercalate identityColumns))
  match identityColumns with
  | [column] => .ok (trimmedValue values column)
  | _ => .ok ("|".intercalate parts)

section Documents

-- SHA-256 of the bytes.
variable (sha256 : List UInt8 → List UInt8)

def mysqlDocumentExternalId (table primaryKey : String) (hashed : Bool) : String :=
  if !hashed then "mysql:" ++ table ++ ":" ++ primaryKey
  else "mysql:" ++ table ++ ":sha256:" ++ hex (sha256 (utf8 table ++ 0 :: utf8 primaryKey))

def buildMysqlDocumentBody (mapping : MySqlTableMapping) (values : RowValues) (title primaryKey : String) : String :=
  let sections := mapping.contentColumns.filterMap fun column =>
    (filledValue values (some column)).map fun value => "## " ++ column ++ "\n\n" ++ value
  "\n\n".intercalate (if sections = [] then
    ["source_table: " ++ mapping.table ++ "\nsource_primary_key: " ++ primaryKey ++ "\ntitle: " ++ title] else sections)

def buildMysqlRevisionExternalId (mapping : MySqlTableMapping) (values : RowValues) (body : String) : String :=
  match filledValue values mapping.versionColumn, filledValue values mapping.updatedAtColumn with
  | some value, _ => "version:" ++ value
  | none, some value => "updated_at:" ++ value
  | none, none => "content_sha256:" ++ hex (sha256 (utf8 mapping.table ++ 0 :: utf8 body))

def documentMetadata (mapping : MySqlTableMapping) (values : RowValues) (primaryKey : String) : Map :=
  Map.insertAll .empty ([("source_kind", .string "mysql"), ("source_table", .string mapping.table),
    ("source_primary_key", .string primaryKey)] ++
    (filledValue values mapping.updatedAtColumn).toList.map (fun value => ("source_updated_at", .string value)) ++
    (filledValue values mapping.versionColumn).toList.map (fun value => ("source_version", .string value)) ++
    [("source_primary_key_columns", .array ((mappingIdentityColumns mapping).map .string)),
      ("object_type", .string mapping.objectType)] ++
    mapping.metadataColumns.filterMap fun column => (values.get? column).map fun value => (column, .string value))

def mysqlValuesToExternalDocument (mapping : MySqlTableMapping) (values : RowValues) (includeBody : Bool) :
    Except DatabaseSourceError Value := do
  let identityColumns := mappingIdentityColumns mapping
  let primaryKey ← mysqlRowPrimaryKey mapping identityColumns values
  let title := (filledValue values mapping.titleColumn).getD (mapping.table ++ " #" ++ primaryKey)
  let body := buildMysqlDocumentBody mapping values title primaryKey
  let revisionExternalId := buildMysqlRevisionExternalId sha256 mapping values body
  .ok (.ofMap (Map.insertAll .empty ([
    ("document_external_id", .string (mysqlDocumentExternalId sha256 mapping.table primaryKey (1 < identityColumns.length))),
    ("revision_external_id", .string revisionExternalId), ("title", .string title),
    ("content_type", .string mapping.contentType), ("metadata", .ofMap (documentMetadata mapping values primaryKey))] ++
    if includeBody then [("body", .string body)] else [])))

end Documents

section Identity

variable (mapping : MySqlTableMapping) (values : RowValues)

/-- The row has a value in one of the identity columns. -/
def IsIdentified : Prop := ∃ column ∈ mappingIdentityColumns mapping, trimmedValue values column ≠ ""

/-- The columns with their values, as they are joined. -/
def keyParts : List (List Char) := (mappingIdentityColumns mapping).map fun column =>
  column.toList ++ '=' :: (trimmedValue values column).toList

/-- The parts cut at every mark that joins them. -/
def keyPieces : List (List Char) := (keyParts mapping values).flatMap (·.splitOn '|')

def keyCounts : List Nat := (keyParts mapping values).map (List.count '|')

variable (other : MySqlTableMapping) (otherValues : RowValues)

/-- The rows have the same values in the identity columns. -/
def Agree : Prop := ∀ column ∈ mappingIdentityColumns mapping ++ mappingIdentityColumns other,
  trimmedValue values column = trimmedValue otherValues column

/-- A row of the same table with the same identity. -/
def SameRow : Prop := mapping.table = other.table ∧ Agree mapping values other otherValues

/-- What stands for the row in its document id: the one value, or the digest of the joined parts. -/
def primaryKeyText : String := match mappingIdentityColumns mapping with
  | [column] => trimmedValue values column
  | _ => .ofList (['|'].intercalate (keyParts mapping values))

variable (sha256 : List UInt8 → List UInt8)

/-- The digest of the joined parts. -/
def digestKey : String :=
  "sha256:" ++ hex (sha256 (utf8 mapping.table ++ 0 :: utf8 (.ofList (['|'].intercalate (keyParts mapping values)))))

/-- Behind the table, a digest in place of parts that are joined. -/
def shownKey : String := match mappingIdentityColumns mapping with
  | [column] => trimmedValue values column
  | _ => digestKey mapping values sha256

/-- One value equals the other, or the digest of the other's parts, or both have the same pieces. -/
def KeysCoincide : Prop := match mappingIdentityColumns mapping, mappingIdentityColumns other with
  | [column], [otherColumn] => trimmedValue values column = trimmedValue otherValues otherColumn
  | [column], _ => trimmedValue values column = digestKey other otherValues sha256
  | _, [otherColumn] => digestKey mapping values sha256 = trimmedValue otherValues otherColumn
  | _, _ => keyPieces mapping values = keyPieces other otherValues

/-- The mark that joins values is not mistaken for one of theirs; and where one table is mapped by other columns, the keys
coincide by what the rows have in them. -/
def KeysFaithful : Prop := mapping.table = other.table →
  if mappingIdentityColumns mapping = mappingIdentityColumns other then
    1 < (mappingIdentityColumns mapping).length → keyPieces mapping values = keyPieces other otherValues →
      keyCounts mapping values = keyCounts other otherValues
  else KeysCoincide mapping values other otherValues sha256 ↔ Agree mapping values other otherValues

end Identity

section Keys

variable {mapping : MySqlTableMapping} {values : RowValues} {sha256 : List UInt8 → List UInt8}

theorem mysqlRowPrimaryKey_ok (identified : IsIdentified mapping values) :
    mysqlRowPrimaryKey mapping (mappingIdentityColumns mapping) values = .ok (primaryKeyText mapping values) := by
  have filled : ((mappingIdentityColumns mapping).any fun column => trimmedValue values column ≠ "") = true := by
    obtain ⟨column, listed, value⟩ := identified
    exact List.any_eq_true.mpr ⟨column, listed, decide_eq_true value⟩
  have joined : "|".intercalate ((mappingIdentityColumns mapping).map fun column => column ++ "=" ++ trimmedValue values column) =
      .ofList (['|'].intercalate (keyParts mapping values)) := by
    refine String.toList_injective ?_
    rw [String.toList_intercalate, String.toList_ofList, keyParts, List.map_map]
    simp [Function.comp_def]
  rw [mysqlRowPrimaryKey.eq_def, filled]
  dsimp only
  rw [joined, primaryKeyText.eq_def]
  cases mappingIdentityColumns mapping with
  | nil => rfl
  | cons column rest => cases rest <;> rfl

theorem mysqlRowPrimaryKey_error (unidentified : ¬ IsIdentified mapping values) : ∃ error,
    mysqlRowPrimaryKey mapping (mappingIdentityColumns mapping) values = .error error := by
  have empty : ((mappingIdentityColumns mapping).any fun column => trimmedValue values column ≠ "") = false := by
    rw [← Bool.not_eq_true, List.any_eq_true]
    intro filled
    obtain ⟨column, listed, value⟩ := filled
    exact unidentified ⟨column, listed, of_decide_eq_true value⟩
  rw [mysqlRowPrimaryKey.eq_def, empty]
  exact ⟨_, rfl⟩

/-- A row with an identity becomes a document with its id. -/
theorem exists_document (includeBody : Bool) (identified : IsIdentified mapping values) : ∃ document,
    mysqlValuesToExternalDocument sha256 mapping values includeBody = .ok document ∧
      document.get "document_external_id" = some (.string (mysqlDocumentExternalId sha256 mapping.table
        (primaryKeyText mapping values) (1 < (mappingIdentityColumns mapping).length))) := by
  rw [mysqlValuesToExternalDocument, mysqlRowPrimaryKey_ok identified]
  refine ⟨_, rfl, ?_⟩
  rw [get_ofMap, Map.get?_insertAll]
  cases includeBody <;> simp [SortedMap.findEntry]

theorem identifier_bare {identifier : String} (known : IsIdentifier identifier) {mark : Char} (visible : isWhitespace mark = false)
    (other : (mark.isAlphanum || mark == '_') = false) : mark ∉ identifier.toList := by
  intro inside
  simp only [IsIdentifier, isValidMysqlIdentifier, Bool.and_eq_true, List.all_eq_true] at known
  obtain ⟨before, after, same, blank, alsoBlank⟩ := trim_split identifier
  rw [same] at inside
  rcases List.mem_append.mp inside with within | ending
  · rcases List.mem_append.mp within with start | within
    · exact Bool.false_ne_true (visible.symm.trans (blank mark start))
    · exact Bool.false_ne_true (other.symm.trans (known.2 mark within))
  · exact Bool.false_ne_true (visible.symm.trans (alsoBlank mark ending))

theorem mappingIdentityColumns_ne_nil (mapping : MySqlTableMapping) : mappingIdentityColumns mapping ≠ [] := by
  rw [mappingIdentityColumns]
  split
  · exact List.cons_ne_nil _ _
  · assumption

/-- An id is the table and what is shown of the row. -/
theorem mysqlDocumentExternalId_eq (mapping : MySqlTableMapping) (values : RowValues) :
    mysqlDocumentExternalId sha256 mapping.table (primaryKeyText mapping values) (1 < (mappingIdentityColumns mapping).length) =
      "mysql:" ++ mapping.table ++ ":" ++ shownKey mapping values sha256 := by
  rw [mysqlDocumentExternalId, primaryKeyText.eq_def, shownKey.eq_def]
  cases columns : mappingIdentityColumns mapping with
  | nil => exact absurd columns (mappingIdentityColumns_ne_nil mapping)
  | cons column rest => cases rest with
    | nil => simp
    | cons next rest =>
      have mark : ":sha256:" = ":" ++ "sha256:" := by decide
      simp only [String.append_assoc, digestKey, mark]
      simp

variable {other : MySqlTableMapping} {otherValues : RowValues} {key otherKey : String}

theorem ids_eq_iff (known : IsIdentifier mapping.table) (alsoKnown : IsIdentifier other.table) :
    "mysql:" ++ mapping.table ++ ":" ++ key = "mysql:" ++ other.table ++ ":" ++ otherKey ↔
      mapping.table = other.table ∧ key = otherKey := by
  constructor
  · intro same
    have chars := congrArg String.toList same
    simp only [String.toList_append, List.append_assoc, List.append_cancel_left_eq] at chars
    have free : PrefixFree fun part : { chars : List Char // ':' ∉ chars } => part.val ++ [':'] :=
      .terminated Subtype.val_injective Subtype.property
    obtain ⟨tables, keys⟩ := free ⟨_, identifier_bare known (by decide) (by decide)⟩
      ⟨_, identifier_bare alsoKnown (by decide) (by decide)⟩ key.toList otherKey.toList (by simpa using chars)
    exact ⟨String.toList_injective (congrArg Subtype.val tables), String.toList_injective keys⟩
  · rintro ⟨tables, rfl⟩
    rw [tables]

theorem digestKey_eq_iff (collisionFree : Function.Injective sha256) (tables : mapping.table = other.table) :
    digestKey mapping values sha256 = digestKey other otherValues sha256 ↔ keyPieces mapping values = keyPieces other otherValues := by
  have filled (mapping : MySqlTableMapping) (values : RowValues) : keyParts mapping values ≠ [] := by
    simpa [keyParts] using mappingIdentityColumns_ne_nil mapping
  rw [digestKey, digestKey, tables, keyPieces, keyPieces, ← joined_eq_iff '|' (filled _ _) (filled _ _)]
  constructor
  · intro same
    have texts := collisionFree (hex_injective (String.append_right_inj _ |>.mp same))
    rw [List.append_cancel_left_eq, List.cons.injEq] at texts
    exact String.ofList_injective (utf8_injective texts.2)
  · intro same
    rw [same]

theorem shownKey_eq_iff (collisionFree : Function.Injective sha256) (tables : mapping.table = other.table) :
    shownKey mapping values sha256 = shownKey other otherValues sha256 ↔ KeysCoincide mapping values other otherValues sha256 := by
  have digests := @digestKey_eq_iff mapping values sha256 other otherValues collisionFree tables
  rw [shownKey.eq_def, shownKey.eq_def, KeysCoincide.eq_def]
  split <;> split <;> simp_all

theorem agree_iff_parts (columns : mappingIdentityColumns mapping = mappingIdentityColumns other) :
    Agree mapping values other otherValues ↔ keyParts mapping values = keyParts other otherValues := by
  rw [Agree, keyParts, keyParts, ← columns, List.map_inj_left]
  simp [String.toList_inj]

theorem agree_iff_counts (columns : mappingIdentityColumns mapping = mappingIdentityColumns other) :
    Agree mapping values other otherValues ↔
      keyPieces mapping values = keyPieces other otherValues ∧ keyCounts mapping values = keyCounts other otherValues := by
  rw [agree_iff_parts columns, parts_eq_iff '|']
  rfl

/-- The keys coincide where the rows agree, unless a mark in a value is mistaken. -/
theorem keys_agree_iff (tables : mapping.table = other.table) :
    (KeysCoincide mapping values other otherValues sha256 ↔ Agree mapping values other otherValues) ↔
      KeysFaithful mapping values other otherValues sha256 := by
  by_cases columns : mappingIdentityColumns mapping = mappingIdentityColumns other
  · have faithful : KeysFaithful mapping values other otherValues sha256 ↔ (1 < (mappingIdentityColumns mapping).length →
        keyPieces mapping values = keyPieces other otherValues → keyCounts mapping values = keyCounts other otherValues) := by
      simp [KeysFaithful, tables, columns]
    have alike := @agree_iff_counts mapping values other otherValues columns
    rw [faithful]
    cases own : mappingIdentityColumns mapping with
    | nil => exact absurd own (mappingIdentityColumns_ne_nil mapping)
    | cons column rest => cases rest with
      | nil => simp [KeysCoincide, Agree, own, ← columns]
      | cons next rest =>
        have coincide : KeysCoincide mapping values other otherValues sha256 ↔ keyPieces mapping values = keyPieces other otherValues := by
          simp [KeysCoincide, own, ← columns]
        rw [coincide, alike]
        simp
  · simp [KeysFaithful, tables, columns]

/-- Documents have one id where their rows have one identity, exactly if the keys are faithful. -/
theorem document_ids_identify_rows_iff (sha256 : List UInt8 → List UInt8) (collisionFree : Function.Injective sha256)
    (isUuid : String → Bool) (config : MySqlSourceConfig) (accepted : config.validate isUuid = .ok ())
    (mapping other : MySqlTableMapping) (listed : mapping ∈ config.tables) (otherListed : other ∈ config.tables)
    (values otherValues : RowValues) (identified : IsIdentified mapping values) (otherIdentified : IsIdentified other otherValues)
    (includeBody otherBody : Bool) : ∃ document otherDocument,
      mysqlValuesToExternalDocument sha256 mapping values includeBody = .ok document ∧
      mysqlValuesToExternalDocument sha256 other otherValues otherBody = .ok otherDocument ∧
      ((document.get "document_external_id" = otherDocument.get "document_external_id" ↔
        SameRow mapping values other otherValues) ↔ KeysFaithful mapping values other otherValues sha256) := by
  have valid := MySqlSourceConfig.valid_of_validate accepted
  obtain ⟨document, built, id⟩ := @exists_document mapping values sha256 includeBody identified
  obtain ⟨otherDocument, otherBuilt, otherId⟩ := @exists_document other otherValues sha256 otherBody otherIdentified
  refine ⟨document, otherDocument, built, otherBuilt, ?_⟩
  rw [id, otherId, mysqlDocumentExternalId_eq, mysqlDocumentExternalId_eq, Option.some.injEq, Value.string.injEq,
    ids_eq_iff (valid.tables mapping listed).table (valid.tables other otherListed).table]
  by_cases tables : mapping.table = other.table
  · have shown := @shownKey_eq_iff mapping values sha256 other otherValues collisionFree tables
    simp only [SameRow, tables, true_and, shown]
    exact keys_agree_iff tables
  · exact iff_of_true (by simp [SameRow, tables]) fun same => absurd same tables

def lineMapping : MySqlTableMapping where
  table := "lines"
  objectType := "line"
  idColumn := "doc"
  idColumns := ["doc", "no"]
  titleColumn := none
  contentColumns := ["body"]
  contentType := "text/plain"
  updatedAtColumn := none
  versionColumn := some "rev"
  metadataColumns := []

def lineConfig : MySqlSourceConfig where
  connectionEnv := "SOURCE"
  database := "source"
  timeoutMs := 1
  rowLimit := 1
  pageSize := 1
  defaultDatasetId := none
  tables := [lineMapping]

theorem document_ids_lines : ∃ document otherDocument,
    mysqlValuesToExternalDocument id lineMapping (.ofList [("doc", "1"), ("no", "2"), ("rev", "1")]) false = .ok document ∧
    mysqlValuesToExternalDocument id lineMapping (.ofList [("doc", "1"), ("no", "3"), ("rev", "1")]) false = .ok otherDocument ∧
    ((document.get "document_external_id" = otherDocument.get "document_external_id" ↔
      SameRow lineMapping (.ofList [("doc", "1"), ("no", "2"), ("rev", "1")]) lineMapping
        (.ofList [("doc", "1"), ("no", "3"), ("rev", "1")])) ↔
      KeysFaithful lineMapping (.ofList [("doc", "1"), ("no", "2"), ("rev", "1")]) lineMapping
        (.ofList [("doc", "1"), ("no", "3"), ("rev", "1")]) id) :=
  document_ids_identify_rows_iff id Function.injective_id (fun _ => true) lineConfig (by decide +kernel) lineMapping lineMapping
    (by simp [lineConfig]) (by simp [lineConfig]) _ _ ⟨"doc", by decide, by decide +kernel⟩ ⟨"doc", by decide, by decide +kernel⟩
    false false

/-- A value that holds the mark and the name of the next column reads as two. -/
theorem document_ids_shared : lineConfig.validate (fun _ => true) = .ok () ∧
    ¬ SameRow lineMapping (.ofList [("doc", "1|no=2"), ("no", "3")]) lineMapping (.ofList [("doc", "1"), ("no", "2|no=3")]) ∧
    ∀ sha256, ∃ document otherDocument,
      mysqlValuesToExternalDocument sha256 lineMapping (.ofList [("doc", "1|no=2"), ("no", "3")]) false = .ok document ∧
      mysqlValuesToExternalDocument sha256 lineMapping (.ofList [("doc", "1"), ("no", "2|no=3")]) false = .ok otherDocument ∧
      document.get "document_external_id" = otherDocument.get "document_external_id" := by
  refine ⟨by decide +kernel, fun same => absurd (same.2 "doc" (by decide)) (by decide +kernel), fun sha256 => ?_⟩
  have identified (values : RowValues) (filled : trimmedValue values "doc" ≠ "") : IsIdentified lineMapping values :=
    ⟨"doc", by decide, filled⟩
  obtain ⟨document, built, key⟩ := @exists_document lineMapping (.ofList [("doc", "1|no=2"), ("no", "3")]) sha256 false
    (identified _ (by decide +kernel))
  obtain ⟨otherDocument, otherBuilt, otherKey⟩ := @exists_document lineMapping (.ofList [("doc", "1"), ("no", "2|no=3")]) sha256
    false (identified _ (by decide +kernel))
  have alike : primaryKeyText lineMapping (.ofList [("doc", "1|no=2"), ("no", "3")]) =
      primaryKeyText lineMapping (.ofList [("doc", "1"), ("no", "2|no=3")]) := by decide +kernel
  exact ⟨document, otherDocument, built, otherBuilt, by rw [key, otherKey, alike]⟩

end Keys

end DataMax.MySqlSource
