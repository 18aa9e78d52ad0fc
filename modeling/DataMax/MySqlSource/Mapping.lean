import DataMax.Domain.Text
import DataMax.Library.Outcome

/-! The configuration of a MySQL source: its tables with the columns that are read from them, and
what is checked of it. -/

namespace DataMax.MySqlSource

open Domain Library

def maxTimeoutMs : UInt64 := 120000

def maxRowLimit : UInt32 := 50000

def maxPageSize : UInt32 := 5000

inductive DatabaseSourceError where
  | missingRequiredField (field : String)
  | invalidField (field reason : String)
  | invalidIdentifier (field identifier : String)
  deriving DecidableEq

structure MySqlTableMapping where
  table : String
  objectType : String
  idColumn : String
  idColumns : List String
  titleColumn : Option String
  contentColumns : List String
  contentType : String
  updatedAtColumn : Option String
  versionColumn : Option String
  metadataColumns : List String

structure MySqlSourceConfig where
  connectionEnv : String
  database : String
  timeoutMs : UInt64
  rowLimit : UInt32
  pageSize : UInt32
  defaultDatasetId : Option String
  tables : List MySqlTableMapping

/-- Sixty-four ASCII letters, digits and underscores at most, with white space around them. -/
def isValidMysqlIdentifier (identifier : String) : Bool :=
  let value := trim identifier
  value ≠ "" && value.utf8ByteSize ≤ 64 && value.toList.all fun char => char.isAlphanum || char == '_'

def validateNonEmpty (field value : String) : Except DatabaseSourceError Unit :=
  ensure (trim value ≠ "") (.missingRequiredField field)

def validateIdentifier (field identifier : String) : Except DatabaseSourceError Unit :=
  ensure (isValidMysqlIdentifier identifier) (.invalidIdentifier field identifier)

def quoteMysqlIdentifier (identifier : String) : Except DatabaseSourceError String := do
  validateIdentifier "identifier" identifier
  .ok ("`" ++ trim identifier ++ "`")

/-- An ASCII capital or an underscore, and then digits too. -/
def isValidEnvName (value : String) : Bool := match value.toList with
  | [] => false
  | first :: rest => (first == '_' || first.isUpper) && rest.all fun ch => ch == '_' || ch.isUpper || ch.isDigit

namespace MySqlTableMapping

def validate (mapping : MySqlTableMapping) : Except DatabaseSourceError Unit := do
  validateNonEmpty "table" mapping.table
  validateIdentifier "table" mapping.table
  validateNonEmpty "id_column" mapping.idColumn
  validateIdentifier "id_column" mapping.idColumn
  forM mapping.idColumns (validateIdentifier "id_columns")
  forM mapping.titleColumn.toList (validateIdentifier "title_column")
  ensure (mapping.contentColumns ≠ []) (.invalidField "content_columns" "at least one content column is required")
  forM mapping.contentColumns (validateIdentifier "content_columns")
  forM mapping.updatedAtColumn.toList (validateIdentifier "updated_at_column")
  forM mapping.versionColumn.toList (validateIdentifier "version_column")
  forM mapping.metadataColumns (validateIdentifier "metadata_columns")
  validateNonEmpty "object_type" mapping.objectType
  validateNonEmpty "content_type" mapping.contentType

end MySqlTableMapping

def mappingIdentityColumns (mapping : MySqlTableMapping) : List String :=
  if mapping.idColumns = [] then [mapping.idColumn] else mapping.idColumns

def pushUniqueColumn (columns : List String) (column : String) : List String :=
  if column ∈ columns then columns else columns ++ [column]

def previewColumns (mapping : MySqlTableMapping) : List String :=
  (mappingIdentityColumns mapping ++ mapping.titleColumn.toList ++ mapping.contentColumns ++
    mapping.updatedAtColumn.toList ++ mapping.versionColumn.toList ++ mapping.metadataColumns).foldl
    pushUniqueColumn []

section Validation

-- `isUuid` is `Uuid::parse_str(..).is_ok()`.
variable (isUuid : String → Bool)

/-- At least one. -/
def validateRange (field : String) (value most : Nat) : Except DatabaseSourceError Unit :=
  ensure (0 < value && value ≤ most) (.invalidField field ("must be between 1 and " ++ toString most))

def MySqlSourceConfig.validate (config : MySqlSourceConfig) : Except DatabaseSourceError Unit := do
  validateNonEmpty "connection_env" config.connectionEnv
  ensure (isValidEnvName config.connectionEnv) (.invalidField "connection_env" "must be an environment variable name")
  validateNonEmpty "database" config.database
  validateIdentifier "database" config.database
  validateRange "timeout_ms" config.timeoutMs.toNat maxTimeoutMs.toNat
  validateRange "row_limit" config.rowLimit.toNat maxRowLimit.toNat
  validateRange "page_size" config.pageSize.toNat maxPageSize.toNat
  forM config.defaultDatasetId.toList fun datasetId => do
    validateNonEmpty "default_dataset_id" datasetId
    ensure (isUuid datasetId) (.invalidField "default_dataset_id" "must be a UUID dataset id")
  forM config.tables MySqlTableMapping.validate

end Validation

section Validity

variable {mapping : MySqlTableMapping} {identifier field : String}

/-- A column or table name that the checks let through. -/
def IsIdentifier (identifier : String) : Prop := isValidMysqlIdentifier identifier = true

theorem validateIdentifier_ok : validateIdentifier field identifier = .ok () ↔ IsIdentifier identifier :=
  ensure_eq_ok

/-- What is known of the names of a mapping. -/
structure MySqlTableMapping.Valid (mapping : MySqlTableMapping) : Prop where
  table : IsIdentifier mapping.table
  idColumn : IsIdentifier mapping.idColumn
  idColumns : ∀ column ∈ mapping.idColumns, IsIdentifier column
  titleColumn : ∀ column ∈ mapping.titleColumn, IsIdentifier column
  contentColumns : ∀ column ∈ mapping.contentColumns, IsIdentifier column
  updatedAtColumn : ∀ column ∈ mapping.updatedAtColumn, IsIdentifier column
  versionColumn : ∀ column ∈ mapping.versionColumn, IsIdentifier column
  metadataColumns : ∀ column ∈ mapping.metadataColumns, IsIdentifier column

theorem MySqlTableMapping.valid_of_validate (accepted : mapping.validate = .ok ()) : mapping.Valid := by
  simp only [MySqlTableMapping.validate, unit_bind_eq_ok, forM_eq_ok, validateIdentifier_ok, Option.mem_toList] at accepted
  obtain ⟨-, table, -, idColumn, idColumns, titleColumn, -, contentColumns, updatedAtColumn, versionColumn,
    metadataColumns, -⟩ := accepted
  exact { table, idColumn, idColumns, titleColumn, contentColumns, updatedAtColumn, versionColumn, metadataColumns }

/-- What is known of the limits of a configuration. -/
structure MySqlSourceConfig.Valid (config : MySqlSourceConfig) : Prop where
  rowLimit : 0 < config.rowLimit.toNat ∧ config.rowLimit.toNat ≤ maxRowLimit.toNat
  pageSize : 0 < config.pageSize.toNat ∧ config.pageSize.toNat ≤ maxPageSize.toNat
  tables : ∀ mapping ∈ config.tables, mapping.Valid

theorem MySqlSourceConfig.valid_of_validate {isUuid : String → Bool} {config : MySqlSourceConfig}
    (accepted : config.validate isUuid = .ok ()) : config.Valid := by
  simp only [MySqlSourceConfig.validate, unit_bind_eq_ok, forM_eq_ok, validateRange, ensure_eq_ok,
    Bool.and_eq_true, decide_eq_true_eq] at accepted
  obtain ⟨-, -, -, -, -, rowLimit, pageSize, -, tables⟩ := accepted
  exact { rowLimit, pageSize, tables := fun mapping listed => mapping.valid_of_validate (tables mapping listed) }

end Validity

end DataMax.MySqlSource
