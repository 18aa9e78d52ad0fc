import DataMax.MySqlSource.Checkpoint
import DataMax.MySqlSource.PageStatements
import DataMax.SemanticLink.Privacy
import Mathlib.Algebra.Ring.Nat

/-! The rows of the tables, fetched page by page: what becomes of each one, and when the pages together are
what one read of the table gives. -/

namespace DataMax.MySqlSource

open Domain Json Library
open SemanticLink (isControl)

section Reports

structure MySqlRowFailureSample where
  table : String
  rowIndex : Nat
  reason : String
  sourcePrimaryKey : Option String

structure MySqlTableFetchStats where
  table : String
  documentCount : Nat
  rowCount : Nat
  skippedRowCount : Nat
  failedRowCount : Nat

structure MySqlDocumentFetchReport where
  documents : List Value
  rowCount : Nat
  skippedRowCount : Nat
  failedRowCount : Nat
  rowFailureSamples : List MySqlRowFailureSample
  tableCounts : List MySqlTableFetchStats
  nextCheckpoint : Value

def maxRowFailureSamples : Nat := 8

def DatabaseSourceError.text : DatabaseSourceError → String
  | .missingRequiredField field => field ++ " is required"
  | .invalidField field reason => field ++ " is invalid: " ++ reason
  | .invalidIdentifier field identifier => "invalid mysql identifier `" ++ identifier ++ "` in " ++ field

/-- An error of the server, by its text. -/
def sqlxError (message : String) : String := "mysql source query failed: " ++ message

/-- What the server has for a column of a row: a text, nothing, or why there is none to read. -/
abbrev MySqlRow := String → Except String (Option String)

def mysqlRowValues (columns : List String) (row : MySqlRow) : Except String RowValues :=
  columns.foldlM (fun values column => do
    let value ← (row column).mapError sqlxError
    .ok (values.insert column (value.getD ""))) .empty

def rowFailureReasonExcerpt (reason : String) : String :=
  .ofList ((trim (.ofList (reason.toList.filter fun ch => !isControl ch || isWhitespace ch))).toList.take 160)

def pushMysqlRowFailureSample (samples : List MySqlRowFailureSample) (mapping : MySqlTableMapping) (rowIndex : Nat)
    (reason : String) (sourcePrimaryKey : Option String) : List MySqlRowFailureSample :=
  if maxRowFailureSamples ≤ samples.length then samples
  else samples ++ [⟨mapping.table, rowIndex, rowFailureReasonExcerpt reason, sourcePrimaryKey⟩]

end Reports

section Pages

-- SHA-256 of the bytes.
variable (isUuid : String → Bool) (sha256 : List UInt8 → List UInt8)

/-- The report so far, with the counts of the table that is being read. -/
structure FetchState where
  report : MySqlDocumentFetchReport
  checkpointTables : SortedMap String Map
  stats : MySqlTableFetchStats

namespace FetchState

def countRow (state : FetchState) : FetchState := { state with
  report := { state.report with rowCount := state.report.rowCount + 1 }
  stats := { state.stats with rowCount := state.stats.rowCount + 1 } }

def failRow (mapping : MySqlTableMapping) (reason : String) (sourcePrimaryKey : Option String) (state : FetchState) :
    FetchState := { state with
  report := { state.report with
    failedRowCount := state.report.failedRowCount + 1
    rowFailureSamples := pushMysqlRowFailureSample state.report.rowFailureSamples mapping state.stats.rowCount reason
      sourcePrimaryKey }
  stats := { state.stats with failedRowCount := state.stats.failedRowCount + 1 } }

def addDocument (document : Value) (state : FetchState) : FetchState := { state with
  report := { state.report with documents := state.report.documents ++ [document] }
  stats := { state.stats with documentCount := state.stats.documentCount + 1 } }

def keepValues (mapping : MySqlTableMapping) (values : RowValues) (state : FetchState) : FetchState := { state with
  checkpointTables := updateMysqlCheckpointTablesFromValues mapping state.checkpointTables values }

/-- A row is counted, and becomes a document or a failure. -/
def readRow (mapping : MySqlTableMapping) (includeBody : Bool) (columns : List String) (state : FetchState) (row : MySqlRow) :
    FetchState :=
  match mysqlRowValues columns row with
  | .error reason => state.countRow.failRow mapping reason none
  | .ok values =>
    match mysqlValuesToExternalDocument sha256 mapping values includeBody with
    | .ok document => (state.countRow.keepValues mapping values).addDocument document
    | .error error => (state.countRow.keepValues mapping values).failRow mapping error.text
        (mysqlRowPrimaryKey mapping (mappingIdentityColumns mapping) values).toOption

def openTable (mapping : MySqlTableMapping) (state : FetchState) : FetchState :=
  { state with stats := ⟨mapping.table, 0, 0, 0, 0⟩ }

def closeTable (state : FetchState) : FetchState :=
  { state with report := { state.report with tableCounts := state.report.tableCounts ++ [state.stats] } }

def start : FetchState := ⟨⟨[], 0, 0, 0, [], [], .null⟩, .empty, ⟨"", 0, 0, 0, 0⟩⟩

def finish (state : FetchState) : MySqlDocumentFetchReport := { state.report with
  skippedRowCount := (state.report.tableCounts.map (·.skippedRowCount)).sum
  nextCheckpoint := if state.checkpointTables.entries = [] then .ofMap .empty
    else json [("tables", .ofMap (state.checkpointTables.mapItems .ofMap))] }

end FetchState

/-- The errors of a fetch: the configuration's and the server's. -/
inductive FetchError where
  | source (error : DatabaseSourceError)
  | query (message : String)

-- What the server answers to the text of a query and its parameters.
variable (query : String → List String → Except String (List MySqlRow))

/-- The pages from the offset on, until one is not full. -/
def fetchPages (config : MySqlSourceConfig) (mapping : MySqlTableMapping) (checkpoint : MySqlSourceCheckpoint)
    (includeBody : Bool) (totalLimit pageSize offset : Nat) (state : FetchState) : Except FetchError FetchState :=
  if offset < totalLimit then do
    let pageLimit := min pageSize (totalLimit - offset)
    let plan ← (buildMysqlDocumentFetchPageQuery isUuid config mapping checkpoint pageLimit offset).mapError .source
    let rows ← (query plan.sql plan.params).mapError .query
    if rows = [] then .ok state
    else
      let state := rows.foldl (FetchState.readRow sha256 mapping includeBody plan.columns) state
      if rows.length < pageLimit then .ok state
      else fetchPages config mapping checkpoint includeBody totalLimit pageSize (offset + rows.length) state
  else .ok state
termination_by totalLimit - offset
decreasing_by
  have filled : 0 < rows.length := List.length_pos_iff.mpr ‹_›
  omega

def fetchTable (config : MySqlSourceConfig) (checkpoint : MySqlSourceCheckpoint) (includeBody : Bool) (state : FetchState)
    (mapping : MySqlTableMapping) : Except FetchError FetchState := do
  let totalLimit := config.mostRows
  let pageSize := min (min config.pageSize.toNat totalLimit) maxPageSize.toNat
  let state ← fetchPages isUuid sha256 query config mapping checkpoint includeBody totalLimit pageSize 0
    (state.openTable mapping)
  .ok state.closeTable

def fetchMysqlDocumentsReportWithCheckpoint (config : MySqlSourceConfig) (includeBody : Bool)
    (checkpoint : MySqlSourceCheckpoint) : Except FetchError MySqlDocumentFetchReport := do
  (config.validate isUuid).mapError .source
  let state ← config.tables.foldlM (fetchTable isUuid sha256 query config checkpoint includeBody) .start
  .ok state.finish

end Pages

section Accounts

variable {isUuid : String → Bool} {sha256 : List UInt8 → List UInt8}
  {query : String → List String → Except String (List MySqlRow)} {config : MySqlSourceConfig} {mapping : MySqlTableMapping}
  {checkpoint : MySqlSourceCheckpoint} {includeBody : Bool} {columns tables : List String} {state later : FetchState}
  {report : MySqlDocumentFetchReport} {stats : MySqlTableFetchStats} {totalLimit pageSize offset : Nat}

/-- Each row of the table is a document or a failure. -/
structure MySqlTableFetchStats.IsAccounted (stats : MySqlTableFetchStats) : Prop where
  rows : stats.rowCount = stats.documentCount + stats.failedRowCount
  skipped : stats.skippedRowCount = 0

/-- The report is that of the tables read before and of the rows of the one that is being read, and has a sample of
each failure while there is room. -/
structure MySqlDocumentFetchReport.IsAccounted (tables : List String) (report : MySqlDocumentFetchReport)
    (stats : MySqlTableFetchStats) : Prop where
  own : stats.IsAccounted
  each : ∀ closed ∈ report.tableCounts, closed.IsAccounted
  tables : report.tableCounts.map (·.table) = tables
  documents : report.documents.length = (report.tableCounts.map (·.documentCount)).sum + stats.documentCount
  rows : report.rowCount = (report.tableCounts.map (·.rowCount)).sum + stats.rowCount
  failures : report.failedRowCount = (report.tableCounts.map (·.failedRowCount)).sum + stats.failedRowCount
  samples : report.rowFailureSamples.length = min maxRowFailureSamples report.failedRowCount

/-- The rows read so far are accounted for. -/
def FetchState.IsAccounted (tables : List String) (state : FetchState) : Prop :=
  state.report.IsAccounted tables state.stats

theorem length_pushMysqlRowFailureSample {samples : List MySqlRowFailureSample} {failures : Nat}
    (sampled : samples.length = min maxRowFailureSamples failures) (rowIndex : Nat) (reason : String)
    (sourcePrimaryKey : Option String) :
    (pushMysqlRowFailureSample samples mapping rowIndex reason sourcePrimaryKey).length =
      min maxRowFailureSamples (failures + 1) := by
  rw [pushMysqlRowFailureSample]
  split
  · omega
  · rw [List.length_append, List.length_singleton]
    omega

theorem FetchState.IsAccounted.failRow (accounted : state.IsAccounted tables) (reason : String) (key : Option String) :
    (state.countRow.failRow mapping reason key).IsAccounted tables where
  own := ⟨(congrArg (· + 1) accounted.own.rows).trans (Nat.add_assoc ..), accounted.own.skipped⟩
  each := accounted.each
  tables := accounted.tables
  documents := accounted.documents
  rows := (congrArg (· + 1) accounted.rows).trans (Nat.add_assoc ..)
  failures := (congrArg (· + 1) accounted.failures).trans (Nat.add_assoc ..)
  samples := length_pushMysqlRowFailureSample accounted.samples _ reason key

theorem FetchState.IsAccounted.addDocument (accounted : state.IsAccounted tables) (document : Value) :
    (state.countRow.addDocument document).IsAccounted tables where
  own := ⟨(congrArg (· + 1) accounted.own.rows).trans (Nat.add_right_comm ..), accounted.own.skipped⟩
  each := accounted.each
  tables := accounted.tables
  documents := by
    have before := accounted.documents
    simp only [FetchState.addDocument, FetchState.countRow, List.length_append, List.length_singleton]
    omega
  rows := (congrArg (· + 1) accounted.rows).trans (Nat.add_assoc ..)
  failures := accounted.failures
  samples := accounted.samples

theorem FetchState.IsAccounted.readRow (accounted : state.IsAccounted tables) (row : MySqlRow) :
    (state.readRow sha256 mapping includeBody columns row).IsAccounted tables := by
  rw [FetchState.readRow]
  cases mysqlRowValues columns row with
  | error reason => exact accounted.failRow reason none
  | ok values =>
    have kept : (state.keepValues mapping values).IsAccounted tables := accounted
    dsimp only
    cases mysqlValuesToExternalDocument sha256 mapping values includeBody with
    | error error => exact kept.failRow error.text _
    | ok document => exact kept.addDocument document

def MySqlTableFetchStats.blank (table : String) : MySqlTableFetchStats := ⟨table, 0, 0, 0, 0⟩

theorem FetchState.IsAccounted.closeTable (accounted : state.IsAccounted tables) (next : String) :
    state.closeTable.report.IsAccounted (tables ++ [state.stats.table]) (.blank next) where
  own := ⟨rfl, rfl⟩
  each := List.forall_mem_append.mpr ⟨accounted.each, List.forall_mem_singleton.mpr accounted.own⟩
  tables := by simp [FetchState.closeTable, accounted.tables]
  documents := by simp [FetchState.closeTable, MySqlTableFetchStats.blank, accounted.documents]
  rows := by simp [FetchState.closeTable, MySqlTableFetchStats.blank, accounted.rows]
  failures := by simp [FetchState.closeTable, MySqlTableFetchStats.blank, accounted.failures]
  samples := accounted.samples

theorem readRow_table (row : MySqlRow) :
    (state.readRow sha256 mapping includeBody columns row).stats.table = state.stats.table := by
  rw [FetchState.readRow]
  split
  · rfl
  · split <;> rfl

/-- What a row keeps, the pages keep. -/
theorem fetchPages_kept {motive : FetchState → Prop}
    (kept : ∀ {state columns} row, motive state → motive (state.readRow sha256 mapping includeBody columns row))
    (held : motive state)
    (fetched : fetchPages isUuid sha256 query config mapping checkpoint includeBody totalLimit pageSize offset state = .ok later) :
    motive later := by
  have run {columns : List String} (rows : List MySqlRow) (state : FetchState) (held : motive state) :
      motive (rows.foldl (FetchState.readRow sha256 mapping includeBody columns) state) := by
    induction rows generalizing state with
    | nil => exact held
    | cons row rest ih => exact ih _ (kept row held)
  fun_induction fetchPages generalizing later with
  | case1 offset state more pageLimit =>
    rename_i ih
    obtain ⟨plan, -, rest⟩ := bind_eq_ok.mp fetched
    obtain ⟨rows, -, rest⟩ := bind_eq_ok.mp rest
    split_ifs at rest with empty short
    · cases rest
      exact held
    · cases rest
      exact run rows state held
    · exact ih plan rows empty (run rows state held) rest
  | case2 offset state done =>
    cases fetched
    exact held

/-- Each table's rows are accounted for after those of the tables before it. -/
theorem fetchTable_accounted {next : String} (accounted : state.report.IsAccounted tables (.blank next))
    (fetched : fetchTable isUuid sha256 query config checkpoint includeBody state mapping = .ok later) :
    later.report.IsAccounted (tables ++ [mapping.table]) (.blank next) := by
  obtain ⟨last, read, same⟩ := bind_eq_ok.mp fetched
  cases same
  have opened : (state.openTable mapping).IsAccounted tables ∧ (state.openTable mapping).stats.table = mapping.table :=
    ⟨⟨⟨rfl, rfl⟩, accounted.each, accounted.tables, accounted.documents, accounted.rows, accounted.failures,
      accounted.samples⟩, rfl⟩
  have kept : last.IsAccounted tables ∧ last.stats.table = mapping.table :=
    fetchPages_kept (motive := fun state => state.IsAccounted tables ∧ state.stats.table = mapping.table)
      (fun row held => ⟨held.1.readRow row, (readRow_table row).trans held.2⟩) opened read
  obtain ⟨account, table⟩ := kept
  rw [← table]
  exact account.closeTable next

theorem foldlM_accounted {mappings : List MySqlTableMapping} {next : String}
    (accounted : state.report.IsAccounted tables (.blank next))
    (fetched : mappings.foldlM (fetchTable isUuid sha256 query config checkpoint includeBody) state = .ok later) :
    later.report.IsAccounted (tables ++ mappings.map (·.table)) (.blank next) := by
  induction mappings generalizing state tables with
  | nil =>
    cases fetched
    simpa using accounted
  | cons mapping rest ih =>
    rw [List.foldlM_cons] at fetched
    obtain ⟨between, first, rest⟩ := bind_eq_ok.mp fetched
    have all := ih (fetchTable_accounted accounted first) rest
    rwa [List.append_assoc, List.singleton_append] at all

/-- A server all of whose rows are one that cannot be read. -/
def brokenQuery (_ : String) (_ : List String) : Except String (List MySqlRow) := .ok [fun _ => .error "broken"]

end Accounts

section Server

variable {Row : Type}

/-- A server whose tables do not change, with what its types and collations make of the cells. It may meet the rows of
a table in another order for every query. -/
structure MySqlServer (Row : Type) where
  rows : String → List Row
  cell : Row → MySqlRow
  order : SortKey → Row → Row → Ordering
  ordered : ∀ key, Std.TransCmp (order key)
  exceeds : SortKey → Row → String → Bool
  arrange : String → List Row → List Row
  arranged : ∀ sql rows, (arrange sql rows).Perm rows

namespace MySqlServer

/-- By the first key that tells two rows apart. -/
def compareBy (server : MySqlServer Row) : List SortKey → Row → Row → Ordering
  | [] => fun _ _ => .eq
  | key :: rest => compareLex (server.order key) (server.compareBy rest)

/-- The rows of the statement's table that are over its bound. -/
def selected (server : MySqlServer Row) (statement : PageStatement) (params : List String) : List Row :=
  (server.rows statement.table).filter fun row => match statement.bound with
    | none => true
    | some key => params.all (server.exceeds key row)

/-- The cells of the columns that are selected. -/
def shown (server : MySqlServer Row) (columns : List String) (row : Row) : MySqlRow := fun column =>
  if column ∈ columns then server.cell row column else .error ("no column found for name: " ++ column)

/-- What the statement of the text selects, by its order; an error for any other text. -/
def answer (server : MySqlServer Row) (sql : String) (params : List String) : Except String (List MySqlRow) := do
  let statement ← okOr ((readSql sql).bind readStatement) "You have an error in your SQL syntax"
  ensure (params.length = statement.bound.toList.length) "wrong number of parameters"
  let found := sortBy (server.compareBy statement.order) (server.arrange sql (server.selected statement params))
  .ok (((found.drop statement.offset).take statement.limit).map (server.shown statement.columns))

/-- The rows for the mapping, as one statement without pages has them. -/
def listing (server : MySqlServer Row) (config : MySqlSourceConfig) (mapping : MySqlTableMapping)
    (checkpoint : MySqlSourceCheckpoint) : List Row :=
  let statement := pageStatement config mapping (checkpoint.tableCheckpoint mapping.table) config.mostRows 0
  let params := (boundOf mapping (checkpoint.tableCheckpoint mapping.table)).toList.map (·.2)
  sortBy (server.compareBy statement.order) (server.selected statement params)

/-- The order of the statement tells the rows that it selects apart. -/
def TellsApart (server : MySqlServer Row) (config : MySqlSourceConfig) (mapping : MySqlTableMapping)
    (checkpoint : MySqlSourceCheckpoint) : Prop :=
  ∀ first ∈ server.listing config mapping checkpoint, ∀ second ∈ server.listing config mapping checkpoint,
    server.compareBy (orderOf mapping ((boundOf mapping (checkpoint.tableCheckpoint mapping.table)).map (·.1))) first second =
      .eq → first = second

/-- The table read at once, up to the limit of rows. -/
def readTable (server : MySqlServer Row) (sha256 : List UInt8 → List UInt8) (config : MySqlSourceConfig) (includeBody : Bool)
    (checkpoint : MySqlSourceCheckpoint) (state : FetchState) (mapping : MySqlTableMapping) : FetchState :=
  let rows := ((server.listing config mapping checkpoint).take config.mostRows).map
    (server.shown ((previewColumns mapping).map trim))
  (rows.foldl (FetchState.readRow sha256 mapping includeBody (previewColumns mapping)) (state.openTable mapping)).closeTable

def report (server : MySqlServer Row) (sha256 : List UInt8 → List UInt8) (config : MySqlSourceConfig) (includeBody : Bool)
    (checkpoint : MySqlSourceCheckpoint) : MySqlDocumentFetchReport :=
  (config.tables.foldl (server.readTable sha256 config includeBody checkpoint) .start).finish

end MySqlServer

end Server

section Paging

variable {isUuid : String → Bool} {sha256 : List UInt8 → List UInt8} {Row : Type} {server : MySqlServer Row}
  {config : MySqlSourceConfig} {mapping : MySqlTableMapping} {checkpoint : MySqlSourceCheckpoint} {includeBody : Bool}
  {state : FetchState} {limit offset : Nat}

theorem transCmp_compareBy (server : MySqlServer Row) (keys : List SortKey) : Std.TransCmp (server.compareBy keys) := by
  induction keys with
  | nil => exact { eq_swap := rfl, isLE_trans := fun _ _ => rfl }
  | cons key rest ih =>
    have own := server.ordered key
    exact inferInstanceAs (Std.TransCmp (compareLex (server.order key) (server.compareBy rest)))

theorem quoteMysqlIdentifier_ok {identifier : String} (known : IsIdentifier identifier) :
    quoteMysqlIdentifier identifier = .ok ("`" ++ trim identifier ++ "`") := by
  rw [quoteMysqlIdentifier, validateIdentifier_ok.mpr known]
  rfl

theorem previewColumns_valid (valid : mapping.Valid) : ∀ column ∈ previewColumns mapping, IsIdentifier column := by
  intro column listed
  have inside := (mem_pushUniqueColumn listed).resolve_left List.not_mem_nil
  simp only [List.mem_append, Option.mem_toList, mappingIdentityColumns] at inside
  rcases inside with ((((identity | title) | content) | updated) | version) | metadata
  · split_ifs at identity
    · rw [List.mem_singleton.mp identity]
      exact valid.idColumn
    · exact valid.idColumns column identity
  · exact valid.titleColumn column title
  · exact valid.contentColumns column content
  · exact valid.updatedAtColumn column updated
  · exact valid.versionColumn column version
  · exact valid.metadataColumns column metadata

theorem previewColumns_ne_nil (mapping : MySqlTableMapping) : previewColumns mapping ≠ [] := by
  obtain ⟨column, listed⟩ := List.exists_mem_of_ne_nil _ (mappingIdentityColumns_ne_nil mapping)
  exact List.ne_nil_of_mem (mem_foldl_pushUniqueColumn (.inr (by simp [listed]) : column ∈ [] ∨ _))

theorem afterColumn_ok {column : Option String} (bound digits : Option String) (valid : ∀ name ∈ column, IsIdentifier name) :
    ∃ clause, afterColumn bound column digits = .ok clause := by
  cases bound with
  | none => exact ⟨_, rfl⟩
  | some bound =>
    cases column with
    | none => exact ⟨_, rfl⟩
    | some column =>
      have quoted := quoteMysqlIdentifier_ok (valid column rfl)
      cases digits <;> exact ⟨_, bind_eq_ok.mpr ⟨_, quoted, rfl⟩⟩

theorem incrementalClause_ok (valid : mapping.Valid) (checkpoint : MySqlTableCheckpoint) :
    ∃ clause, incrementalClause mapping checkpoint = .ok clause := by
  obtain ⟨updated, first⟩ := afterColumn_ok checkpoint.updatedAfter none valid.updatedAtColumn
  obtain ⟨version, second⟩ := afterColumn_ok checkpoint.versionAfter (some "6") valid.versionColumn
  have single : ∀ name ∈ some mapping.idColumn, IsIdentifier name := fun name same => Option.some.inj same ▸ valid.idColumn
  refine exists_bind_ok.mpr ⟨updated, first, ?_⟩
  split
  · exact ⟨updated, rfl⟩
  · refine exists_bind_ok.mpr ⟨version, second, ?_⟩
    split_ifs
    · exact ⟨version, rfl⟩
    · exact afterColumn_ok _ _ single
    · exact ⟨_, rfl⟩

theorem fetchOrder_ok (valid : mapping.Valid) (clause : IncrementalClause) :
    ∃ columns, fetchOrder mapping clause = .ok columns := by
  have quoted := quoteMysqlIdentifier_ok valid.idColumn
  rw [fetchOrder]
  split_ifs
  · exact ⟨_, bind_eq_ok.mpr ⟨_, quoted, rfl⟩⟩
  · exact ⟨_, bind_eq_ok.mpr ⟨_, quoted, rfl⟩⟩
  · exact ⟨_, rfl⟩

theorem castColumns_ok {columns : List String} (valid : ∀ column ∈ columns, IsIdentifier column) :
    ∃ text, castColumns columns = .ok text := by
  rw [castColumns, exists_bind_ok]
  refine Exists.imp (fun _ ran => ⟨ran, _, rfl⟩) (mapM_ok_of fun column inside => ?_)
  exact exists_bind_ok.mpr ⟨_, quoteMysqlIdentifier_ok (valid column inside), _, rfl⟩

/-- A page of a table that is configured has a query. -/
theorem page_built (accepted : config.validate isUuid = .ok ()) (listed : mapping ∈ config.tables)
    (checkpoint : MySqlSourceCheckpoint) (limit offset : Nat) :
    ∃ plan, buildMysqlDocumentFetchPageQuery isUuid config mapping checkpoint limit offset = .ok plan ∧
      plan.columns = previewColumns mapping := by
  have known : mapping.validate = .ok () := by
    simp only [MySqlSourceConfig.validate, unit_bind_eq_ok, forM_eq_ok] at accepted
    exact accepted.2.2.2.2.2.2.2.2 mapping listed
  have valid := mapping.valid_of_validate known
  obtain ⟨projections, cast⟩ := castColumns_ok (previewColumns_valid valid)
  obtain ⟨clause, bounds⟩ := incrementalClause_ok valid (checkpoint.tableCheckpoint mapping.table)
  obtain ⟨orderColumns, ordered⟩ := fetchOrder_ok valid clause
  exact ⟨_, unit_bind_eq_ok.mpr ⟨accepted, unit_bind_eq_ok.mpr ⟨known, bind_eq_ok.mpr ⟨projections, cast,
    bind_eq_ok.mpr ⟨clause, bounds, bind_eq_ok.mpr ⟨orderColumns, ordered, bind_eq_ok.mpr
      ⟨_, quoteMysqlIdentifier_ok valid.table, rfl⟩⟩⟩⟩⟩⟩, rfl⟩

/-- The answer to a page is that part of the listing. -/
theorem answer_page (apart : server.TellsApart config mapping checkpoint) {plan : MySqlDocumentFetchQuery}
    (built : buildMysqlDocumentFetchPageQuery isUuid config mapping checkpoint limit offset = .ok plan) :
    server.answer plan.sql plan.params =
      .ok ((((server.listing config mapping checkpoint).drop offset).take (clampLimit limit config.mostRows)).map
        (server.shown ((previewColumns mapping).map trim))) := by
  obtain ⟨read, params⟩ := page_reads built
  have shown : (pageStatement config mapping (checkpoint.tableCheckpoint mapping.table) limit offset).columns ≠ [] :=
    mt List.map_eq_nil_iff.mp (previewColumns_ne_nil mapping)
  have statement := readStatement_tokens (pageStatement config mapping (checkpoint.tableCheckpoint mapping.table) limit offset)
    shown (orderOf_ne_nil _ _)
  have bound : plan.params.length =
      (pageStatement config mapping (checkpoint.tableCheckpoint mapping.table) limit offset).bound.toList.length := by
    rw [params, List.length_map, pageStatement]
    cases boundOf mapping (checkpoint.tableCheckpoint mapping.table) <;> rfl
  have comparison := transCmp_compareBy server (orderOf mapping
    ((boundOf mapping (checkpoint.tableCheckpoint mapping.table)).map (·.1)))
  have sorted := sortBy_eq_of_perm (server.arranged plan.sql (server.selected (pageStatement config mapping
    (checkpoint.tableCheckpoint mapping.table) limit offset) plan.params)).symm fun first inside second within =>
      apart first (mem_sortBy.mpr (params ▸ inside)) second (mem_sortBy.mpr (params ▸ within))
  rw [MySqlServer.answer, read, Option.bind_some, statement, okOr_some]
  refine bind_eq_ok.mpr ⟨_, rfl, unit_bind_eq_ok.mpr ⟨ensure_eq_ok.mpr (decide_eq_true bound), ?_⟩⟩
  rw [MySqlServer.listing, ← params]
  exact congrArg (fun rows => Except.ok (((rows.drop offset).take (clampLimit limit config.mostRows)).map
    (server.shown ((previewColumns mapping).map trim)))) sorted.symm

/-- The pages from an offset on are the rows of the listing from there to the limit. -/
theorem fetchPages_listing (accepted : config.validate isUuid = .ok ()) (listed : mapping ∈ config.tables)
    (apart : server.TellsApart config mapping checkpoint) {pageSize : Nat} (filled : 0 < pageSize) :
    fetchPages isUuid sha256 server.answer config mapping checkpoint includeBody config.mostRows pageSize offset state =
      .ok (((((server.listing config mapping checkpoint).drop offset).take (config.mostRows - offset)).map
        (server.shown ((previewColumns mapping).map trim))).foldl
          (FetchState.readRow sha256 mapping includeBody (previewColumns mapping)) state) := by
  fun_induction fetchPages isUuid sha256 server.answer config mapping checkpoint includeBody config.mostRows pageSize offset state with
  | case1 offset state more pageLimit =>
    rename_i ih
    have size : pageLimit = min pageSize (config.mostRows - offset) := rfl
    clear_value pageLimit
    have clamped : clampLimit pageLimit config.mostRows = pageLimit := by
      rw [clampLimit, if_neg (by omega), if_neg (by omega)]
    obtain ⟨plan, built, columns⟩ := page_built accepted listed checkpoint pageLimit offset
    have page := answer_page apart built
    rw [clamped] at page
    refine bind_eq_ok.mpr ⟨plan, mapError_eq_ok.mpr built, bind_eq_ok.mpr ⟨_, mapError_eq_ok.mpr page, ?_⟩⟩
    have again := ih plan (((server.listing config mapping checkpoint).drop offset).take pageLimit |>.map
      (server.shown ((previewColumns mapping).map trim)))
    rw [columns] at again ⊢
    rw [← List.drop_drop] at again
    generalize (server.listing config mapping checkpoint).drop offset = rest at again ⊢
    split_ifs with empty short
    · have positive : pageLimit ≠ 0 := by omega
      have none : rest = [] := (List.take_eq_nil_iff.mp (List.map_eq_nil_iff.mp empty)).resolve_left positive
      rw [none, List.take_nil]
      rfl
    · have short : rest.length < pageLimit := by
        simpa using short
      rw [List.take_of_length_le (by omega), List.take_of_length_le (by omega)]
    · have full : (rest.take pageLimit).length = pageLimit := by
        simp at short ⊢
        omega
      have split : config.mostRows - offset = pageLimit + (config.mostRows - (offset + pageLimit)) := by omega
      rw [List.length_map, full] at again ⊢
      rw [again empty, split, List.take_add, List.map_append, List.foldl_append]
  | case2 offset state done =>
    rw [Nat.sub_eq_zero_of_le (Nat.le_of_not_lt done), List.take_zero]
    rfl

theorem fetchTable_listing (accepted : config.validate isUuid = .ok ()) (listed : mapping ∈ config.tables)
    (apart : server.TellsApart config mapping checkpoint) :
    fetchTable isUuid sha256 server.answer config checkpoint includeBody state mapping =
      .ok (server.readTable sha256 config includeBody checkpoint state mapping) := by
  have valid := config.valid_of_validate accepted
  have rows : 0 < config.mostRows := Nat.lt_min.mpr ⟨valid.rowLimit.1, by decide⟩
  have filled : 0 < min (min config.pageSize.toNat config.mostRows) maxPageSize.toNat :=
    Nat.lt_min.mpr ⟨Nat.lt_min.mpr ⟨valid.pageSize.1, rows⟩, by decide⟩
  exact bind_eq_ok.mpr ⟨_, fetchPages_listing accepted listed apart filled, rfl⟩

/-- Where the order of every table's statement tells its rows apart, the pages of whatever size, each of which the server
may gather in an order of its own, give the report of one read of every table. -/
theorem fetch_listing (accepted : config.validate isUuid = .ok ())
    (apart : ∀ mapping ∈ config.tables, server.TellsApart config mapping checkpoint) :
    fetchMysqlDocumentsReportWithCheckpoint isUuid sha256 server.answer config includeBody checkpoint =
      .ok (server.report sha256 config includeBody checkpoint) :=
  unit_bind_eq_ok.mpr ⟨mapError_eq_ok.mpr accepted, bind_eq_ok.mpr ⟨_, foldlM_ok_of (fun mapping listed _ =>
    fetchTable_listing accepted listed (apart mapping listed)) _, rfl⟩⟩

/-- Notes by number, which the server meets in reverse. -/
def noteServer : MySqlServer Nat where
  rows _ := [1, 2, 3, 4, 5]
  cell number column := .ok (if column = "updated_at" then none else some (toString number))
  order _ := compare
  ordered _ := inferInstance
  exceeds _ _ _ := false
  arrange _ := List.reverse
  arranged _ := List.reverse_perm

/-- Five notes in pages of two. -/
theorem notes_fetched : fetchMysqlDocumentsReportWithCheckpoint (fun _ => false) id noteServer.answer noteConfig true .default =
    .ok (noteServer.report id noteConfig true .default) := by
  refine fetch_listing rfl fun mapping listed first _ second _ same => ?_
  obtain rfl := List.mem_singleton.mp listed
  have numbers : (compare first second).then .eq = .eq := same
  rw [Ordering.then_eq] at numbers
  exact Nat.compare_eq_eq.mp numbers

end Paging

end DataMax.MySqlSource
