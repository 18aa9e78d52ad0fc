import DataMax.Json.Access
import DataMax.Library.SqlText
import DataMax.MySqlSource.Mapping

/-! The SQL text of the queries to a MySQL source, and what a server reads in it: fixed words, and the names
of the configured tables and columns between backquotes. -/

namespace DataMax.MySqlSource

open Domain Json Library

section Checkpoints

structure MySqlTableCheckpoint where
  updatedAfter : Option String
  lastId : Option String
  versionAfter : Option String

/-- The values that hold for every table, and those of single tables. -/
structure MySqlSourceCheckpoint extends MySqlTableCheckpoint where
  tables : SortedMap String MySqlTableCheckpoint

def checkpointString (object : Map) (keys : List String) : Option String :=
  (((keys.findSome? object.get?).bind Value.asStr).map trim).filter (· ≠ "")

def checkpointValues (object : Map) : MySqlTableCheckpoint where
  updatedAfter := checkpointString object ["updated_after", "updatedAfter"]
  lastId := checkpointString object ["last_id", "lastId"]
  versionAfter := checkpointString object ["version_after", "versionAfter"]

namespace MySqlSourceCheckpoint

def default : MySqlSourceCheckpoint := ⟨⟨none, none, none⟩, .empty⟩

def addTable (tables : SortedMap String MySqlTableCheckpoint) (entry : String × Value) :
    Except DatabaseSourceError (SortedMap String MySqlTableCheckpoint) := do
  validateIdentifier "checkpoint.tables" entry.1
  let tableObject ← okOr entry.2.asMap
    (.invalidField "checkpoint.tables" ("checkpoint for table `" ++ entry.1 ++ "` must be an object"))
  .ok (tables.insert entry.1 (checkpointValues tableObject))

def fromValue (value : Value) : Except DatabaseSourceError MySqlSourceCheckpoint := match value with
  | .null => .ok default
  | _ => do
    let object ← okOr value.asMap (.invalidField "checkpoint" "checkpoint must be an object")
    let listed := ((object.get? "tables").bind Value.asMap).elim [] (·.entries)
    let tables ← listed.foldlM addTable .empty
    .ok ⟨checkpointValues object, tables⟩

/-- What the table has of its own goes first. -/
def tableCheckpoint (checkpoint : MySqlSourceCheckpoint) (table : String) : MySqlTableCheckpoint :=
  match checkpoint.tables.get? table with
  | none => checkpoint.toMySqlTableCheckpoint
  | some own =>
    ⟨own.updatedAfter <|> checkpoint.updatedAfter, own.lastId <|> checkpoint.lastId,
      own.versionAfter <|> checkpoint.versionAfter⟩

end MySqlSourceCheckpoint

end Checkpoints

section Clauses

/-- `cast(.. as char)` of each column under its own name. -/
def castColumns (columns : List String) : Except DatabaseSourceError String := do
  let projections ← columns.mapM fun column => do
    let quoted ← quoteMysqlIdentifier column
    .ok ("cast(" ++ (quoted ++ (" as char) as " ++ quoted)))
  .ok (", ".intercalate projections)

def quotedColumns (columns : List String) : Except DatabaseSourceError String := do
  let quoted ← columns.mapM quoteMysqlIdentifier
  .ok (", ".intercalate quoted)

/-- `u32::clamp` from one to the limit of the configuration. -/
def clampLimit (limit most : Nat) : Nat := if limit < 1 then 1 else if most < limit then most else limit

def MySqlSourceConfig.mostRows (config : MySqlSourceConfig) : Nat := min config.rowLimit.toNat maxRowLimit.toNat

def allowedTable (config : MySqlSourceConfig) (table : String) : Except DatabaseSourceError MySqlTableMapping :=
  okOr (config.tables.find? fun mapping => mapping.table == table)
    (.invalidField "table" "table is not in the configured allowlist")

end Clauses

section Previews

structure MySqlTablePreviewQuery where
  table : String
  rowLimit : Nat
  columns : List String
  sql : String

variable (isUuid : String → Bool)

def buildMysqlTablePreviewQuery (config : MySqlSourceConfig) (table : String) (limit : Nat) :
    Except DatabaseSourceError MySqlTablePreviewQuery := do
  config.validate isUuid
  validateIdentifier "table" table
  let mapping ← allowedTable config table
  let columns := previewColumns mapping
  ensure (columns ≠ []) (.invalidField "columns" "at least one preview column is required")
  let projections ← castColumns columns
  let rowLimit := clampLimit limit config.mostRows
  let quoted ← quoteMysqlIdentifier table
  .ok ⟨table, rowLimit, columns, "select " ++ (projections ++ (" from " ++ (quoted ++ (" limit " ++ toString rowLimit))))⟩

end Previews

section Aggregates

structure MySqlAggregateRequest where
  table : String
  dimensions : List String
  metric : Option String
  aggregation : String
  orderDirection : Option String
  latestTimeColumn : Option String
  limit : Option Nat
  scanLimit : Option Nat

structure MySqlAggregateQuery where
  table : String
  dimensions : List String
  metric : Option String
  aggregation : String
  rowLimit : Nat
  scanLimit : Option Nat
  columns : List String
  sql : String

def normalizeIdentifierList (values : List String) : List String := (values.map trim).filter (· ≠ "")

def normalizeOptional (value : Option String) : Option String := (value.map trim).filter (· ≠ "")

def validateAllowedQueryColumn (field column : String) (allowedColumns : List String) :
    Except DatabaseSourceError Unit := do
  validateIdentifier field column
  ensure (column ∈ allowedColumns) (.invalidField field ("column `" ++ column ++ "` is not in the configured table mapping"))

def nameHasAny (name : String) (needles : List String) : Bool := needles.any (contains name)

def looksLikeIdentifier (name : String) : Bool :=
  name == "id" || name == "key" || (2 < name.utf8ByteSize && endsWith name "id") ||
    (4 < name.utf8ByteSize && endsWith name "code") || (3 < name.utf8ByteSize && endsWith name "key") ||
    endsWith name "_id" || endsWith name "_code" || endsWith name "_no" ||
    nameHasAny name ["uuid", "guid", "serial", "number"]

/-- One of the runs of letters and digits in the name is one of the segments. -/
def databaseFieldNameHasAnySegment (name : String) (segments : List String) : Bool :=
  (name.toList.splitOnP fun character => !character.isAlphanum).any fun segment =>
    segment ≠ [] && segments.contains (.ofList segment)

def looksLikeNumericMetric (name : String) : Bool :=
  ["up", "down", "amttotal", "amtsold", "salenum", "quekou", "xuzengxiaoshou", "yuezujin", "tichengzujin", "htzj",
      "fdxshje", "yze", "rdj"].contains name ||
    databaseFieldNameHasAnySegment name ["count", "num", "amount", "total", "sum", "rate", "ratio", "score", "price",
      "cost", "traffic", "flow", "volume", "qty", "avg", "duration", "amt", "sale", "sales", "sold", "rent", "fee",
      "zujin", "xiaoshou", "quekou", "jine", "ticheng", "dayamt", "yuezu", "fdxshje", "yze", "rdj"]

def looksLikeNonAdditiveMetric (name : String) : Bool :=
  databaseFieldNameHasAnySegment name ["rate", "ratio", "percent", "percentage", "pct", "share", "score", "index",
    "average", "avg", "price", "cost", "duration", "distance", "area", "fee", "rent"]

def eqIgnoreAsciiCase (first second : String) : Bool := asciiLower first == asciiLower second

def validateNumericAggregateMetric (mapping : MySqlTableMapping) (metric aggregation : String) :
    Except DatabaseSourceError Unit := do
  let normalized := asciiLower (trim metric)
  let identityColumn := (mappingIdentityColumns mapping).any (eqIgnoreAsciiCase · metric)
  ensure (!(identityColumn || looksLikeIdentifier normalized)) (.invalidField "metric"
    ("identity-like column `" ++ metric ++ "` cannot be used for numeric aggregation"))
  ensure (!(mapping.titleColumn.any (eqIgnoreAsciiCase · metric) || mapping.updatedAtColumn.any (eqIgnoreAsciiCase · metric) ||
      mapping.versionColumn.any (eqIgnoreAsciiCase · metric))) (.invalidField "metric"
    ("non-metric column `" ++ metric ++ "` cannot be numerically aggregated"))
  ensure (looksLikeNumericMetric normalized) (.invalidField "metric" ("column `" ++ metric ++
    "` has no recognized numeric metric semantics; explicit field policy is required"))
  ensure (!(["quekou", "xuzengxiaoshou"].contains normalized)) (.invalidField "metric" ("column `" ++ metric ++
    "` requires an explicit type, unit, and allowed-aggregation policy"))
  ensure (!(aggregation == "sum" && looksLikeNonAdditiveMetric normalized)) (.invalidField "aggregation"
    ("sum is not allowed for non-additive metric `" ++ metric ++ "` without an explicit field policy"))

def unknownAggregation : DatabaseSourceError := .invalidField "aggregation" "must be one of count, sum, avg, min, or max"

def normalizeAggregate (value : String) : Except DatabaseSourceError String := do
  let normalized := asciiLower (trim value)
  ensure (["count", "sum", "avg", "min", "max"].contains normalized) unknownAggregation
  .ok normalized

def normalizeAggregateOrderDirection (value : Option String) : Except DatabaseSourceError String := match value with
  | none => .ok "desc"
  | some value =>
    let normalized := asciiLower (trim value)
    if normalized = "" ∨ normalized = "desc" then .ok "desc"
    else if normalized = "asc" then .ok "asc"
    else .error (.invalidField "order_direction" "must be asc or desc")

/-- The metric as a number, for the two expressions below. -/
def numericMetric (metric : Option String) : Except DatabaseSourceError String := do
  let metric ← okOr metric (.invalidField "metric" "metric is required for numeric aggregation")
  let quoted ← quoteMysqlIdentifier metric
  .ok ("cast(nullif(" ++ (quoted ++ ", '') as decimal(30,6))"))

def aggregateExpression (aggregation : String) (metric : Option String) : Except DatabaseSourceError String :=
  if aggregation = "count" then .ok "cast(count(*) as char)"
  else do
    let numeric ← numericMetric metric
    if aggregation = "sum" then .ok ("cast(coalesce(sum(" ++ (numeric ++ "), 0) as char)"))
    else if aggregation = "avg" then .ok ("cast(avg(" ++ (numeric ++ ") as char)"))
    else if aggregation = "min" then .ok ("cast(min(" ++ (numeric ++ ") as char)"))
    else if aggregation = "max" then .ok ("cast(max(" ++ (numeric ++ ") as char)"))
    else .error unknownAggregation

def aggregateOrderExpression (aggregation : String) (metric : Option String) : Except DatabaseSourceError String :=
  if aggregation = "count" then .ok "count(*)"
  else do
    let numeric ← numericMetric metric
    if aggregation = "sum" then .ok ("coalesce(sum(" ++ (numeric ++ "), 0)"))
    else if aggregation = "avg" then .ok ("avg(" ++ (numeric ++ ")"))
    else if aggregation = "min" then .ok ("min(" ++ (numeric ++ ")"))
    else if aggregation = "max" then .ok ("max(" ++ (numeric ++ ")"))
    else .error unknownAggregation

variable (isUuid : String → Bool)

def groupByClause (dimensions : List String) : Except DatabaseSourceError String :=
  if dimensions = [] then .ok ""
  else do
    let quoted ← quotedColumns dimensions
    .ok (" group by " ++ quoted)

def orderByClause (dimensions : List String) (aggregation : String) (metric : Option String) (direction : String) :
    Except DatabaseSourceError String :=
  if dimensions = [] then .ok ""
  else do
    let expression ← aggregateOrderExpression aggregation metric
    .ok (" order by " ++ (expression ++ (" " ++ direction)))

/-- The rows at the latest time of the column. -/
def latestWhere (table : String) (latestTimeColumn : Option String) : Except DatabaseSourceError String :=
  match latestTimeColumn with
  | none => .ok ""
  | some column => do
    let quotedColumn ← quoteMysqlIdentifier column
    let quotedTable ← quoteMysqlIdentifier table
    .ok (" where " ++ (quotedColumn ++ (" = (select max(" ++ (quotedColumn ++ (") from " ++ (quotedTable ++ ")"))))))

def scanLimitClause (scanLimit : Option Nat) : String := match scanLimit with
  | none => ""
  | some limit => " limit " ++ toString limit

def innerProjections (scanColumns : List String) : Except DatabaseSourceError String :=
  if scanColumns = [] then .ok "1 as `__v3_row`" else quotedColumns scanColumns

/-- The table, or what a bounded scan of it gives. -/
def tableSource (table : String) (dimensions : List String) (metric latestTimeColumn : Option String)
    (scanLimit : Option Nat) : Except DatabaseSourceError String :=
  if scanLimit.isSome || latestTimeColumn.isSome then do
    let scanColumns := (dimensions ++ metric.toList ++ latestTimeColumn.toList).foldl pushUniqueColumn []
    let projections ← innerProjections scanColumns
    let filter ← latestWhere table latestTimeColumn
    let quoted ← quoteMysqlIdentifier table
    .ok ("(select " ++ (projections ++ (" from " ++ (quoted ++ (filter ++ (scanLimitClause scanLimit ++ ") as `__v3_scan`"))))))
  else quoteMysqlIdentifier table

def aggregateProjections (dimensions : List String) (expression : String) : Except DatabaseSourceError String :=
  if dimensions = [] then .ok (expression ++ " as `value`")
  else do
    let projections ← castColumns dimensions
    .ok (projections ++ (", " ++ (expression ++ " as `value`")))

def buildMysqlAggregateQuery (config : MySqlSourceConfig) (request : MySqlAggregateRequest) :
    Except DatabaseSourceError MySqlAggregateQuery := do
  config.validate isUuid
  validateIdentifier "table" request.table
  let mapping ← allowedTable config request.table
  let allowedColumns := previewColumns mapping
  let dimensions := normalizeIdentifierList request.dimensions
  ensure (dimensions.length ≤ 3) (.invalidField "dimensions" "at most 3 dimensions are supported")
  forM dimensions fun dimension => validateAllowedQueryColumn "dimensions" dimension allowedColumns
  let aggregation ← normalizeAggregate request.aggregation
  let orderDirection ← normalizeAggregateOrderDirection request.orderDirection
  let latestTimeColumn := normalizeOptional request.latestTimeColumn
  forM latestTimeColumn.toList fun column => validateAllowedQueryColumn "latest_time_column" column allowedColumns
  let metric := normalizeOptional request.metric
  ensure (!(aggregation ≠ "count" && metric.isNone)) (.invalidField "metric" "metric is required for sum, avg, min, and max")
  forM metric.toList fun metric => do
    validateAllowedQueryColumn "metric" metric allowedColumns
    if aggregation ≠ "count" then validateNumericAggregateMetric mapping metric aggregation else .ok ()
  let expression ← aggregateExpression aggregation metric
  let projections ← aggregateProjections dimensions expression
  let groupBy ← groupByClause dimensions
  let orderBy ← orderByClause dimensions aggregation metric orderDirection
  let rowLimit := clampLimit (request.limit.getD 50) config.mostRows
  let scanLimit := request.scanLimit.map (clampLimit · maxRowLimit.toNat)
  let source ← tableSource mapping.table dimensions metric latestTimeColumn scanLimit
  .ok ⟨mapping.table, dimensions, metric, aggregation, rowLimit, scanLimit, dimensions ++ ["value"],
    "select " ++ (projections ++ (" from " ++ (source ++ (groupBy ++ (orderBy ++ (" limit " ++ toString rowLimit))))))⟩

end Aggregates

section Pages

structure MySqlDocumentFetchQuery where
  table : String
  rowLimit : Nat
  columns : List String
  sql : String
  params : List String

/-- The condition on the rows after a checkpoint, what they are ordered by, and the bound. -/
structure IncrementalClause where
  condition : String
  orderColumns : List String
  params : List String

def IncrementalClause.none : IncrementalClause := ⟨"", [], []⟩

/-- The clause for a bound on a column, where both are there; `digits` of a number after its point. -/
def afterColumn (bound : Option String) (column : Option String) (digits : Option String) :
    Except DatabaseSourceError IncrementalClause := match bound, column with
  | some bound, some column => do
    let quoted ← quoteMysqlIdentifier column
    match digits with
    | .none => .ok ⟨" where " ++ (quoted ++ " > ?"), [quoted ++ " asc"], [bound]⟩
    | some digits =>
      let number := " as decimal(30," ++ digits ++ "))"
      .ok ⟨" where cast(" ++ (quoted ++ (number ++ (" > cast(?" ++ number))),
        ["cast(" ++ (quoted ++ (number ++ " asc"))], [bound]⟩
  | _, _ => .ok .none

/-- The first of the bounds that has its column: the time of the update, the version, a single id. -/
def incrementalClause (mapping : MySqlTableMapping) (checkpoint : MySqlTableCheckpoint) :
    Except DatabaseSourceError IncrementalClause := do
  let updated ← afterColumn checkpoint.updatedAfter mapping.updatedAtColumn .none
  if updated.condition ≠ "" then .ok updated
  else
    let version ← afterColumn checkpoint.versionAfter mapping.versionColumn (some "6")
    if version.condition ≠ "" then .ok version
    else if (mappingIdentityColumns mapping).length = 1 then
      afterColumn checkpoint.lastId (some mapping.idColumn) (some "0")
    else .ok .none

/-- The id column goes last, but for a condition on other columns of a mapping with more than one. -/
def fetchOrder (mapping : MySqlTableMapping) (clause : IncrementalClause) : Except DatabaseSourceError (List String) := do
  if clause.condition = "" then
    let quoted ← quoteMysqlIdentifier mapping.idColumn
    .ok [quoted ++ " asc"]
  else if !(clause.orderColumns.any fun column => contains column ("`" ++ mapping.idColumn ++ "`")) &&
      (mappingIdentityColumns mapping).length = 1 then
    let quoted ← quoteMysqlIdentifier mapping.idColumn
    .ok (clause.orderColumns ++ [quoted ++ " asc"])
  else .ok clause.orderColumns

def orderClause (orderColumns : List String) : String :=
  if orderColumns = [] then "" else " order by " ++ ", ".intercalate orderColumns

variable (isUuid : String → Bool)

def buildMysqlDocumentFetchPageQuery (config : MySqlSourceConfig) (mapping : MySqlTableMapping)
    (checkpoint : MySqlSourceCheckpoint) (limit offset : Nat) : Except DatabaseSourceError MySqlDocumentFetchQuery := do
  config.validate isUuid
  mapping.validate
  let rowLimit := clampLimit limit config.mostRows
  let columns := previewColumns mapping
  let projections ← castColumns columns
  let clause ← incrementalClause mapping (checkpoint.tableCheckpoint mapping.table)
  let orderColumns ← fetchOrder mapping clause
  let quoted ← quoteMysqlIdentifier mapping.table
  .ok ⟨mapping.table, rowLimit, columns,
    "select " ++ (projections ++ (" from " ++ (quoted ++ (clause.condition ++ (orderClause orderColumns ++
      (" limit " ++ (toString rowLimit ++ (" offset " ++ toString offset)))))))), clause.params⟩

end Pages

end DataMax.MySqlSource
