import DataMax.Library.Framing
import DataMax.MySqlSource.Queries

/-! What a server reads in the text of a query, whatever the configuration, the request and the checkpoint hold. -/

namespace DataMax.MySqlSource

open Domain Library

section Tokens

def wordToken (text : String) : SqlToken := .word text.toList

def nameToken (text : String) : SqlToken := .name text.toList

def castTokens (column : String) : List SqlToken :=
  wordToken "cast" :: .symbol '(' :: nameToken column :: wordToken "as" :: wordToken "char" :: .symbol ')' ::
    wordToken "as" :: [nameToken column]

def numberToken (number : Nat) : SqlToken := .word (Nat.toDigits 10 number)

/-- With commas between them. -/
def listTokens (parts : List (List SqlToken)) : List SqlToken := [SqlToken.symbol ','].intercalate parts

end Tokens

section Confinement

def queryWords : List String := ["select", "from", "cast", "as", "char", "where", "order", "by", "group", "limit",
  "offset", "decimal", "nullif", "coalesce", "sum", "avg", "min", "max", "count", "asc", "desc"]

/-- The names that the queries give to values of their own. -/
def ownNames : List String := ["value", "__v3_row", "__v3_scan"]

def querySymbols : List Char := [',', '(', ')', '*', '>', '=', '?']

/-- A fixed word, a number, a fixed symbol, the empty text, or one of the names. -/
def isConfined (names : List String) : SqlToken → Bool
  | .word text => queryWords.contains (.ofList text) || text.all Char.isDigit
  | .name text => ownNames.contains (.ofList text) || names.contains (.ofList text)
  | .literal text => text.isEmpty
  | .symbol char => querySymbols.contains char

/-- The text reads as confined tokens with so many places for parameters. -/
structure Confined (names : List String) (places : Nat) (text : String) : Prop where
  whole : IsWhole text
  confined : ∀ token ∈ sqlTokens text, isConfined names token
  places : (sqlTokens text).count (.symbol '?') = places

/-- A fixed text of that kind. -/
def isFixed (places : Nat) (text : String) : Bool := (readSql text).any fun tokens =>
  tokens.all (isConfined []) && tokens.count (.symbol '?') == places

variable {names others : List String} {places more : Nat} {text first second : String}

theorem isConfined_mono {token : SqlToken} (confined : isConfined names token) (inside : names ⊆ others) :
    isConfined others token := by
  cases token with
  | name text =>
    rw [isConfined, Bool.or_eq_true] at confined ⊢
    refine confined.imp_right fun listed => ?_
    rw [List.contains_eq_mem, decide_eq_true_eq] at listed ⊢
    exact inside listed
  | word text | literal text | symbol char => exact confined

theorem confined_read {tokens : List SqlToken} (read : readSql text = some tokens)
    (confined : ∀ token ∈ tokens, isConfined names token) (count : tokens.count (.symbol '?') = places) :
    Confined names places text := by
  have same : sqlTokens text = tokens := by rw [sqlTokens, read, Option.getD_some]
  exact ⟨by rw [IsWhole, read, Option.isSome_some], same ▸ confined, same ▸ count⟩

theorem isConfined_name {column : String} (listed : column ∈ names) : isConfined names (nameToken column) := by
  rw [nameToken, isConfined, String.ofList_toList, Bool.or_eq_true, List.contains_eq_mem, List.contains_eq_mem]
  exact .inr (decide_eq_true listed)

theorem confined_fixed (fixed : isFixed places text) : Confined names places text := by
  obtain ⟨tokens, read, held⟩ := Option.any_eq_true .. |>.mp fixed
  obtain ⟨confined, count⟩ := Bool.and_eq_true_iff.mp held
  exact confined_read read (fun token listed =>
    isConfined_mono (List.all_eq_true.mp confined token listed) (List.nil_subset _)) (eq_of_beq count)

theorem Confined.append (confined : Confined names places first) (next : Confined names more second)
    (met : closes first || opens second) : Confined names (places + more) (first ++ second) where
  whole := isWhole_append confined.whole next.whole met
  confined token listed := by
    rw [sqlTokens_append confined.whole next.whole met] at listed
    rcases List.mem_append.mp listed with before | behind
    · exact confined.confined token before
    · exact next.confined token behind
  places := by rw [sqlTokens_append confined.whole next.whole met, List.count_append, confined.places, next.places]

theorem reads_lead {lead tokens : List SqlToken} (next : readSql second = some tokens) (fixed : readSql first = some lead)
    (closed : closes first) : readSql (first ++ second) = some (lead ++ tokens) :=
  readSql_append fixed next (by rw [closed, Bool.true_or])

theorem reads_follow {tokens following : List SqlToken} (read : readSql first = some tokens)
    (next : readSql second = some following) (opened : opens second) : readSql (first ++ second) = some (tokens ++ following) :=
  readSql_append read next (by rw [opened, Bool.or_true])

/-- A fixed text that ends with a separator, before another. -/
theorem Confined.lead (next : Confined names places second) (fixed : isFixed 0 first && closes first) :
    Confined names places (first ++ second) := by
  obtain ⟨known, closed⟩ := Bool.and_eq_true_iff.mp fixed
  have both := (confined_fixed known).append next (by rw [closed, Bool.true_or])
  rwa [Nat.zero_add] at both

/-- What begins with a separator, after another text. -/
theorem Confined.follow (confined : Confined names 0 first) (next : Confined names places second)
    (opened : opens second) : Confined names places (first ++ second) := by
  have both := confined.append next (by rw [opened, Bool.or_true])
  rwa [Nat.zero_add] at both

/-- A clause that is left out or begins with a separator, between two texts. -/
theorem opens_clause (clause : text = "" ∨ opens text) (opened : opens second) : opens (text ++ second) := by
  rcases clause with rfl | starts
  · rw [String.empty_append]
    exact opened
  · exact opens_append starts

theorem digits_number (number : Nat) : ∀ char ∈ Nat.toDigits 10 number, char.isDigit := fun _ inside =>
  Nat.isDigit_of_mem_toDigits (by decide) (by decide) inside

theorem readSql_toString (number : Nat) : readSql (toString number) = some [numberToken number] := by
  have spelled : (toString number).toList = Nat.toDigits 10 number := by
    rw [Nat.toString_eq_repr, Nat.repr_eq_ofList_toDigits, String.toList_ofList]
  have plain : (toString number).toList.all isWordChar := List.all_eq_true.mpr fun char inside => by
    simp [isWordChar, Char.isAlphanum, digits_number number char (spelled ▸ inside)]
  rw [readSql_word (spelled ▸ Nat.toDigits_ne_nil) plain, spelled, numberToken]

theorem isConfined_number (number : Nat) : isConfined names (numberToken number) := by
  rw [numberToken, isConfined, Bool.or_eq_true]
  exact .inr (List.all_eq_true.mpr (digits_number number))

theorem confined_toString (number : Nat) : Confined names 0 (toString number) :=
  confined_read (readSql_toString number) (List.forall_mem_singleton.mpr (isConfined_number number)) rfl

end Confinement

section Clauses

variable {names columns dimensions : List String} {column quoted text table aggregation direction expression : String}
  {metric latestTimeColumn : Option String} {scanLimit : Option Nat}

theorem quoted_shape (ran : quoteMysqlIdentifier column = .ok quoted) :
    quoted = "`" ++ trim column ++ "`" ∧ '`' ∉ (trim column).toList := by
  obtain ⟨known, same⟩ := unit_bind_eq_ok.mp ran
  refine ⟨(Except.ok.inj same).symm, fun inside => ?_⟩
  have each := (Bool.and_eq_true_iff.mp (validateIdentifier_ok.mp known)).2
  exact absurd (List.all_eq_true.mp each _ inside) (by decide)

theorem readSql_quoted (ran : quoteMysqlIdentifier column = .ok quoted) :
    readSql quoted = some [nameToken (trim column)] := by
  obtain ⟨rfl, bare⟩ := quoted_shape ran
  exact readSql_name bare

theorem readSql_intercalate {Item : Type} {items : List Item} {parts : List String} {tokens : Item → List SqlToken}
    (each : List.Forall₂ (fun item part => readSql part = some (tokens item)) items parts) :
    readSql (", ".intercalate parts) = some (listTokens (items.map tokens)) := by
  induction each with
  | nil => rfl
  | cons read later ih =>
    cases later with
    | nil =>
      rw [String.intercalate_singleton, List.map_singleton, listTokens, List.intercalate_singleton]
      exact read
    | cons next others =>
      rw [String.intercalate_cons_cons, String.append_assoc, List.map_cons, List.map_cons, listTokens,
        List.intercalate_cons_cons, List.append_assoc]
      exact reads_follow read (reads_lead ih rfl (by decide)) (opens_append (by decide))

theorem readSql_castColumns (ran : castColumns columns = .ok text) :
    readSql text = some (listTokens (columns.map fun column => castTokens (trim column))) := by
  obtain ⟨projections, each, same⟩ := bind_eq_ok.mp ran
  cases same
  refine readSql_intercalate ((forall₂_of_mapM_ok each).imp fun column projection built => ?_)
  obtain ⟨quoted, name, same⟩ := bind_eq_ok.mp built
  cases same
  have known := readSql_quoted name
  have opened : readSql "cast(" = some [wordToken "cast", .symbol '('] := rfl
  have shown : readSql " as char) as " = some [wordToken "as", wordToken "char", .symbol ')', wordToken "as"] := rfl
  exact reads_lead (reads_follow known (reads_lead known shown (by decide)) (opens_append (by decide))) opened (by decide)

theorem readSql_quotedColumns (ran : quotedColumns columns = .ok text) :
    readSql text = some (listTokens (columns.map fun column => [nameToken (trim column)])) := by
  obtain ⟨parts, each, same⟩ := bind_eq_ok.mp ran
  cases same
  exact readSql_intercalate ((forall₂_of_mapM_ok each).imp fun _ _ => readSql_quoted)

theorem confined_quoted (ran : quoteMysqlIdentifier column = .ok quoted) (listed : trim column ∈ names) :
    Confined names 0 quoted :=
  confined_read (readSql_quoted ran) (List.forall_mem_singleton.mpr (isConfined_name listed)) rfl

theorem mem_listTokens {Item : Type} {items : List Item} {tokens : Item → List SqlToken} {token : SqlToken}
    (listed : token ∈ listTokens (items.map tokens)) : token = .symbol ',' ∨ ∃ item ∈ items, token ∈ tokens item := by
  refine (mem_intercalate listed).imp_right fun ⟨part, source, within⟩ => ?_
  obtain ⟨item, known, rfl⟩ := List.mem_map.mp source
  exact ⟨item, known, within⟩

theorem isConfined_listTokens {Item : Type} {items : List Item} {tokens : Item → List SqlToken}
    (confined : ∀ item ∈ items, ∀ token ∈ tokens item, isConfined names token) :
    ∀ token ∈ listTokens (items.map tokens), isConfined names token := by
  intro token listed
  rcases mem_listTokens listed with rfl | ⟨item, known, within⟩
  · rfl
  · exact confined item known token within

theorem count_listTokens {Item : Type} {items : List Item} {tokens : Item → List SqlToken}
    (placeless : ∀ item ∈ items, SqlToken.symbol '?' ∉ tokens item) :
    (listTokens (items.map tokens)).count (.symbol '?') = 0 := by
  refine List.count_eq_zero.mpr fun listed => ?_
  rcases mem_listTokens listed with comma | ⟨item, known, within⟩
  · cases comma
  · exact placeless item known within

theorem confined_listTokens {Item : Type} {items : List Item} {tokens : Item → List SqlToken}
    (read : readSql text = some (listTokens (items.map tokens)))
    (confined : ∀ item ∈ items, ∀ token ∈ tokens item, isConfined names token)
    (placeless : ∀ item ∈ items, SqlToken.symbol '?' ∉ tokens item) : Confined names 0 text :=
  confined_read read (isConfined_listTokens confined) (count_listTokens placeless)

theorem isConfined_castTokens (listed : column ∈ names) : ∀ token ∈ castTokens column, isConfined names token := by
  have named := isConfined_name listed
  intro token within
  simp only [castTokens, List.mem_cons, List.not_mem_nil, or_false] at within
  rcases within with rfl | rfl | rfl | rfl | rfl | rfl | rfl | rfl
  exacts [rfl, rfl, named, rfl, rfl, rfl, rfl, named]

theorem placeless_castTokens (column : String) : SqlToken.symbol '?' ∉ castTokens column := by
  simp [castTokens, wordToken, nameToken]

theorem confined_castColumns (ran : castColumns columns = .ok text) (listed : ∀ column ∈ columns, trim column ∈ names) :
    Confined names 0 text :=
  confined_listTokens (readSql_castColumns ran) (fun column known => isConfined_castTokens (listed column known))
    fun column _ => placeless_castTokens (trim column)

theorem confined_quotedColumns (ran : quotedColumns columns = .ok text)
    (listed : ∀ column ∈ columns, trim column ∈ names) : Confined names 0 text := by
  refine confined_listTokens (readSql_quotedColumns ran) (fun column known => ?_) (fun column known => ?_)
  · exact List.forall_mem_singleton.mpr (isConfined_name (listed column known))
  · simp [nameToken]

theorem confined_numericMetric (ran : numericMetric metric = .ok text) (listed : ∀ column ∈ metric, trim column ∈ names) :
    Confined names 0 text := by
  obtain ⟨column, named, rest⟩ := bind_eq_ok.mp ran
  obtain ⟨quoted, name, same⟩ := bind_eq_ok.mp rest
  cases same
  exact ((confined_quoted name (listed column (okOr_eq_ok.mp named))).follow (confined_fixed (by decide))
    (by decide)).lead (by decide)

theorem confined_aggregateExpression (ran : aggregateExpression aggregation metric = .ok text)
    (listed : ∀ column ∈ metric, trim column ∈ names) : Confined names 0 text := by
  rw [aggregateExpression] at ran
  split at ran
  · cases ran
    exact confined_fixed (by decide)
  · obtain ⟨numeric, number, rest⟩ := bind_eq_ok.mp ran
    have known := confined_numericMetric number listed
    split_ifs at rest <;> cases rest <;>
      exact (known.follow (confined_fixed (by decide)) (by decide)).lead (by decide)

theorem confined_aggregateOrderExpression (ran : aggregateOrderExpression aggregation metric = .ok text)
    (listed : ∀ column ∈ metric, trim column ∈ names) : Confined names 0 text := by
  rw [aggregateOrderExpression] at ran
  split at ran
  · cases ran
    exact confined_fixed (by decide)
  · obtain ⟨numeric, number, rest⟩ := bind_eq_ok.mp ran
    have known := confined_numericMetric number listed
    split_ifs at rest <;> cases rest <;>
      exact (known.follow (confined_fixed (by decide)) (by decide)).lead (by decide)

/-- A clause of the statement, with a blank before it where it is there. -/
structure IsClause (names : List String) (text : String) : Prop where
  confined : Confined names 0 text
  separate : text = "" ∨ opens text

theorem isClause_empty : IsClause names "" := ⟨confined_fixed (by decide), .inl rfl⟩

theorem IsClause.follow {places : Nat} (clause : IsClause names text) (confined : Confined names places expression)
    (opened : opens expression) : Confined names places (text ++ expression) ∧ opens (text ++ expression) :=
  ⟨clause.confined.follow confined opened, opens_clause clause.separate opened⟩

theorem isClause_groupBy (ran : groupByClause dimensions = .ok text) (listed : ∀ column ∈ dimensions, trim column ∈ names) :
    IsClause names text := by
  rw [groupByClause] at ran
  split at ran
  · cases ran
    exact isClause_empty
  · obtain ⟨quoted, columns, same⟩ := bind_eq_ok.mp ran
    cases same
    exact ⟨(confined_quotedColumns columns listed).lead (by decide), .inr (opens_append (by decide))⟩

theorem isClause_orderBy (ran : orderByClause dimensions aggregation metric direction = .ok text)
    (listed : ∀ column ∈ metric, trim column ∈ names) (directed : direction = "asc" ∨ direction = "desc") :
    IsClause names text := by
  rw [orderByClause] at ran
  split at ran
  · cases ran
    exact isClause_empty
  · obtain ⟨expression, ordered, same⟩ := bind_eq_ok.mp ran
    cases same
    have last : Confined names 0 direction := by
      rcases directed with rfl | rfl <;> exact confined_fixed (by decide)
    exact ⟨((confined_aggregateOrderExpression ordered listed).follow (last.lead (by decide))
      (opens_append (by decide))).lead (by decide), .inr (opens_append (by decide))⟩

theorem isClause_latestWhere (ran : latestWhere table latestTimeColumn = .ok text)
    (listed : ∀ column ∈ latestTimeColumn, trim column ∈ names) (source : trim table ∈ names) : IsClause names text := by
  cases latestTimeColumn with
  | none =>
    cases ran
    exact isClause_empty
  | some column =>
    obtain ⟨quotedColumn, name, rest⟩ := bind_eq_ok.mp ran
    obtain ⟨quotedTable, tableName, same⟩ := bind_eq_ok.mp rest
    cases same
    have known := confined_quoted name (listed column rfl)
    have ended : Confined names 0 (quotedTable ++ ")") :=
      (confined_quoted tableName source).follow (confined_fixed (by decide)) (by decide)
    exact ⟨(known.follow ((known.follow (ended.lead (by decide)) (opens_append (by decide))).lead (by decide))
      (opens_append (by decide))).lead (by decide), .inr (opens_append (by decide))⟩

theorem isClause_scanLimit (scanLimit : Option Nat) : IsClause names (scanLimitClause scanLimit) := by
  cases scanLimit with
  | none => exact isClause_empty
  | some limit => exact ⟨(confined_toString limit).lead (by decide), .inr (opens_append (by decide))⟩

theorem mem_pushUniqueColumn {pushed : List String} (inside : column ∈ columns.foldl pushUniqueColumn pushed) :
    column ∈ pushed ∨ column ∈ columns := by
  induction columns generalizing pushed with
  | nil => exact .inl inside
  | cons next rest ih =>
    rcases ih inside with before | later
    · rw [pushUniqueColumn] at before
      split at before
      · exact .inl before
      · rcases List.mem_append.mp before with earlier | last
        · exact .inl earlier
        · exact .inr (List.mem_cons.mpr (.inl (List.mem_singleton.mp last)))
    · exact .inr (List.mem_cons_of_mem _ later)

theorem confined_innerProjections (ran : innerProjections columns = .ok text)
    (listed : ∀ column ∈ columns, trim column ∈ names) : Confined names 0 text := by
  rw [innerProjections] at ran
  split at ran
  · cases ran
    exact confined_fixed (by decide)
  · exact confined_quotedColumns ran listed

theorem confined_tableSource (ran : tableSource table dimensions metric latestTimeColumn scanLimit = .ok text)
    (grouped : ∀ column ∈ dimensions, trim column ∈ names) (measured : ∀ column ∈ metric, trim column ∈ names)
    (timed : ∀ column ∈ latestTimeColumn, trim column ∈ names) (source : trim table ∈ names) : Confined names 0 text := by
  rw [tableSource] at ran
  split at ran
  · obtain ⟨projections, inner, rest⟩ := bind_eq_ok.mp ran
    obtain ⟨filter, filtered, rest⟩ := bind_eq_ok.mp rest
    obtain ⟨quoted, name, same⟩ := bind_eq_ok.mp rest
    cases same
    have columns : Confined names 0 projections := by
      refine confined_innerProjections inner fun column inside => ?_
      rcases mem_pushUniqueColumn inside with none | inside
      · cases none
      · rcases List.mem_append.mp inside with inside | timeColumn
        · rcases List.mem_append.mp inside with dimension | measure
          · exact grouped column dimension
          · exact measured column (Option.mem_toList.mp measure)
        · exact timed column (Option.mem_toList.mp timeColumn)
    have ended : Confined names 0 ") as `__v3_scan`" := confined_fixed (by decide)
    obtain ⟨limited, opened⟩ := (isClause_scanLimit scanLimit).follow ended (by decide)
    obtain ⟨selected, opened⟩ := (isClause_latestWhere filtered timed source).follow limited opened
    exact ((columns.follow (((confined_quoted name source).follow selected opened).lead (by decide))
      (opens_append (by decide))).lead (by decide))
  · exact confined_quoted ran source

theorem confined_aggregateProjections (ran : aggregateProjections dimensions expression = .ok text)
    (listed : ∀ column ∈ dimensions, trim column ∈ names) (confined : Confined names 0 expression) :
    Confined names 0 text := by
  have named : Confined names 0 (expression ++ " as `value`") := confined.follow (confined_fixed (by decide)) (by decide)
  rw [aggregateProjections] at ran
  split at ran
  · cases ran
    exact named
  · obtain ⟨projections, cast, same⟩ := bind_eq_ok.mp ran
    cases same
    exact (confined_castColumns cast listed).follow (named.lead (by decide)) (opens_append (by decide))

end Clauses

section Queries

variable {isUuid : String → Bool} {config : MySqlSourceConfig} {mapping : MySqlTableMapping} {sql : String}
  {params : List String}

/-- The table and the columns of a mapping, as they are quoted. -/
def mappedNames (mapping : MySqlTableMapping) : List String :=
  trim mapping.table :: trim mapping.idColumn :: (previewColumns mapping).map trim

theorem table_mapped (mapping : MySqlTableMapping) : trim mapping.table ∈ mappedNames mapping := List.mem_cons_self

theorem id_mapped (mapping : MySqlTableMapping) : trim mapping.idColumn ∈ mappedNames mapping :=
  List.mem_cons_of_mem _ List.mem_cons_self

theorem preview_mapped {column : String} (listed : column ∈ previewColumns mapping) : trim column ∈ mappedNames mapping :=
  List.mem_cons_of_mem _ (List.mem_cons_of_mem _ (List.mem_map_of_mem listed))

theorem mem_foldl_pushUniqueColumn {column : String} {columns pushed : List String}
    (inside : column ∈ pushed ∨ column ∈ columns) : column ∈ columns.foldl pushUniqueColumn pushed := by
  induction columns generalizing pushed with
  | nil => exact inside.resolve_right List.not_mem_nil
  | cons next rest ih =>
    refine ih ?_
    rw [List.mem_cons] at inside
    rw [pushUniqueColumn]
    split
    · rename_i known
      rcases inside with before | rfl | later
      · exact .inl before
      · exact .inl known
      · exact .inr later
    · rcases inside with before | rfl | later
      · exact .inl (List.mem_append_left _ before)
      · exact .inl (List.mem_append_right _ (List.mem_singleton_self _))
      · exact .inr later

theorem updatedAt_mapped : ∀ column ∈ mapping.updatedAtColumn, trim column ∈ mappedNames mapping := fun column named =>
  preview_mapped (mem_foldl_pushUniqueColumn (.inr (by simp [Option.mem_toList.mpr named])))

theorem version_mapped : ∀ column ∈ mapping.versionColumn, trim column ∈ mappedNames mapping := fun column named =>
  preview_mapped (mem_foldl_pushUniqueColumn (.inr (by simp [Option.mem_toList.mpr named])))

theorem allowed_mapped {field column : String}
    (allowed : validateAllowedQueryColumn field column (previewColumns mapping) = .ok ()) :
    trim column ∈ mappedNames mapping := by
  obtain ⟨-, listed⟩ := unit_bind_eq_ok.mp allowed
  exact preview_mapped (of_decide_eq_true (ensure_eq_ok.mp listed))

theorem direction_known {value : Option String} {direction : String}
    (ran : normalizeAggregateOrderDirection value = .ok direction) : direction = "asc" ∨ direction = "desc" := by
  cases value with
  | none =>
    cases ran
    exact .inr rfl
  | some value =>
    simp only [normalizeAggregateOrderDirection] at ran
    split_ifs at ran
    · cases ran
      exact .inr rfl
    · cases ran
      exact .inl rfl

theorem preview_confined {table : String} {limit : Nat} {query : MySqlTablePreviewQuery}
    (named : allowedTable config table = .ok mapping)
    (built : buildMysqlTablePreviewQuery isUuid config table limit = .ok query) :
    Confined (mappedNames mapping) 0 query.sql := by
  obtain ⟨-, rest⟩ := unit_bind_eq_ok.mp built
  obtain ⟨-, rest⟩ := unit_bind_eq_ok.mp rest
  obtain ⟨found, again, rest⟩ := bind_eq_ok.mp rest
  rw [named] at again
  cases again
  obtain ⟨-, rest⟩ := unit_bind_eq_ok.mp rest
  obtain ⟨projections, cast, rest⟩ := bind_eq_ok.mp rest
  obtain ⟨quoted, name, same⟩ := bind_eq_ok.mp rest
  cases same
  have source : trim table ∈ mappedNames mapping := by
    have same := List.find?_some (okOr_eq_ok.mp named)
    rw [← eq_of_beq same]
    exact table_mapped mapping
  have limited : Confined (mappedNames mapping) 0
      (quoted ++ (" limit " ++ toString (clampLimit limit config.mostRows))) :=
    (confined_quoted name source).follow ((confined_toString _).lead (by decide)) (opens_append (by decide))
  exact (((confined_castColumns cast fun _ => preview_mapped).follow (limited.lead (by decide))
    (opens_append (by decide))).lead (by decide))

theorem aggregate_confined {request : MySqlAggregateRequest} {query : MySqlAggregateQuery}
    (named : allowedTable config request.table = .ok mapping)
    (built : buildMysqlAggregateQuery isUuid config request = .ok query) :
    Confined (mappedNames mapping) 0 query.sql := by
  obtain ⟨-, rest⟩ := unit_bind_eq_ok.mp built
  obtain ⟨-, rest⟩ := unit_bind_eq_ok.mp rest
  obtain ⟨found, again, rest⟩ := bind_eq_ok.mp rest
  rw [named] at again
  cases again
  obtain ⟨-, rest⟩ := unit_bind_eq_ok.mp rest
  obtain ⟨grouped, rest⟩ := unit_bind_eq_ok.mp rest
  obtain ⟨aggregation, -, rest⟩ := bind_eq_ok.mp rest
  obtain ⟨direction, directed, rest⟩ := bind_eq_ok.mp rest
  obtain ⟨timed, rest⟩ := unit_bind_eq_ok.mp rest
  obtain ⟨-, rest⟩ := unit_bind_eq_ok.mp rest
  obtain ⟨measured, rest⟩ := unit_bind_eq_ok.mp rest
  obtain ⟨expression, computed, rest⟩ := bind_eq_ok.mp rest
  obtain ⟨projections, shown, rest⟩ := bind_eq_ok.mp rest
  obtain ⟨groupBy, groups, rest⟩ := bind_eq_ok.mp rest
  obtain ⟨orderBy, ordered, rest⟩ := bind_eq_ok.mp rest
  obtain ⟨source, scanned, same⟩ := bind_eq_ok.mp rest
  cases same
  have inDimensions : ∀ column ∈ normalizeIdentifierList request.dimensions, trim column ∈ mappedNames mapping :=
    fun column listed => allowed_mapped (forM_eq_ok.mp grouped column listed)
  have inMetric : ∀ column ∈ normalizeOptional request.metric, trim column ∈ mappedNames mapping := fun column present =>
    allowed_mapped (unit_bind_eq_ok.mp (forM_eq_ok.mp measured column (Option.mem_toList.mpr present))).1
  have inTime : ∀ column ∈ normalizeOptional request.latestTimeColumn, trim column ∈ mappedNames mapping :=
    fun column present => allowed_mapped (forM_eq_ok.mp timed column (Option.mem_toList.mpr present))
  have limited : Confined (mappedNames mapping) 0
      (" limit " ++ toString (clampLimit (request.limit.getD 50) config.mostRows)) :=
    (confined_toString _).lead (by decide)
  obtain ⟨sorted, opened⟩ := (isClause_orderBy ordered inMetric (direction_known directed)).follow limited
    (opens_append (by decide))
  obtain ⟨grouping, opened⟩ := (isClause_groupBy groups inDimensions).follow sorted opened
  have selected := (confined_tableSource scanned inDimensions inMetric inTime (table_mapped mapping)).follow grouping opened
  have listing := confined_aggregateProjections shown inDimensions (confined_aggregateExpression computed inMetric)
  exact ((listing.follow (selected.lead (by decide)) (opens_append (by decide))).lead (by decide))

end Queries

end DataMax.MySqlSource
