import DataMax.Library.Separated
import DataMax.Library.Sorting
import DataMax.MySqlSource.QueryReading
import Mathlib.Data.List.Sort

/-! The statements that fetch pages of a table, how a server reads them back from their tokens, and the rows
that it answers them with. -/

namespace DataMax.MySqlSource

open Domain Library

section Statements

/-- What rows are compared by: a column, or a column as a decimal number with so many digits after the point. -/
inductive SortKey where
  | column (name : String)
  | decimal (name digits : String)
  deriving DecidableEq

structure PageStatement where
  columns : List String
  table : String
  bound : Option SortKey
  order : List SortKey
  limit : Nat
  offset : Nat
  deriving DecidableEq

def decimalTokens (digits : String) : List SqlToken :=
  wordToken "as" :: wordToken "decimal" :: .symbol '(' :: wordToken "30" :: .symbol ',' :: wordToken digits ::
    .symbol ')' :: [.symbol ')']

namespace SortKey

def name : SortKey → String
  | column name | decimal name _ => name

def tokens : SortKey → List SqlToken
  | column name => [nameToken name]
  | decimal name digits => wordToken "cast" :: .symbol '(' :: nameToken name :: decimalTokens digits

/-- What the key is greater than. -/
def boundTokens : SortKey → List SqlToken
  | column _ => [.symbol '>', .symbol '?']
  | decimal _ digits => .symbol '>' :: wordToken "cast" :: .symbol '(' :: .symbol '?' :: decimalTokens digits

end SortKey

def boundTokens (bound : Option SortKey) : List SqlToken :=
  bound.elim [] fun key => wordToken "where" :: (key.tokens ++ key.boundTokens)

namespace PageStatement

def tokens (statement : PageStatement) : List SqlToken :=
  wordToken "select" :: (listTokens (statement.columns.map castTokens) ++ wordToken "from" ::
    nameToken statement.table :: (boundTokens statement.bound ++ wordToken "order" :: wordToken "by" ::
      (listTokens (statement.order.map fun key => key.tokens ++ [wordToken "asc"]) ++ wordToken "limit" ::
        numberToken statement.limit :: wordToken "offset" :: [numberToken statement.offset])))

end PageStatement

end Statements

section Reading

def readName : List SqlToken → Option (String × List SqlToken)
  | .name text :: rest => some (.ofList text, rest)
  | _ => none

def readWord : List SqlToken → Option (String × List SqlToken)
  | .word text :: rest => some (.ofList text, rest)
  | _ => none

def readNumber : List SqlToken → Option (Nat × List SqlToken)
  | .word text :: rest => if text.all Char.isDigit then some (Nat.ofDigitChars 10 text 0, rest) else none
  | _ => none

/-- Items with commas between them, as many as there are. -/
def readItems {Item : Type} (readItem : List SqlToken → Option (Item × List SqlToken)) :
    Nat → List SqlToken → Option (List Item × List SqlToken)
  | 0, _ => none
  | count + 1, tokens => do
    let (item, rest) ← readItem tokens
    match rest with
    | .symbol ',' :: later =>
      let (items, rest) ← readItems readItem count later
      some (item :: items, rest)
    | _ => some ([item], rest)

def readCast (tokens : List SqlToken) : Option (String × List SqlToken) := do
  let rest ← tokens.dropPrefix? [wordToken "cast", .symbol '(']
  let (column, rest) ← readName rest
  let rest ← rest.dropPrefix? [wordToken "as", wordToken "char", .symbol ')', wordToken "as"]
  let (shown, rest) ← readName rest
  if column = shown then some (column, rest) else none

def readDecimal (tokens : List SqlToken) : Option (String × List SqlToken) := do
  let rest ← tokens.dropPrefix? [wordToken "as", wordToken "decimal", .symbol '(', wordToken "30", .symbol ',']
  let (digits, rest) ← readWord rest
  let rest ← rest.dropPrefix? [.symbol ')', .symbol ')']
  some (digits, rest)

def readKey (tokens : List SqlToken) : Option (SortKey × List SqlToken) :=
  match tokens.dropPrefix? [wordToken "cast", .symbol '('] with
  | none => (readName tokens).map fun (name, rest) => (.column name, rest)
  | some rest => do
    let (name, rest) ← readName rest
    let (digits, rest) ← readDecimal rest
    some (.decimal name digits, rest)

def readBound (tokens : List SqlToken) : Option (Option SortKey × List SqlToken) :=
  match tokens.dropPrefix? [wordToken "where"] with
  | none => some (none, tokens)
  | some rest => do
    let (key, rest) ← readKey rest
    let rest ← rest.dropPrefix? key.boundTokens
    some (some key, rest)

def readAscending (tokens : List SqlToken) : Option (SortKey × List SqlToken) := do
  let (key, rest) ← readKey tokens
  let rest ← rest.dropPrefix? [wordToken "asc"]
  some (key, rest)

/-- The word, and what comes after it. -/
def readFixed (word : String) (tokens : List SqlToken) : Option (List SqlToken) := tokens.dropPrefix? [wordToken word]

def readPaging (tokens : List SqlToken) : Option (Nat × Nat) := do
  let rest ← readFixed "limit" tokens
  let (limit, rest) ← readNumber rest
  let rest ← readFixed "offset" rest
  let (offset, rest) ← readNumber rest
  if rest = [] then some (limit, offset) else none

def readStatement (tokens : List SqlToken) : Option PageStatement := do
  let rest ← readFixed "select" tokens
  let (columns, rest) ← readItems readCast rest.length rest
  let rest ← readFixed "from" rest
  let (table, rest) ← readName rest
  let (bound, rest) ← readBound rest
  let rest ← readFixed "order" rest
  let rest ← readFixed "by" rest
  let (order, rest) ← readItems readAscending rest.length rest
  let (limit, offset) ← readPaging rest
  some ⟨columns, table, bound, order, limit, offset⟩

variable {rest : List SqlToken}

theorem dropPrefix_append (lead rest : List SqlToken) : (lead ++ rest).dropPrefix? lead = some rest :=
  List.dropPrefix?_eq_some_iff.mpr ⟨lead, rfl, BEq.rfl⟩

@[simp] theorem readName_name (text : String) : readName (nameToken text :: rest) = some (text, rest) := by
  rw [nameToken, readName, String.ofList_toList]

@[simp] theorem readWord_word (text : String) : readWord (wordToken text :: rest) = some (text, rest) := by
  rw [wordToken, readWord, String.ofList_toList]

@[simp] theorem readNumber_number (number : Nat) : readNumber (numberToken number :: rest) = some (number, rest) := by
  rw [numberToken, readNumber, if_pos (List.all_eq_true.mpr (digits_number number)), Nat.ofDigitChars_ten_toDigits]

theorem readFixed_word (word : String) : readFixed word (wordToken word :: rest) = some rest :=
  dropPrefix_append [wordToken word] rest

theorem readPaging_paging (limit offset : Nat) :
    readPaging (wordToken "limit" :: numberToken limit :: wordToken "offset" :: [numberToken offset]) =
      some (limit, offset) := by
  simp only [readPaging, readFixed_word, readNumber_number, Option.bind_eq_bind, Option.bind_some, if_true]

theorem readItems_list {Item : Type} {readItem : List SqlToken → Option (Item × List SqlToken)}
    {tokens : Item → List SqlToken} (read : ∀ item rest, readItem (tokens item ++ rest) = some (item, rest))
    {items : List Item} {count : Nat} (filled : items ≠ []) (enough : items.length ≤ count)
    (ended : rest.head? ≠ some (.symbol ',')) :
    readItems readItem count (listTokens (items.map tokens) ++ rest) = some (items, rest) := by
  induction items generalizing count with
  | nil => exact absurd rfl filled
  | cons item others ih =>
    obtain ⟨left, rfl⟩ := Nat.exists_eq_succ_of_ne_zero (Nat.ne_of_gt (Nat.lt_of_lt_of_le (Nat.succ_pos _) enough))
    cases others with
    | nil =>
      rw [listTokens, List.map_singleton, List.intercalate_singleton, readItems, read]
      dsimp only [Option.bind_eq_bind, Option.bind_some]
      split
      · exact absurd rfl ended
      · rfl
    | cons next more =>
      rw [listTokens, List.map_cons, List.map_cons, List.intercalate_cons_cons, List.append_assoc, List.append_assoc,
        readItems, read]
      have later := ih (List.cons_ne_nil _ _) (Nat.le_of_succ_le_succ enough)
      rw [listTokens, List.map_cons] at later
      simp only [List.singleton_append, later, Option.bind_eq_bind, Option.bind_some]

theorem readCast_cast (column : String) (rest : List SqlToken) :
    readCast (castTokens column ++ rest) = some (column, rest) := by
  have opened := dropPrefix_append [wordToken "cast", .symbol '('] (nameToken column :: wordToken "as" :: wordToken "char" ::
    .symbol ')' :: wordToken "as" :: nameToken column :: rest)
  have closed := dropPrefix_append [wordToken "as", wordToken "char", .symbol ')', wordToken "as"] (nameToken column :: rest)
  simp only [List.cons_append, List.nil_append] at opened closed
  simp only [readCast, castTokens, List.cons_append, List.nil_append, opened, closed, readName_name, Option.bind_eq_bind,
    Option.bind_some, if_true]

theorem readDecimal_decimal (digits : String) (rest : List SqlToken) :
    readDecimal (decimalTokens digits ++ rest) = some (digits, rest) := by
  have opened := dropPrefix_append [wordToken "as", wordToken "decimal", .symbol '(', wordToken "30", .symbol ',']
    (wordToken digits :: .symbol ')' :: .symbol ')' :: rest)
  have closed := dropPrefix_append [.symbol ')', .symbol ')'] rest
  simp only [List.cons_append, List.nil_append] at opened closed
  simp only [readDecimal, decimalTokens, List.cons_append, List.nil_append, opened, closed, readWord_word,
    Option.bind_eq_bind, Option.bind_some]

theorem readKey_key (key : SortKey) (rest : List SqlToken) : readKey (key.tokens ++ rest) = some (key, rest) := by
  cases key with
  | column name =>
    have other : (nameToken name :: rest).dropPrefix? [wordToken "cast", .symbol '('] = none := rfl
    rw [SortKey.tokens, List.singleton_append, readKey, other]
    simp only [readName_name, Option.map_some]
  | decimal name digits =>
    have opened := dropPrefix_append [wordToken "cast", .symbol '('] (nameToken name :: (decimalTokens digits ++ rest))
    simp only [List.cons_append, List.nil_append] at opened
    rw [SortKey.tokens, List.cons_append, List.cons_append, List.cons_append, readKey, opened]
    simp only [readName_name, readDecimal_decimal, Option.bind_eq_bind, Option.bind_some]

theorem readAscending_key (key : SortKey) (rest : List SqlToken) :
    readAscending ((key.tokens ++ [wordToken "asc"]) ++ rest) = some (key, rest) := by
  rw [List.append_assoc, readAscending, readKey_key]
  simp only [Option.bind_eq_bind, Option.bind_some, dropPrefix_append]

theorem readBound_bound (bound : Option SortKey) (rest : List SqlToken) :
    readBound (boundTokens bound ++ wordToken "order" :: rest) = some (bound, wordToken "order" :: rest) := by
  cases bound with
  | none =>
    have other : (wordToken "order" :: rest).dropPrefix? [wordToken "where"] = none := rfl
    rw [boundTokens, Option.elim_none, List.nil_append, readBound, other]
  | some key =>
    have opened := dropPrefix_append [wordToken "where"] (key.tokens ++ (key.boundTokens ++ wordToken "order" :: rest))
    rw [boundTokens, Option.elim_some, List.cons_append, List.append_assoc, readBound]
    rw [List.singleton_append] at opened
    simp only [opened, readKey_key, Option.bind_eq_bind, Option.bind_some, dropPrefix_append]

theorem length_listTokens {Item : Type} {tokens : Item → List SqlToken} (filled : ∀ item, tokens item ≠ []) (items : List Item) :
    items.length ≤ (listTokens (items.map tokens)).length := by
  induction items with
  | nil => exact Nat.zero_le _
  | cons item rest ih =>
    have positive : 1 ≤ (tokens item).length := List.length_pos_iff.mpr (filled item)
    cases rest with
    | nil => simpa [listTokens] using positive
    | cons next others =>
      rw [listTokens, List.map_cons, List.map_cons, List.intercalate_cons_cons, List.length_append, List.length_append]
      rw [listTokens, List.map_cons] at ih
      simp only [List.length_cons] at ih ⊢
      omega

theorem readItems_tokens {Item : Type} {readItem : List SqlToken → Option (Item × List SqlToken)}
    {tokens : Item → List SqlToken} (read : ∀ item rest, readItem (tokens item ++ rest) = some (item, rest))
    (filledEach : ∀ item, tokens item ≠ []) {items : List Item} (filled : items ≠ [])
    (ended : rest.head? ≠ some (.symbol ',')) :
    readItems readItem (listTokens (items.map tokens) ++ rest).length (listTokens (items.map tokens) ++ rest) =
      some (items, rest) := by
  refine readItems_list read filled (Nat.le_trans (length_listTokens filledEach items) ?_) ended
  rw [List.length_append]
  exact Nat.le_add_right _ _

/-- A statement is what its tokens read as. -/
theorem readStatement_tokens (statement : PageStatement) (shown : statement.columns ≠ []) (ordered : statement.order ≠ []) :
    readStatement statement.tokens = some statement := by
  obtain ⟨columns, table, bound, order, limit, offset⟩ := statement
  have casts : ∀ rest : List SqlToken, rest.head? ≠ some (.symbol ',') → readItems readCast
      (listTokens (columns.map castTokens) ++ rest).length (listTokens (columns.map castTokens) ++ rest) =
        some (columns, rest) := fun rest => readItems_tokens readCast_cast (fun _ => List.cons_ne_nil _ _) shown
  have keys : ∀ rest : List SqlToken, rest.head? ≠ some (.symbol ',') → readItems readAscending
      (listTokens (order.map fun key => key.tokens ++ [wordToken "asc"]) ++ rest).length
      (listTokens (order.map fun key => key.tokens ++ [wordToken "asc"]) ++ rest) = some (order, rest) :=
    fun rest => readItems_tokens readAscending_key (fun _ => List.append_ne_nil_of_right_ne_nil _ (List.cons_ne_nil _ _)) ordered
  dsimp only [PageStatement.tokens, readStatement, Option.bind_eq_bind]
  rw [readFixed_word, Option.bind_some, casts _ (by exact nofun), Option.bind_some, readFixed_word, Option.bind_some,
    readName_name, Option.bind_some, readBound_bound, Option.bind_some, readFixed_word, Option.bind_some, readFixed_word,
    Option.bind_some, keys _ (by exact nofun), Option.bind_some, readPaging_paging, Option.bind_some]

end Reading

section Spelling

variable {isUuid : String → Bool} {config : MySqlSourceConfig} {mapping : MySqlTableMapping} {text quoted : String}
  {checkpoint : MySqlTableCheckpoint} {clause : IncrementalClause} {orderColumns : List String}

/-- The key that a clause on the column compares by. -/
def keyOf (column : String) : Option String → SortKey
  | none => .column (trim column)
  | some digits => .decimal (trim column) digits

def boundOn (bound column digits : Option String) : Option (SortKey × String) :=
  bound.bind fun bound => column.map fun column => (keyOf column digits, bound)

/-- The first bound of the checkpoint that the mapping has a column for. -/
def boundOf (mapping : MySqlTableMapping) (checkpoint : MySqlTableCheckpoint) : Option (SortKey × String) :=
  (boundOn checkpoint.updatedAfter mapping.updatedAtColumn none).or
    ((boundOn checkpoint.versionAfter mapping.versionColumn (some "6")).or
      (if (mappingIdentityColumns mapping).length = 1 then boundOn checkpoint.lastId (some mapping.idColumn) (some "0")
      else none))

/-- The bound's own key, and the id where it tells rows apart. -/
def orderOf (mapping : MySqlTableMapping) (bound : Option SortKey) : List SortKey := match bound with
  | none => [.column (trim mapping.idColumn)]
  | some key =>
    if key.name ≠ mapping.idColumn ∧ (mappingIdentityColumns mapping).length = 1 then
      [key, .column (trim mapping.idColumn)]
    else [key]

def pageStatement (config : MySqlSourceConfig) (mapping : MySqlTableMapping) (checkpoint : MySqlTableCheckpoint)
    (limit offset : Nat) : PageStatement where
  columns := (previewColumns mapping).map trim
  table := trim mapping.table
  bound := (boundOf mapping checkpoint).map (·.1)
  order := orderOf mapping ((boundOf mapping checkpoint).map (·.1))
  limit := clampLimit limit config.mostRows
  offset := offset

/-- The text of a key, as the clauses have it. -/
structure SpellsKey (key : SortKey) (column : String) : Prop where
  ascending : readSql column = some (key.tokens ++ [wordToken "asc"])
  named : ∀ other, contains column ("`" ++ other ++ "`") ↔ key.name = other

/-- The clause says the bound. -/
def Spells (clause : IncrementalClause) : Option (SortKey × String) → Prop
  | none => clause = .none
  | some (key, bound) => readSql clause.condition = some (boundTokens (some key)) ∧ opens clause.condition ∧
      clause.condition ≠ "" ∧ clause.params = [bound] ∧ ∃ column, clause.orderColumns = [column] ∧ SpellsKey key column

theorem contains_quoted {lead ending : String} {column : String} (ran : quoteMysqlIdentifier column = .ok quoted)
    (before : '`' ∉ lead.toList) (after : '`' ∉ ending.toList) (other : String) :
    contains (lead ++ (quoted ++ ending)) ("`" ++ other ++ "`") ↔ trim column = other := by
  obtain ⟨rfl, bare⟩ := quoted_shape ran
  have mark : "`".toList = ['`'] := rfl
  simp only [contains_iff, String.toList_append, mark, List.append_assoc, List.singleton_append]
  exact (infix_between before bare after).trans (String.toList_inj.trans eq_comm)

theorem lead_ne_empty {lead : String} (filled : lead ≠ "") (text : String) : lead ++ text ≠ "" := by
  intro empty
  have lengths := congrArg String.toList empty
  rw [String.toList_append, String.toList_empty, List.append_eq_nil_iff] at lengths
  exact filled (String.toList_inj.mp lengths.1)

theorem spells_decimal {bound column digits : String} (ran : afterColumn (some bound) (some column) (some digits) = .ok clause)
    (number : readSql (" as decimal(30," ++ digits ++ "))") = some (decimalTokens digits))
    (opened : opens (" as decimal(30," ++ digits ++ "))")) (closed : closes (" as decimal(30," ++ digits ++ "))"))
    (plain : '`' ∉ (" as decimal(30," ++ digits ++ "))" ++ " asc").toList) :
    Spells clause (some (.decimal (trim column) digits, bound)) := by
  obtain ⟨quoted, name, rest⟩ := bind_eq_ok.mp ran
  cases rest
  have known := readSql_quoted name
  have cast : readSql "cast(" = some [wordToken "cast", .symbol '('] := rfl
  have whereCast : readSql " where cast(" = some [wordToken "where", wordToken "cast", .symbol '('] := rfl
  have asked : readSql " > cast(?" = some [.symbol '>', wordToken "cast", .symbol '(', .symbol '?'] := rfl
  have ascending : readSql " asc" = some [wordToken "asc"] := rfl
  have whole := reads_lead (reads_follow known (reads_follow number (reads_lead number asked (by decide))
    (opens_append (by decide))) (opens_append opened)) whereCast (by decide)
  have ordered := reads_lead (reads_follow known (reads_lead ascending number closed) (opens_append opened)) cast (by decide)
  refine ⟨?_, opens_append (by decide), lead_ne_empty (by decide) _, rfl, _, rfl, ?_, fun other => ?_⟩
  · simpa [boundTokens, SortKey.tokens, SortKey.boundTokens] using whole
  · simpa [SortKey.tokens] using ordered
  · exact contains_quoted name (by decide) plain other

theorem spells_afterColumn {bound column : String} {digits : Option String}
    (ran : afterColumn (some bound) (some column) digits = .ok clause)
    (few : digits = none ∨ digits = some "6" ∨ digits = some "0") : Spells clause (some (keyOf column digits, bound)) := by
  rcases few with rfl | rfl | rfl
  · obtain ⟨quoted, name, rest⟩ := bind_eq_ok.mp ran
    cases rest
    have known := readSql_quoted name
    have opened : readSql " where " = some [wordToken "where"] := rfl
    have asked : readSql " > ?" = some [.symbol '>', .symbol '?'] := rfl
    have ascending : readSql " asc" = some [wordToken "asc"] := rfl
    refine ⟨reads_lead (reads_follow known asked (by decide)) opened (by decide), opens_append (by decide),
      lead_ne_empty (by decide) _, rfl, _, rfl, reads_follow known ascending (by decide), fun other => ?_⟩
    have bare : '`' ∉ "".toList := List.not_mem_nil
    have named := contains_quoted name bare (by decide : '`' ∉ " asc".toList) other
    rwa [String.empty_append] at named
  · exact spells_decimal ran rfl (by decide) (by decide) (by decide)
  · exact spells_decimal ran rfl (by decide) (by decide) (by decide)

theorem spells_boundOn {bound column digits : Option String} (ran : afterColumn bound column digits = .ok clause)
    (few : digits = none ∨ digits = some "6" ∨ digits = some "0") : Spells clause (boundOn bound column digits) := by
  cases bound with
  | none =>
    cases ran
    rfl
  | some bound =>
    cases column with
    | none =>
      cases ran
      rfl
    | some column => exact spells_afterColumn ran few

theorem Spells.condition {bound : Option (SortKey × String)} (spells : Spells clause bound) :
    clause.condition = "" ↔ bound = none := by
  cases bound with
  | none =>
    rw [spells]
    exact iff_of_true rfl rfl
  | some bound => exact iff_of_false spells.2.2.1 nofun

theorem spells_incrementalClause (ran : incrementalClause mapping checkpoint = .ok clause) :
    Spells clause (boundOf mapping checkpoint) := by
  obtain ⟨updated, first, rest⟩ := bind_eq_ok.mp ran
  have byTime := spells_boundOn first (.inl rfl)
  rw [boundOf]
  split at rest
  · rename_i filled
    cases rest
    obtain ⟨bound, found⟩ := Option.ne_none_iff_exists'.mp (mt byTime.condition.mpr filled)
    rwa [found, Option.some_or, ← found]
  · rename_i blank
    rw [byTime.condition.mp (not_not.mp blank), Option.none_or]
    obtain ⟨version, second, rest⟩ := bind_eq_ok.mp rest
    have byVersion := spells_boundOn second (.inr (.inl rfl))
    split at rest
    · rename_i filled
      cases rest
      obtain ⟨bound, found⟩ := Option.ne_none_iff_exists'.mp (mt byVersion.condition.mpr filled)
      rwa [found, Option.some_or, ← found]
    · rename_i blank
      rw [byVersion.condition.mp (not_not.mp blank), Option.none_or]
      split_ifs at rest ⊢
      · exact spells_boundOn rest (.inr (.inr rfl))
      · cases rest
        rfl

theorem readSql_fetchOrder {bound : Option (SortKey × String)} (spells : Spells clause bound)
    (ran : fetchOrder mapping clause = .ok orderColumns) :
    List.Forall₂ (fun key column => readSql column = some (key.tokens ++ [wordToken "asc"]))
      (orderOf mapping (bound.map (·.1))) orderColumns := by
  have last {quoted : String} (name : quoteMysqlIdentifier mapping.idColumn = .ok quoted) :
      readSql (quoted ++ " asc") = some ((SortKey.column (trim mapping.idColumn)).tokens ++ [wordToken "asc"]) :=
    reads_follow (readSql_quoted name) (by rfl) (by decide)
  rw [fetchOrder] at ran
  cases bound with
  | none =>
    rw [if_pos (spells.condition.mpr rfl)] at ran
    obtain ⟨quoted, name, same⟩ := bind_eq_ok.mp ran
    cases same
    exact .cons (last name) .nil
  | some bound =>
    rw [if_neg (mt spells.condition.mp nofun)] at ran
    obtain ⟨key, value⟩ := bound
    obtain ⟨-, -, -, -, column, only, spelled⟩ := spells
    rw [only] at ran
    have named : (contains column ("`" ++ mapping.idColumn ++ "`") = false) ↔ key.name ≠ mapping.idColumn := by
      rw [Ne, ← spelled.named, Bool.not_eq_true]
    simp only [List.any_cons, List.any_nil, Bool.or_false, Bool.and_eq_true, Bool.not_eq_true', named,
      decide_eq_true_eq] at ran
    rw [Option.map_some, orderOf]
    split_ifs at ran ⊢
    · obtain ⟨quoted, name, same⟩ := bind_eq_ok.mp ran
      cases same
      exact .cons spelled.ascending (.cons (last name) .nil)
    · cases ran
      exact .cons spelled.ascending .nil

theorem orderOf_ne_nil (mapping : MySqlTableMapping) (bound : Option SortKey) : orderOf mapping bound ≠ [] := by
  cases bound with
  | none => exact List.cons_ne_nil _ _
  | some key =>
    rw [orderOf]
    split_ifs <;> exact List.cons_ne_nil _ _

theorem readSql_orderClause {keys : List SortKey} (filled : keys ≠ [])
    (each : List.Forall₂ (fun key column => readSql column = some (key.tokens ++ [wordToken "asc"])) keys orderColumns) :
    readSql (orderClause orderColumns) = some (wordToken "order" :: wordToken "by" ::
      listTokens (keys.map fun key => key.tokens ++ [wordToken "asc"])) ∧ opens (orderClause orderColumns) := by
  have listed : orderColumns ≠ [] := by
    rintro rfl
    cases each
    exact filled rfl
  have opened : readSql " order by " = some [wordToken "order", wordToken "by"] := rfl
  rw [orderClause, if_neg listed]
  exact ⟨reads_lead (readSql_intercalate each) opened (by decide), opens_append (by decide)⟩

theorem readSql_condition {bound : Option (SortKey × String)} {tokens : List SqlToken} (spells : Spells clause bound)
    (read : readSql text = some tokens) (opened : opens text) :
    readSql (clause.condition ++ text) = some (boundTokens (bound.map (·.1)) ++ tokens) ∧
      opens (clause.condition ++ text) := by
  cases bound with
  | none =>
    rw [spells, IncrementalClause.none, String.empty_append]
    exact ⟨read, opened⟩
  | some bound => exact ⟨reads_follow spells.1 read opened, opens_append spells.2.1⟩

theorem readSql_paging (limit offset : Nat) :
    readSql (" limit " ++ (toString limit ++ (" offset " ++ toString offset))) =
      some (wordToken "limit" :: numberToken limit :: wordToken "offset" :: [numberToken offset]) := by
  have limited : readSql " limit " = some [wordToken "limit"] := rfl
  have shifted : readSql " offset " = some [wordToken "offset"] := rfl
  exact reads_lead (reads_follow (readSql_toString limit) (reads_lead (readSql_toString offset) shifted (by decide))
    (opens_append (by decide))) limited (by decide)

/-- The text of a page query reads as the statement for the mapping and the checkpoint, which has the
bound as its parameter. -/
theorem page_reads {checkpoint : MySqlSourceCheckpoint} {limit offset : Nat} {query : MySqlDocumentFetchQuery}
    (built : buildMysqlDocumentFetchPageQuery isUuid config mapping checkpoint limit offset = .ok query) :
    readSql query.sql =
        some (pageStatement config mapping (checkpoint.tableCheckpoint mapping.table) limit offset).tokens ∧
      query.params = (boundOf mapping (checkpoint.tableCheckpoint mapping.table)).toList.map (·.2) := by
  obtain ⟨-, rest⟩ := unit_bind_eq_ok.mp built
  obtain ⟨-, rest⟩ := unit_bind_eq_ok.mp rest
  obtain ⟨projections, cast, rest⟩ := bind_eq_ok.mp rest
  obtain ⟨clause, bounds, rest⟩ := bind_eq_ok.mp rest
  obtain ⟨orderColumns, ordered, rest⟩ := bind_eq_ok.mp rest
  obtain ⟨quoted, name, same⟩ := bind_eq_ok.mp rest
  cases same
  have spells := spells_incrementalClause bounds
  have selected : readSql "select " = some [wordToken "select"] := rfl
  have source : readSql " from " = some [wordToken "from"] := rfl
  obtain ⟨sorting, sorted⟩ := readSql_orderClause (orderOf_ne_nil _ _) (readSql_fetchOrder spells ordered)
  have paged := reads_follow sorting (readSql_paging (clampLimit limit config.mostRows) offset) (opens_append (by decide))
  obtain ⟨filtered, opened⟩ := readSql_condition spells paged (opens_append sorted)
  have whole := reads_lead (reads_follow (readSql_castColumns cast) (reads_lead (reads_follow (readSql_quoted name) filtered
    opened) source (by decide)) (opens_append (by decide))) selected (by decide)
  constructor
  · simpa [PageStatement.tokens, pageStatement, List.map_map, Function.comp_def] using whole
  · dsimp only
    cases bound : boundOf mapping (checkpoint.tableCheckpoint mapping.table) with
    | none =>
      rw [bound] at spells
      rw [spells]
      rfl
    | some found =>
      rw [bound] at spells
      exact spells.2.2.2.1

end Spelling

section Injection

variable {isUuid : String → Bool} {config : MySqlSourceConfig} {mapping : MySqlTableMapping} {names : List String}
  {sql : String} {params : List String}

/-- A key by one of the names. -/
structure IsNamed (names : List String) (key : SortKey) : Prop where
  name : key.name ∈ names
  digits : ∀ name digits, key = .decimal name digits → digits = "6" ∨ digits = "0"

theorem isConfined_decimal {digits : String} (few : digits = "6" ∨ digits = "0") :
    ∀ token ∈ decimalTokens digits, isConfined names token = true := by
  rcases few with rfl | rfl <;>
    exact fun token listed => isConfined_mono (List.all_eq_true.mp (by decide) token listed) (List.nil_subset _)

theorem isConfined_key {key : SortKey} (named : IsNamed names key) : ∀ token ∈ key.tokens, isConfined names token := by
  have known := isConfined_name named.name
  cases key with
  | column name => exact List.forall_mem_singleton.mpr known
  | decimal name digits =>
    exact List.forall_mem_cons.mpr ⟨rfl, List.forall_mem_cons.mpr ⟨rfl, List.forall_mem_cons.mpr ⟨known,
      isConfined_decimal (named.digits name digits rfl)⟩⟩⟩

theorem isConfined_bound {key : SortKey} (named : IsNamed names key) :
    ∀ token ∈ key.boundTokens, isConfined names token := by
  cases key with
  | column name => exact List.forall_mem_cons.mpr ⟨rfl, List.forall_mem_singleton.mpr rfl⟩
  | decimal name digits =>
    exact List.forall_mem_cons.mpr ⟨rfl, List.forall_mem_cons.mpr ⟨rfl, List.forall_mem_cons.mpr ⟨rfl,
      List.forall_mem_cons.mpr ⟨rfl, isConfined_decimal (named.digits name digits rfl)⟩⟩⟩⟩

theorem isNamed_keyOf {column : String} {digits : Option String} (listed : trim column ∈ names)
    (few : digits = none ∨ digits = some "6" ∨ digits = some "0") : IsNamed names (keyOf column digits) := by
  rcases few with rfl | rfl | rfl
  · exact ⟨listed, nofun⟩
  · exact ⟨listed, fun _ _ same => .inl (SortKey.decimal.inj same).2.symm⟩
  · exact ⟨listed, fun _ _ same => .inr (SortKey.decimal.inj same).2.symm⟩

theorem isNamed_boundOf {checkpoint : MySqlTableCheckpoint} {key : SortKey} {value : String}
    (found : boundOf mapping checkpoint = some (key, value)) : IsNamed (mappedNames mapping) key := by
  have on {bound column digits : Option String} (found : boundOn bound column digits = some (key, value))
      (listed : ∀ name ∈ column, trim name ∈ mappedNames mapping)
      (few : digits = none ∨ digits = some "6" ∨ digits = some "0") : IsNamed (mappedNames mapping) key := by
    obtain ⟨bound, -, found⟩ := Option.bind_eq_some_iff.mp found
    obtain ⟨column, here, same⟩ := Option.map_eq_some_iff.mp found
    rw [← (Prod.mk.inj same).1]
    exact isNamed_keyOf (listed column here) few
  rcases Option.or_eq_some_iff.mp found with byTime | ⟨-, later⟩
  · exact on byTime updatedAt_mapped (.inl rfl)
  · rcases Option.or_eq_some_iff.mp later with byVersion | ⟨-, single⟩
    · exact on byVersion version_mapped (.inr (.inl rfl))
    · split_ifs at single
      refine on single (fun name same => ?_) (.inr (.inr rfl))
      cases same
      exact id_mapped mapping

theorem isNamed_orderOf {bound : Option SortKey} (named : ∀ key ∈ bound, IsNamed (mappedNames mapping) key) :
    ∀ key ∈ orderOf mapping bound, IsNamed (mappedNames mapping) key := by
  have last : IsNamed (mappedNames mapping) (.column (trim mapping.idColumn)) := ⟨id_mapped mapping, nofun⟩
  cases bound with
  | none => exact List.forall_mem_singleton.mpr last
  | some key =>
    have first := named key rfl
    rw [orderOf]
    split_ifs
    · exact List.forall_mem_cons.mpr ⟨first, List.forall_mem_singleton.mpr last⟩
    · exact List.forall_mem_singleton.mpr first

theorem placeless_key (key : SortKey) : SqlToken.symbol '?' ∉ key.tokens := by
  cases key <;> simp [SortKey.tokens, decimalTokens, wordToken, nameToken]

theorem count_boundTokens (bound : Option SortKey) : (boundTokens bound).count (.symbol '?') = bound.toList.length := by
  cases bound with
  | none => rfl
  | some key =>
    have asked : key.boundTokens.count (.symbol '?') = 1 := by
      cases key <;> simp [SortKey.boundTokens, decimalTokens, wordToken]
    have compared : key.tokens.count (.symbol '?') = 0 := List.count_eq_zero.mpr (placeless_key key)
    simp [boundTokens, compared, asked, wordToken]

theorem count_tokens (statement : PageStatement) :
    statement.tokens.count (.symbol '?') = statement.bound.toList.length := by
  have columns : (listTokens (statement.columns.map castTokens)).count (.symbol '?') = 0 :=
    count_listTokens fun column _ => placeless_castTokens column
  have order : (listTokens (statement.order.map fun key => key.tokens ++ [wordToken "asc"])).count (.symbol '?') = 0 :=
    count_listTokens fun key _ => by simp [placeless_key, wordToken]
  have word (text : String) : wordToken text ≠ .symbol '?' := by simp [wordToken]
  have name (text : String) : nameToken text ≠ .symbol '?' := by simp [nameToken]
  have number (number : Nat) : numberToken number ≠ .symbol '?' := by simp [numberToken]
  simp [PageStatement.tokens, columns, order, count_boundTokens, word, name, number]

theorem isConfined_tokens {statement : PageStatement} (listed : ∀ column ∈ statement.columns, column ∈ names)
    (source : statement.table ∈ names) (bounded : ∀ key ∈ statement.bound, IsNamed names key)
    (ordered : ∀ key ∈ statement.order, IsNamed names key) : ∀ token ∈ statement.tokens, isConfined names token := by
  have columns : ∀ token ∈ listTokens (statement.columns.map castTokens), isConfined names token :=
    isConfined_listTokens fun column known => isConfined_castTokens (listed column known)
  have order : ∀ token ∈ listTokens (statement.order.map fun key => key.tokens ++ [wordToken "asc"]),
      isConfined names token :=
    isConfined_listTokens fun key known =>
      List.forall_mem_append.mpr ⟨isConfined_key (ordered key known), List.forall_mem_singleton.mpr rfl⟩
  have bound : ∀ token ∈ boundTokens statement.bound, isConfined names token := by
    cases some : statement.bound with
    | none => exact nofun
    | some key =>
      have named := bounded key some
      exact List.forall_mem_cons.mpr ⟨rfl, List.forall_mem_append.mpr ⟨isConfined_key named, isConfined_bound named⟩⟩
  simp only [PageStatement.tokens, List.forall_mem_cons, List.forall_mem_append]
  exact ⟨rfl, columns, rfl, isConfined_name source, bound, rfl, rfl, order, rfl, isConfined_number _, rfl,
    isConfined_number _, nofun⟩

theorem page_confined {checkpoint : MySqlSourceCheckpoint} {limit offset : Nat} {query : MySqlDocumentFetchQuery}
    (built : buildMysqlDocumentFetchPageQuery isUuid config mapping checkpoint limit offset = .ok query) :
    Confined (mappedNames mapping) query.params.length query.sql := by
  obtain ⟨read, params⟩ := page_reads built
  have named : ∀ key ∈ (boundOf mapping (checkpoint.tableCheckpoint mapping.table)).map (·.1),
      IsNamed (mappedNames mapping) key := fun key bounded => by
    obtain ⟨⟨key, value⟩, found, rfl⟩ := Option.map_eq_some_iff.mp bounded
    exact isNamed_boundOf found
  refine confined_read read (isConfined_tokens (fun column listed => ?_) (table_mapped mapping) named
    (isNamed_orderOf named)) ?_
  · obtain ⟨column, known, rfl⟩ := List.mem_map.mp listed
    exact preview_mapped known
  · rw [count_tokens, params, List.length_map, pageStatement]
    cases boundOf mapping (checkpoint.tableCheckpoint mapping.table) <;> rfl

/-- The text and the parameters of a query that is sent to the server, and the mapping it is built for. -/
inductive Issued (isUuid : String → Bool) (config : MySqlSourceConfig) : MySqlTableMapping → String → List String → Prop where
  | preview {table : String} {limit : Nat} {mapping : MySqlTableMapping} {query : MySqlTablePreviewQuery}
      (named : allowedTable config table = .ok mapping)
      (built : buildMysqlTablePreviewQuery isUuid config table limit = .ok query) : Issued isUuid config mapping query.sql []
  | aggregate {request : MySqlAggregateRequest} {mapping : MySqlTableMapping} {query : MySqlAggregateQuery}
      (named : allowedTable config request.table = .ok mapping)
      (built : buildMysqlAggregateQuery isUuid config request = .ok query) : Issued isUuid config mapping query.sql []
  | page {mapping : MySqlTableMapping} {checkpoint : MySqlSourceCheckpoint} {limit offset : Nat}
      {query : MySqlDocumentFetchQuery}
      (built : buildMysqlDocumentFetchPageQuery isUuid config mapping checkpoint limit offset = .ok query) :
      Issued isUuid config mapping query.sql query.params

/-- Whatever is configured, asked for or kept as a checkpoint, the text of a query reads as fixed words, numbers and
symbols and the quoted names of the mapping; every value from outside is a parameter with a place of its own. -/
theorem queries_confined (issued : Issued isUuid config mapping sql params) :
    Confined (mappedNames mapping) params.length sql := by
  cases issued with
  | preview named built => exact preview_confined named built
  | aggregate named built => exact aggregate_confined named built
  | page built => exact page_confined built

def noteMapping : MySqlTableMapping where
  table := "notes"
  objectType := "note"
  idColumn := "id"
  idColumns := []
  titleColumn := some "title"
  contentColumns := ["body"]
  contentType := "text/plain"
  updatedAtColumn := some "updated_at"
  versionColumn := none
  metadataColumns := []

def noteConfig : MySqlSourceConfig where
  connectionEnv := "NOTES_DSN"
  database := "notes"
  timeoutMs := 1000
  rowLimit := 100
  pageSize := 2
  defaultDatasetId := none
  tables := [noteMapping]

/-- A checkpoint that would end a literal is a parameter like any other. -/
theorem hostile_page_confined : ∃ query, buildMysqlDocumentFetchPageQuery (fun _ => false) noteConfig noteMapping
    ⟨⟨some "'; drop table `notes`; --", none, none⟩, .empty⟩ 10 0 = .ok query ∧
      query.params = ["'; drop table `notes`; --"] ∧ Confined (mappedNames noteMapping) query.params.length query.sql := by
  obtain ⟨query, built, params⟩ : ∃ query, buildMysqlDocumentFetchPageQuery (fun _ => false) noteConfig noteMapping
      ⟨⟨some "'; drop table `notes`; --", none, none⟩, .empty⟩ 10 0 = .ok query ∧
        query.params = ["'; drop table `notes`; --"] := ⟨_, rfl, rfl⟩
  exact ⟨query, built, params, queries_confined (.page built)⟩

end Injection

end DataMax.MySqlSource
