import DataMax.Library.Champion
import DataMax.Library.Decimal
import DataMax.MySqlSource.Documents

/-! The checkpoint of a run over MySQL tables: for each table the greatest values that its rows had. -/

namespace DataMax.MySqlSource

open Domain Json Library

/-- The double of these bits as a place among all others. -/
def doubleOf (bits : UInt64) : Float64 :=
  if bounded : rankOf bits ≤ infinityRank then
    .ranked (if isNegative bits then -rankOf bits else rankOf bits) (by split <;> simpa using bounded)
  else .nan

def exceedsText (candidate current : String) : Bool := current < candidate

def exceedsNumericOrText (candidate current : String) : Bool := match parseF64 candidate, parseF64 current with
  | some candidate, some current => (doubleOf current).lt (doubleOf candidate)
  | _, _ => current < candidate

/-- The entry keeps the value that it has unless the candidate exceeds it. -/
def updateJsonCheckpointMax (exceeds : String → String → Bool) (entry : Map) (key candidate : String) : Map :=
  let shouldReplace := (((entry.get? key).bind Value.asStr).map (exceeds candidate)).getD true
  if shouldReplace then entry.insert key (.string candidate) else entry

def updateJsonCheckpointMaxString : Map → String → String → Map := updateJsonCheckpointMax exceedsText

def updateJsonCheckpointMaxNumericOrString : Map → String → String → Map := updateJsonCheckpointMax exceedsNumericOrText

def updateMysqlCheckpointTablesFromValues (mapping : MySqlTableMapping) (checkpointTables : SortedMap String Map)
    (values : RowValues) : SortedMap String Map :=
  let entry := (checkpointTables.get? mapping.table).getD .empty
  let entry := (filledValue values mapping.updatedAtColumn).elim entry (updateJsonCheckpointMaxString entry "updated_after")
  let entry := (filledValue values mapping.versionColumn).elim entry
    (updateJsonCheckpointMaxNumericOrString entry "version_after")
  let entry := if (mappingIdentityColumns mapping).length = 1 then
      (filledValue values (some mapping.idColumn)).elim entry (updateJsonCheckpointMaxNumericOrString entry "last_id")
    else entry
  checkpointTables.insert mapping.table entry

/-- The entry of the table after its rows. -/
def checkpointEntry (mapping : MySqlTableMapping) (rows : List RowValues) (key : String) : Option Value :=
  ((rows.foldl (updateMysqlCheckpointTablesFromValues mapping) .empty).get? mapping.table).bind (·.get? key)

/-- The keys of an entry, with the order in which each one grows. -/
inductive CheckpointKey where
  | updatedAfter
  | versionAfter
  | lastId

namespace CheckpointKey

def name : CheckpointKey → String
  | updatedAfter => "updated_after"
  | versionAfter => "version_after"
  | lastId => "last_id"

def exceeds : CheckpointKey → String → String → Bool
  | updatedAfter => exceedsText
  | _ => exceedsNumericOrText

/-- What a row has for the key. -/
def rowValue (mapping : MySqlTableMapping) (values : RowValues) : CheckpointKey → Option String
  | updatedAfter => filledValue values mapping.updatedAtColumn
  | versionAfter => filledValue values mapping.versionColumn
  | lastId => if (mappingIdentityColumns mapping).length = 1 then filledValue values (some mapping.idColumn) else none

end CheckpointKey

section Entries

variable {mapping : MySqlTableMapping} {exceeds : String → String → Bool} {entry : Map} {key candidate : String} {kept : Option String}

/-- The kept value, or the row's if it exceeds it. -/
def keepRow (exceeds : String → String → Bool) (kept value : Option String) : Option String :=
  value.elim kept (keepBetter exceeds kept)

theorem get?_updateJsonCheckpointMax (same : entry.get? key = kept.map .string) (value : Option String) :
    (value.elim entry (updateJsonCheckpointMax exceeds entry key)).get? key = (keepRow exceeds kept value).map .string := by
  cases value with
  | none => exact same
  | some candidate =>
    rw [Option.elim_some, updateJsonCheckpointMax, same, keepRow, Option.elim_some, keepBetter]
    cases kept with
    | none => simp
    | some current => cases more : exceeds candidate current <;> simp [more, same, Value.asStr]

theorem get?_updateJsonCheckpointMax_other {other : String} (differs : other ≠ key) (value : Option String) :
    (value.elim entry (updateJsonCheckpointMax exceeds entry key)).get? other = entry.get? other := by
  cases value with
  | none => rfl
  | some candidate =>
    rw [Option.elim_some, updateJsonCheckpointMax]
    split
    · exact SortedMap.get?_insert_other _ _ differs
    · rfl

/-- One row changes each key by its own value only. -/
theorem get?_updateMysqlCheckpointTables {checkpointTables : SortedMap String Map} (key : CheckpointKey)
    (same : (checkpointTables.get? mapping.table).bind (·.get? key.name) = kept.map .string) (values : RowValues) :
    ((updateMysqlCheckpointTablesFromValues mapping checkpointTables values).get? mapping.table).bind (·.get? key.name) =
      (keepRow key.exceeds kept (key.rowValue mapping values)).map .string := by
  have own : ((checkpointTables.get? mapping.table).getD .empty).get? key.name = kept.map .string := by
    rw [← same]
    cases checkpointTables.get? mapping.table <;> rfl
  rw [updateMysqlCheckpointTablesFromValues, SortedMap.get?_insert_self, Option.bind_some]
  cases key with
  | updatedAfter =>
    refine Eq.trans ?_ (get?_updateJsonCheckpointMax own (filledValue values mapping.updatedAtColumn))
    split
    · exact (get?_updateJsonCheckpointMax_other (by decide) _).trans (get?_updateJsonCheckpointMax_other (by decide) _)
    · exact get?_updateJsonCheckpointMax_other (by decide) _
  | versionAfter =>
    have before : ((filledValue values mapping.updatedAtColumn).elim _
        (updateJsonCheckpointMaxString _ "updated_after")).get? CheckpointKey.versionAfter.name = kept.map .string :=
      (get?_updateJsonCheckpointMax_other (by decide) _).trans own
    refine Eq.trans ?_ (get?_updateJsonCheckpointMax before (filledValue values mapping.versionColumn))
    split
    · exact get?_updateJsonCheckpointMax_other (by decide) _
    · rfl
  | lastId =>
    have first : ((filledValue values mapping.updatedAtColumn).elim _
        (updateJsonCheckpointMaxString _ "updated_after")).get? CheckpointKey.lastId.name = kept.map .string :=
      (get?_updateJsonCheckpointMax_other (by decide) _).trans own
    have before : ((filledValue values mapping.versionColumn).elim _
        (updateJsonCheckpointMaxNumericOrString _ "version_after")).get? CheckpointKey.lastId.name = kept.map .string :=
      (get?_updateJsonCheckpointMax_other (by decide) _).trans first
    rw [CheckpointKey.rowValue]
    split
    · exact get?_updateJsonCheckpointMax before (filledValue values (some mapping.idColumn))
    · exact before

/-- After all rows a key has what the best of their values is, each one kept until another exceeds it. -/
theorem checkpointEntry_eq (mapping : MySqlTableMapping) (rows : List RowValues) (key : CheckpointKey) :
    checkpointEntry mapping rows key.name =
      (champion key.exceeds (rows.filterMap fun values => key.rowValue mapping values)).map .string := by
  have run : ∀ (tables : SortedMap String Map) (kept : Option String),
      (tables.get? mapping.table).bind (·.get? key.name) = kept.map .string →
      ((rows.foldl (updateMysqlCheckpointTablesFromValues mapping) tables).get? mapping.table).bind (·.get? key.name) =
        ((rows.filterMap fun values => key.rowValue mapping values).foldl (keepBetter key.exceeds) kept).map .string := by
    induction rows with
    | nil => exact fun _ _ same => same
    | cons values rest ih =>
      intro tables kept same
      rw [List.foldl_cons, ih _ _ (get?_updateMysqlCheckpointTables key same values), List.filterMap_cons]
      cases key.rowValue mapping values <;> rfl
  exact run .empty none rfl

end Entries

section Maxima

variable {mapping : MySqlTableMapping} {rows : List RowValues}

/-- The values that rows have for a key. -/
def keyValues (mapping : MySqlTableMapping) (rows : List RowValues) (key : CheckpointKey) : List String :=
  rows.filterMap fun values => key.rowValue mapping values

/-- Each key has a greatest value of the rows, in whatever order they come. -/
def CheckpointIsMaximum (mapping : MySqlTableMapping) (rows : List RowValues) : Prop := ∀ key : CheckpointKey,
  (∀ others, others.Perm rows → checkpointEntry mapping others key.name = checkpointEntry mapping rows key.name) ∧
    ∀ entry, checkpointEntry mapping rows key.name = some entry → ∃ value ∈ keyValues mapping rows key, entry = .string value ∧
      ∀ other ∈ keyValues mapping rows key, key.exceeds other value = false

theorem double_lt_asymm {left right : Float64} (less : left.lt right = true) : right.lt left = false := by
  cases left with
  | nan => cases less
  | ranked rank _ =>
    cases right with
    | nan => cases less
    | ranked other _ =>
      simp only [Float64.lt, Float64.partialCmp, beq_iff_eq, Option.some.injEq] at less
      have more := Std.OrientedCmp.gt_iff_lt.mpr less
      simp [Float64.lt, Float64.partialCmp, more]

theorem exceeds_asymm (key : CheckpointKey) (first second : String) (exceeds : key.exceeds first second = true) :
    key.exceeds second first = false := by
  have texts {first second : String} (greater : decide (second < first) = true) : decide (first < second) = false :=
    decide_eq_false (String.lt_asymm (of_decide_eq_true greater))
  cases key with
  | updatedAfter => exact texts exceeds
  | _ =>
    simp only [CheckpointKey.exceeds, exceedsNumericOrText] at exceeds ⊢
    split at exceeds
    · rename_i one two
      simp only [one, two]
      exact double_lt_asymm exceeds
    · rename_i other
      split
      · rename_i one two
        exact absurd one (other _ _ two)
      · exact texts exceeds

/-- The values of rows come in every order. -/
theorem exists_perm_filterMap {Item Value : Type} {view : Item → Option Value} {values others : List Value}
    (perm : others.Perm values) (items : List Item) (same : items.filterMap view = values) :
    ∃ moved : List Item, moved.Perm items ∧ moved.filterMap view = others := by
  have silent {skipped : List Item} (blank : ∀ item ∈ skipped, view item = none) : skipped.filterMap view = [] :=
    List.filterMap_eq_nil_iff.mpr blank
  induction perm generalizing items with
  | nil => exact ⟨items, .refl items, same⟩
  | cons value perm ih =>
    obtain ⟨skipped, item, rest, rfl, blank, found, later⟩ := List.filterMap_eq_cons_iff.mp same
    obtain ⟨moved, order, shown⟩ := ih rest later
    exact ⟨skipped ++ item :: moved, (order.cons item).append_left skipped, by simp [silent blank, found, shown]⟩
  | swap first second others =>
    obtain ⟨skipped, item, rest, rfl, blank, found, later⟩ := List.filterMap_eq_cons_iff.mp same
    obtain ⟨between, next, rest, rfl, alsoBlank, alsoFound, later⟩ := List.filterMap_eq_cons_iff.mp later
    refine ⟨skipped ++ (between ++ next :: item :: rest), List.Perm.append_left skipped ?_,
      by simp [silent blank, silent alsoBlank, found, alsoFound, later]⟩
    exact ((List.Perm.swap item next rest).append_left between).trans List.perm_middle
  | trans perm later ih laterIh =>
    obtain ⟨moved, order, shown⟩ := laterIh items same
    obtain ⟨again, further, shown⟩ := ih moved shown
    exact ⟨again, further.trans order, shown⟩

/-- There are no values, or one that exceeds every other. -/
def HasGreatest (mapping : MySqlTableMapping) (rows : List RowValues) (key : CheckpointKey) : Prop :=
  keyValues mapping rows key = [] ∨ ∃ best, IsChampion key.exceeds (keyValues mapping rows key) best

/-- A key has its maximum in every order exactly where one value exceeds all others. -/
theorem key_maximum_iff (key : CheckpointKey) :
    ((∀ others, others.Perm rows → checkpointEntry mapping others key.name = checkpointEntry mapping rows key.name) ∧
      ∀ entry, checkpointEntry mapping rows key.name = some entry → ∃ value ∈ keyValues mapping rows key, entry = .string value ∧
        ∀ other ∈ keyValues mapping rows key, key.exceeds other value = false) ↔ HasGreatest mapping rows key := by
  have strings : Function.Injective (Option.map Value.string) := Option.map_injective fun _ _ same => Value.string.inj same
  rw [HasGreatest, ← champion_maximum_iff (exceeds_asymm key)]
  simp only [checkpointEntry_eq, strings.eq_iff]
  refine and_congr ⟨fun ordered others perm => ?_, fun ordered others perm => ordered _ (perm.filterMap _)⟩ ?_
  · obtain ⟨moved, order, rfl⟩ := exists_perm_filterMap perm rows rfl
    exact ordered moved order
  · constructor
    · intro greatest best won
      obtain ⟨value, listed, same, unbeaten⟩ := greatest (.string best) (by rw [keyValues] at won; rw [won]; rfl)
      obtain rfl := Value.string.inj same
      exact ⟨listed, unbeaten⟩
    · intro greatest entry kept
      obtain ⟨best, won, rfl⟩ := Option.map_eq_some_iff.mp kept
      exact ⟨best, (greatest best won).1, rfl, (greatest best won).2⟩

/-- Times are compared as texts, and texts always have a greatest. -/
theorem updatedAfter_greatest (mapping : MySqlTableMapping) (rows : List RowValues) : HasGreatest mapping rows .updatedAfter := by
  rw [HasGreatest, or_iff_not_imp_left]
  intro filled
  refine exists_champion (fun first second other => ?_) (fun first second third greater more => ?_) filled
  · rcases String.le_total first second with less | more
    · exact .inr (decide_eq_true (Std.lt_of_le_of_ne less other))
    · exact .inl (decide_eq_true (Std.lt_of_le_of_ne more (Ne.symm other)))
  · exact decide_eq_true (String.lt_trans (of_decide_eq_true more) (of_decide_eq_true greater))

/-- The checkpoint is a maximum exactly where one version and one id exceed all others. -/
theorem checkpoint_maximum_iff (mapping : MySqlTableMapping) (rows : List RowValues) : CheckpointIsMaximum mapping rows ↔
    HasGreatest mapping rows .versionAfter ∧ HasGreatest mapping rows .lastId := by
  rw [CheckpointIsMaximum]
  simp only [key_maximum_iff]
  constructor
  · intro greatest
    exact ⟨greatest .versionAfter, greatest .lastId⟩
  · intro both key
    cases key with
    | updatedAfter => exact updatedAfter_greatest mapping rows
    | versionAfter => exact both.1
    | lastId => exact both.2

def orderMapping : MySqlTableMapping where
  table := "orders"
  objectType := "order"
  idColumn := "id"
  idColumns := []
  titleColumn := none
  contentColumns := ["body"]
  contentType := "text/plain"
  updatedAtColumn := none
  versionColumn := none
  metadataColumns := []

/-- Ten is more than nine as a number, nine more than `1a` as a text, and `1a` more than ten. -/
theorem checkpoint_cycle : ¬ ∀ mapping rows, CheckpointIsMaximum mapping rows := by
  intro always
  let ten : RowValues := .ofList [("id", "10")]
  let others : List RowValues := [.ofList [("id", "9")], .ofList [("id", "1a")]]
  have moved := (always orderMapping (ten :: others) .lastId).1 (others ++ [ten]) (List.perm_append_singleton ten others)
  have last : champion exceedsNumericOrText (keyValues orderMapping (ten :: others) .lastId) = some "1a" := by decide +kernel
  have first : champion exceedsNumericOrText (keyValues orderMapping (others ++ [ten]) .lastId) = some "10" := by decide +kernel
  rw [checkpointEntry_eq, checkpointEntry_eq] at moved
  rw [keyValues] at first last
  simp only [CheckpointKey.exceeds, first, last, Option.map_some, Option.some.injEq, Value.string.injEq] at moved
  exact absurd moved (by decide)

end Maxima

end DataMax.MySqlSource
