import Mathlib.Data.List.Nodup
import Mathlib.Data.List.Basic

/-! Tables with a primary key and one more unique key, and the statements that
change them: updates with a condition and inserts that update on a conflict. -/

namespace DataMax.Library

universe u v w

variable {Row : Type u} {Id : Type v} {Key : Type w}

structure Schema (Row : Type u) (Id : Type v) (Key : Type w) where
  identity : Row → Id
  key : Row → Key

structure Table (schema : Schema Row Id Key) where
  rows : List Row
  identities : (rows.map schema.identity).Nodup
  keys : (rows.map schema.key).Nodup

/-- A change of a row that leaves both of its keys alone. -/
structure Change (schema : Schema Row Id Key) where
  apply : Row → Row
  identity : ∀ row, schema.identity (apply row) = schema.identity row := by intro row; rfl
  key : ∀ row, schema.key (apply row) = schema.key row := by intro row; rfl

variable {schema : Schema Row Id Key}

/-- The change restricted to the rows that meet the condition. -/
def Change.on (change : Change schema) (condition : Row → Bool) (row : Row) : Row :=
  if condition row then change.apply row else row

@[simp] theorem Change.identity_on (change : Change schema) (condition : Row → Bool) (row : Row) :
    schema.identity (change.on condition row) = schema.identity row := by
  unfold Change.on
  split
  · exact change.identity row
  · rfl

@[simp] theorem Change.key_on (change : Change schema) (condition : Row → Bool) (row : Row) :
    schema.key (change.on condition row) = schema.key row := by
  unfold Change.on
  split
  · exact change.key row
  · rfl

/-- A row that the change moved met the condition. -/
theorem Change.on_cases (change : Change schema) (condition : Row → Bool) (row : Row) :
    condition row = true ∧ change.on condition row = change.apply row ∨
      condition row = false ∧ change.on condition row = row := by
  cases met : condition row with
  | true => exact .inl ⟨rfl, by simp [Change.on, met]⟩
  | false => exact .inr ⟨rfl, by simp [Change.on, met]⟩

/-- `order by .. limit 1`: the first row by the order, among equals the one
that stands first. -/
def firstBy (before : Row → Row → Bool) : List Row → Option Row
  | [] => none
  | row :: rest => match firstBy before rest with
    | none => some row
    | some best => if before best row then some best else some row

theorem firstBy_mem {before : Row → Row → Bool} {rows : List Row} (found : firstBy before rows = some row) :
    row ∈ rows := by
  induction rows with
  | nil => cases found
  | cons head rest ih =>
    cases later : firstBy before rest with
    | none =>
      simp only [firstBy, later] at found
      cases found
      exact List.mem_cons_self
    | some best =>
      simp only [firstBy, later] at found
      split at found
      · cases found
        exact List.mem_cons_of_mem head (ih later)
      · cases found
        exact List.mem_cons_self

/-- A row that comes before all others is the first one, wherever it stands. -/
theorem firstBy_eq_some {before : Row → Row → Bool} {rows : List Row} (member : row ∈ rows)
    (wins : ∀ other ∈ rows, other ≠ row → before row other = true ∧ before other row = false) :
    firstBy before rows = some row := by
  induction rows with
  | nil => cases member
  | cons head rest ih =>
    have winsRest : ∀ other ∈ rest, other ≠ row → before row other = true ∧ before other row = false :=
      fun other later => wins other (List.mem_cons_of_mem head later)
    by_cases later : row ∈ rest
    · simp only [firstBy, ih later winsRest]
      by_cases same : head = row
      · simp [same]
      · rw [if_pos (wins head List.mem_cons_self same).1]
    · have same : row = head := (List.mem_cons.mp member).resolve_right later
      cases found : firstBy before rest with
      | none => simp only [firstBy, found, same]
      | some best =>
        have inside := firstBy_mem found
        have other : best ≠ row := fun equal => later (equal ▸ inside)
        have loses := (winsRest best inside other).2
        rw [same] at loses
        simp [firstBy, found, loses, same]

/-- Nothing comes before the row that is found, if the order is a strict weak one. -/
theorem firstBy_first {before : Row → Row → Bool} {rows : List Row}
    (asymm : ∀ left right, before left right = true → before right left = false)
    (negative : ∀ left middle right, before left middle = false → before middle right = false →
      before left right = false)
    (found : firstBy before rows = some row) : ∀ other ∈ rows, before other row = false := by
  have irrefl : ∀ self, before self self = false := by
    intro self
    cases reflexive : before self self with
    | false => rfl
    | true => exact reflexive.symm.trans (asymm self self reflexive)
  induction rows generalizing row with
  | nil => simp
  | cons head rest ih =>
    intro other member
    cases later : firstBy before rest with
    | none =>
      simp only [firstBy, later, Option.some.injEq] at found
      subst head
      cases rest with
      | nil =>
        rw [List.mem_singleton.mp member]
        exact irrefl row
      | cons next others =>
        simp only [firstBy] at later
        split at later
        · cases later
        · split at later <;> cases later
    | some best =>
      simp only [firstBy, later] at found
      split at found
      · rename_i first
        cases found
        rcases List.mem_cons.mp member with same | inside
        · rw [same]
          exact asymm row head first
        · exact ih later other inside
      · rename_i notFirst
        cases found
        rcases List.mem_cons.mp member with same | inside
        · rw [same]
          exact irrefl head
        · exact negative other best head (ih later other inside) (by simpa using notFirst)

namespace Table

def empty : Table schema := ⟨[], .nil, .nil⟩

/-- `update .. where condition`. -/
def update (table : Table schema) (condition : Row → Bool) (change : Change schema) : Table schema where
  rows := table.rows.map (change.on condition)
  identities := by
    have same : schema.identity ∘ change.on condition = schema.identity :=
      funext (change.identity_on condition)
    rw [List.map_map, same]
    exact table.identities
  keys := by
    have same : schema.key ∘ change.on condition = schema.key := funext (change.key_on condition)
    rw [List.map_map, same]
    exact table.keys

/-- The changed rows, as `returning` hands them out. -/
def returning (table : Table schema) (condition : Row → Bool) (change : Change schema) : List Row :=
  (table.rows.filter condition).map change.apply

theorem mem_update {table : Table schema} {condition : Row → Bool} {change : Change schema} :
    row ∈ (table.update condition change).rows ↔ ∃ old ∈ table.rows, change.on condition old = row :=
  List.mem_map

theorem returning_head_none {table : Table schema} {condition : Row → Bool} {change : Change schema} :
    (table.returning condition change).head? = none ↔ ∀ row ∈ table.rows, condition row = false := by
  simp [returning]

/-- A statement that selects by the primary key hands out the row it has changed. -/
theorem returning_head_some {table : Table schema} {condition : Row → Bool} {change : Change schema}
    {identity : Id} (single : ∀ row, condition row = true → schema.identity row = identity) {row : Row} :
    (table.returning condition change).head? = some row ↔
      ∃ old ∈ table.rows, condition old = true ∧ change.apply old = row := by
  constructor
  · intro found
    obtain ⟨old, member, same⟩ := List.mem_map.mp (List.mem_of_mem_head? found)
    obtain ⟨inside, met⟩ := List.mem_filter.mp member
    exact ⟨old, inside, met, same⟩
  · rintro ⟨old, member, met, rfl⟩
    cases found : (table.returning condition change).head? with
    | none =>
      have unmet := returning_head_none.mp found old member
      rw [met] at unmet
      cases unmet
    | some other =>
      obtain ⟨source, inside, same⟩ := List.mem_map.mp (List.mem_of_mem_head? found)
      obtain ⟨sourceMember, sourceMet⟩ := List.mem_filter.mp inside
      have equal : source = old := List.inj_on_of_nodup_map table.identities sourceMember member
        ((single source sourceMet).trans (single old met).symm)
      rw [← same, equal]

/-- What the change keeps for the rows it moves, the update keeps for the table. -/
theorem forall_update {table : Table schema} {condition : Row → Bool} {change : Change schema}
    {holds : Row → Prop} (all : ∀ row ∈ table.rows, holds row)
    (kept : ∀ row ∈ table.rows, condition row = true → holds row → holds (change.apply row)) :
    ∀ row ∈ (table.update condition change).rows, holds row := by
  intro row member
  obtain ⟨old, oldMember, rfl⟩ := mem_update.mp member
  rcases change.on_cases condition old with ⟨met, same⟩ | ⟨unmet, same⟩
  · rw [same]
    exact kept old oldMember met (all old oldMember)
  · rw [same]
    exact all old oldMember

theorem identity_inj (table : Table schema) {first second : Row} (left : first ∈ table.rows)
    (right : second ∈ table.rows) (same : schema.identity first = schema.identity second) :
    first = second :=
  List.inj_on_of_nodup_map table.identities left right same

/-- An update of one row leaves the others as they are. -/
theorem mem_update_single {table : Table schema} {condition : Row → Bool} {change : Change schema} {old : Row}
    (member : old ∈ table.rows) (selects : ∀ row ∈ table.rows, condition row = true ↔ row = old) {row : Row} :
    row ∈ (table.update condition change).rows ↔ row = change.apply old ∨ row ∈ table.rows ∧ row ≠ old := by
  rw [mem_update]
  constructor
  · intro changed
    obtain ⟨before, inside, rfl⟩ := changed
    rcases change.on_cases condition before with ⟨met, same⟩ | ⟨unmet, same⟩
    · rw [same, (selects before inside).mp met]
      exact .inl rfl
    · rw [same]
      refine .inr ⟨inside, fun equal => ?_⟩
      rw [(selects before inside).mpr equal] at unmet
      cases unmet
  · intro found
    rcases found with rfl | ⟨inside, other⟩
    · exact ⟨old, member, if_pos ((selects old member).mpr rfl)⟩
    · exact ⟨row, inside, if_neg fun met => other ((selects row inside).mp met)⟩

theorem key_inj (table : Table schema) {first second : Row} (left : first ∈ table.rows)
    (right : second ∈ table.rows) (same : schema.key first = schema.key second) : first = second :=
  List.inj_on_of_nodup_map table.keys left right same

/-- Searching by a value that no two rows share finds the one row that has it. -/
theorem find?_unique {Part : Type w} [DecidableEq Part] {rows : List Row} {part : Row → Part}
    (distinct : (rows.map part).Nodup) {value : Part} :
    (rows.find? fun row => part row = value) = some row ↔ row ∈ rows ∧ part row = value := by
  constructor
  · intro found
    exact ⟨List.mem_of_find?_eq_some found, by simpa using List.find?_some found⟩
  · rintro ⟨member, same⟩
    cases found : rows.find? fun row => part row = value with
    | none =>
      have absent := List.find?_eq_none.mp found row member
      simp [same] at absent
    | some other =>
      have otherMember := List.mem_of_find?_eq_some found
      have otherSame : part other = value := by simpa using List.find?_some found
      rw [List.inj_on_of_nodup_map distinct member otherMember (same.trans otherSame.symm)]

section Identity

variable [DecidableEq Id]

def findIdentity (table : Table schema) (identity : Id) : Option Row :=
  table.rows.find? fun row => schema.identity row = identity

theorem findIdentity_eq_some {table : Table schema} {identity : Id} :
    table.findIdentity identity = some row ↔ row ∈ table.rows ∧ schema.identity row = identity :=
  find?_unique table.identities

@[simp] theorem findIdentity_update (table : Table schema) (condition : Row → Bool)
    (change : Change schema) (identity : Id) :
    (table.update condition change).findIdentity identity =
      (table.findIdentity identity).map (change.on condition) := by
  simp only [findIdentity, update, List.find?_map, Function.comp_def, change.identity_on]

end Identity

section Key

variable [DecidableEq Key]

def findKey (table : Table schema) (key : Key) : Option Row :=
  table.rows.find? fun row => schema.key row = key

theorem findKey_eq_some {table : Table schema} {key : Key} :
    table.findKey key = some row ↔ row ∈ table.rows ∧ schema.key row = key :=
  find?_unique table.keys

theorem findKey_eq_none {table : Table schema} {key : Key} :
    table.findKey key = none ↔ ∀ row ∈ table.rows, schema.key row ≠ key := by
  simp [findKey]

end Key

def append (table : Table schema) (row : Row)
    (newIdentity : schema.identity row ∉ table.rows.map schema.identity)
    (newKey : schema.key row ∉ table.rows.map schema.key) : Table schema where
  rows := table.rows ++ [row]
  identities := by
    rw [List.map_append]
    exact table.identities.append (by simp) (by simpa using newIdentity)
  keys := by
    rw [List.map_append]
    exact table.keys.append (by simp) (by simpa using newKey)

inductive Insertion (schema : Schema Row Id Key) where
  | refused
  | skipped
  | updated (table : Table schema) (row : Row)
  | inserted (table : Table schema) (row : Row)

variable [DecidableEq Id] [DecidableEq Key]

/-- `insert .. on conflict (key) do update .. where condition`. Without a
conflict the row has to be admitted and its identity has to be new. -/
def insertOrUpdate (table : Table schema) (row : Row) (admitted : Bool) (condition : Row → Bool)
    (change : Change schema) : Insertion schema :=
  match found : table.findKey (schema.key row) with
  | some existing =>
    if condition existing then
      .updated (table.update (fun other => schema.key other = schema.key row) change) (change.apply existing)
    else .skipped
  | none =>
    if fresh : admitted = true ∧ schema.identity row ∉ table.rows.map schema.identity then
      .inserted (table.append row fresh.2 (by
        intro clash
        obtain ⟨other, member, same⟩ := List.mem_map.mp clash
        exact findKey_eq_none.mp found other member same)) row
    else .refused

theorem insertOrUpdate_updated {table after : Table schema} {row returned : Row} {admitted : Bool}
    {condition : Row → Bool} {change : Change schema}
    (outcome : table.insertOrUpdate row admitted condition change = .updated after returned) :
    ∃ existing ∈ table.rows, schema.key existing = schema.key row ∧ condition existing = true ∧
      after = table.update (fun other => schema.key other = schema.key row) change ∧
      returned = change.apply existing := by
  unfold insertOrUpdate at outcome
  split at outcome
  · rename_i existing found
    obtain ⟨member, same⟩ := findKey_eq_some.mp found
    split at outcome
    · rename_i met
      cases outcome
      exact ⟨existing, member, same, met, rfl, rfl⟩
    · cases outcome
  · split at outcome <;> cases outcome

theorem insertOrUpdate_skipped {table : Table schema} {row : Row} {admitted : Bool}
    {condition : Row → Bool} {change : Change schema}
    (outcome : table.insertOrUpdate row admitted condition change = .skipped) :
    ∃ existing, table.findKey (schema.key row) = some existing ∧ condition existing = false := by
  unfold insertOrUpdate at outcome
  split at outcome
  · rename_i existing found
    split at outcome
    · cases outcome
    · rename_i unmet
      exact ⟨existing, found, Bool.eq_false_iff.mpr unmet⟩
  · split at outcome <;> cases outcome

theorem insertOrUpdate_refused {table : Table schema} {row : Row} {admitted : Bool}
    {condition : Row → Bool} {change : Change schema}
    (outcome : table.insertOrUpdate row admitted condition change = .refused) :
    table.findKey (schema.key row) = none ∧
      ¬ (admitted = true ∧ schema.identity row ∉ table.rows.map schema.identity) := by
  unfold insertOrUpdate at outcome
  split at outcome
  · split at outcome <;> cases outcome
  · rename_i absent
    split at outcome
    · cases outcome
    · rename_i refused
      exact ⟨absent, refused⟩

theorem insertOrUpdate_inserted {table after : Table schema} {row returned : Row} {admitted : Bool}
    {condition : Row → Bool} {change : Change schema}
    (outcome : table.insertOrUpdate row admitted condition change = .inserted after returned) :
    (∀ other ∈ table.rows, schema.key other ≠ schema.key row) ∧ admitted = true ∧
      schema.identity row ∉ table.rows.map schema.identity ∧ after.rows = table.rows ++ [row] ∧
      returned = row := by
  unfold insertOrUpdate at outcome
  split at outcome
  · split at outcome <;> cases outcome
  · rename_i absent
    split at outcome
    · rename_i fresh
      cases outcome
      exact ⟨findKey_eq_none.mp absent, fresh.1, fresh.2, rfl, rfl⟩
    · cases outcome

end Table

end DataMax.Library
