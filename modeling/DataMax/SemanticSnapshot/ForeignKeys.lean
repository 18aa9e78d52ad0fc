import DataMax.SemanticSnapshot.ObjectGroups

/-! Which fields a foreign key joins. A reference names a table of the constraint's source system,
and is followed when one group of observations has that table. -/

namespace DataMax.SemanticSnapshot

open Domain Library
open SemanticRelations (ExplicitRelationEvidence)

section References

/-- A name of a table, with or without its schema. -/
structure NamesTable (text : String) (schema : Option String) (table : String) : Prop where
  form : text = schema.elim table (· ++ "." ++ table)
  last : '.' ∉ table.toList

/-- `[schema.]table.field`, with the names as the snapshot normalises them. -/
structure NamesField (reference : String) (schema : Option String) (table field : String) : Prop where
  form : ∃ tableText fieldText, reference = tableText ++ "." ++ fieldText ∧ '.' ∉ fieldText.toList ∧
    NamesTable (normalizedIdentityKey tableText) schema table ∧ field = normalizedIdentityKey fieldText

theorem rsplitOnceDot_bare {text : String} (bare : '.' ∉ text.toList) : rsplitOnceDot text = none := by
  have dropped : text.toList.reverse.dropWhile (· ≠ '.') = [] := by
    apply List.dropWhile_eq_nil_iff.mpr
    intro character inside
    have differs : character ≠ '.' := fun dot => bare (dot ▸ List.mem_reverse.mp inside)
    simpa using differs
  unfold rsplitOnceDot
  rw [dropped]

theorem rsplitOnceDot_append {before after : String} (bare : '.' ∉ after.toList) :
    rsplitOnceDot (before ++ "." ++ after) = some (before, after) := by
  have reversed : (before ++ "." ++ after).toList.reverse =
      after.toList.reverse ++ '.' :: before.toList.reverse := by
    have dot : ".".toList = ['.'] := rfl
    simp [String.toList_append, dot]
  have letters : ∀ character ∈ after.toList.reverse, decide (character ≠ '.') = true := by
    intro character inside
    have differs : character ≠ '.' := fun dot => bare (dot ▸ List.mem_reverse.mp inside)
    simpa using differs
  unfold rsplitOnceDot
  rw [reversed, List.dropWhile_append_of_pos letters, List.takeWhile_append_of_pos letters]
  simp

/-- A text with a dot has a last one. -/
theorem exists_last_dot {text : String} (dotted : '.' ∈ text.toList) :
    ∃ before after, text = before ++ "." ++ after ∧ '.' ∉ after.toList := by
  obtain ⟨later, earlier, reversed, bare⟩ := List.eq_append_cons_of_mem (List.mem_reverse.mpr dotted)
  refine ⟨.ofList earlier.reverse, .ofList later.reverse, ?_, by simpa using bare⟩
  have forth : text.toList = earlier.reverse ++ '.' :: later.reverse := by
    have twice := congrArg List.reverse reversed
    simpa using twice
  have dot : ".".toList = ['.'] := rfl
  apply String.toList_inj.mp
  simp [String.toList_append, dot, forth]

theorem rsplitOnceDot_eq_some {text before after : String} :
    rsplitOnceDot text = some (before, after) ↔ text = before ++ "." ++ after ∧ '.' ∉ after.toList := by
  constructor
  · intro split
    by_cases dotted : '.' ∈ text.toList
    · obtain ⟨front, back, rfl, bare⟩ := exists_last_dot dotted
      rw [rsplitOnceDot_append bare] at split
      cases split
      exact ⟨rfl, bare⟩
    · rw [rsplitOnceDot_bare dotted] at split
      cases split
  · rintro ⟨rfl, bare⟩
    exact rsplitOnceDot_append bare

/-- Every text names a table. -/
theorem exists_namesTable (text : String) : ∃ schema table, NamesTable text schema table := by
  by_cases dotted : '.' ∈ text.toList
  · obtain ⟨front, back, form, bare⟩ := exists_last_dot dotted
    exact ⟨some front, back, form, bare⟩
  · exact ⟨none, text, rfl, dotted⟩

theorem NamesTable.split {text table : String} {schema : Option String} (names : NamesTable text schema table) :
    rsplitOnceDot text = schema.map (·, table) := by
  cases schema with
  | none =>
    rw [names.form]
    exact rsplitOnceDot_bare names.last
  | some named =>
    rw [names.form]
    exact rsplitOnceDot_append names.last

end References

section Groups

variable (observations : List SemanticObservation)

/-- A group of observations of a table, by the first of them. -/
structure DatabaseGroup (key : String) (first : SemanticObservation) : Prop where
  leads : (observations.filter fun observation => objectGroupKey observation = key).head? = some first
  table : isDatabaseTable first = true

/-- The table that a constraint means by a schema and a name. -/
structure MeansTable (constraint : SemanticObservation) (schema : Option String) (table : String)
    (identity : DatabaseSourceIdentity) : Prop where
  system : identity.sourceSystemKey = (normalizedDatabaseSourceIdentity constraint).sourceSystemKey
  object : identity.sourceObjectKey = table
  named : ∀ given, schema = some given → identity.sourceSchemaKey = given
  own : schema = none → (normalizedDatabaseSourceIdentity constraint).sourceSchemaKey ≠ "" →
    identity.sourceSchemaKey = (normalizedDatabaseSourceIdentity constraint).sourceSchemaKey

/-- The one field that a constraint refers to. -/
structure RefersTo (constraint : SemanticObservation) (target : String × String) : Prop where
  reference : ∃ reference schema table, constraintReference constraint = some reference ∧
    NamesField reference schema table target.2 ∧
    ∀ key, (∃ first, DatabaseGroup observations key first ∧
      MeansTable constraint schema table (normalizedDatabaseSourceIdentity first)) ↔ key = target.1

/-- The first observation of a field. -/
def FirstOfField (key : String × String) (first : SemanticObservation) : Prop :=
  ((observations.filter semanticFieldObservation).filter fun observation => fieldKey observation = key).head? =
    some first

/-- Every observation of a field comes from one source system. -/
def FieldFrom (system : String) (key : String × String) : Prop := ∀ observation ∈ observations,
  semanticFieldObservation observation = true → fieldKey observation = key →
    (normalizedDatabaseSourceIdentity observation).sourceSystemKey = system

theorem get?_objectObservations {key : String} {group : List SemanticObservation} :
    (objectObservations observations).get? key = some group ↔
      group ≠ [] ∧ group = observations.filter fun observation => objectGroupKey observation = key := by
  rw [objectObservations, SortedMap.get?_grouped, List.filter_map, List.map_map]
  have own : (Prod.snd ∘ fun observation => (objectGroupKey observation, observation)) = id := rfl
  rw [own, List.map_id]
  rfl

theorem get?_fieldObservations {key : String × String} {group : List SemanticObservation} :
    (fieldObservations observations).get? key = some group ↔ group ≠ [] ∧
      group = (observations.filter semanticFieldObservation).filter fun observation => fieldKey observation = key := by
  rw [fieldObservations, SortedMap.get?_grouped, List.filter_map, List.map_map]
  have own : (Prod.snd ∘ fun observation => (fieldKey observation, observation)) = id := rfl
  rw [own, List.map_id]
  rfl

theorem mem_databaseGroups {group : DatabaseRelationGroup} : group ∈ databaseGroups observations ↔
    ∃ first, DatabaseGroup observations group.groupKey first ∧
      group.identity = normalizedDatabaseSourceIdentity first := by
  rw [databaseGroups, List.mem_filterMap]
  constructor
  · rintro ⟨entry, listed, made⟩
    obtain ⟨-, members⟩ := (get?_objectObservations observations).mp (SortedMap.mem_entries_iff.mp listed)
    obtain ⟨first, leads, made⟩ := Option.bind_eq_some_iff.mp made
    split at made
    · rename_i table
      cases made
      exact ⟨first, ⟨members ▸ leads, table⟩, rfl⟩
    · cases made
  · rintro ⟨first, ⟨leads, table⟩, identity⟩
    refine ⟨(group.groupKey, observations.filter fun observation => objectGroupKey observation = group.groupKey),
      SortedMap.mem_entries_iff.mpr ((get?_objectObservations observations).mpr ⟨?_, rfl⟩), ?_⟩
    · intro empty
      change observations.filter _ = [] at empty
      rw [empty] at leads
      cases leads
    · rw [leads, Option.bind_some, if_pos table, ← identity]

theorem databaseGroups_distinct : ((databaseGroups observations).map (·.groupKey)).Nodup := by
  apply List.pairwise_map.mpr
  apply List.Pairwise.filterMap _ _ (objectObservations observations).sorted
  intro entry other before group made otherGroup otherMade same
  obtain ⟨first, -, made⟩ := Option.bind_eq_some_iff.mp made
  obtain ⟨second, -, otherMade⟩ := Option.bind_eq_some_iff.mp otherMade
  split at made <;> cases made
  split at otherMade <;> cases otherMade
  change entry.1 = other.1 at same
  have unordered : compare entry.1 other.1 = .eq := same ▸ Std.ReflCmp.compare_self
  rw [EntryBefore, unordered] at before
  cases before

theorem uniqueDatabaseGroup_eq_some {groups : List DatabaseRelationGroup} {target : String}
    (distinct : (groups.map (·.groupKey)).Nodup) : uniqueDatabaseGroup groups = some target ↔
      ∀ key, (∃ group ∈ groups, group.groupKey = key) ↔ key = target := by
  match groups with
  | [] =>
    constructor
    · intro chosen
      cases chosen
    · intro only
      obtain ⟨group, inside, -⟩ := (only target).mpr rfl
      cases inside
  | [candidate] =>
    rw [uniqueDatabaseGroup, Option.some.injEq]
    constructor
    · rintro rfl key
      simp [eq_comm]
    · intro only
      exact (only candidate.groupKey).mp ⟨candidate, List.mem_cons_self, rfl⟩
  | first :: second :: rest =>
    constructor
    · intro chosen
      cases chosen
    · intro only
      have firstTarget := (only first.groupKey).mp ⟨first, List.mem_cons_self, rfl⟩
      have secondTarget := (only second.groupKey).mp ⟨second, List.mem_cons_of_mem _ List.mem_cons_self, rfl⟩
      simp [firstTarget, secondTarget] at distinct

/-- The candidates are the groups with the table that is meant. -/
theorem resolveDatabaseReferenceGroup_eq_some {constraint : SemanticObservation} {text table target : String}
    {schema : Option String} (names : NamesTable (normalizedIdentityKey text) schema table) :
    resolveDatabaseReferenceGroup constraint text (databaseGroups observations) = some target ↔
      ∀ key, (∃ first, DatabaseGroup observations key first ∧
        MeansTable constraint schema table (normalizedDatabaseSourceIdentity first)) ↔ key = target := by
  have chosen : ∀ kept : DatabaseRelationGroup → Bool,
      (∀ group, kept group = true ↔ MeansTable constraint schema table group.identity) →
      (uniqueDatabaseGroup ((databaseGroups observations).filter kept) = some target ↔
        ∀ key, (∃ first, DatabaseGroup observations key first ∧
          MeansTable constraint schema table (normalizedDatabaseSourceIdentity first)) ↔ key = target) := by
    intro kept means
    rw [uniqueDatabaseGroup_eq_some ((databaseGroups_distinct observations).sublist (List.filter_sublist.map _))]
    have fits : ∀ key, (∃ group ∈ (databaseGroups observations).filter kept, group.groupKey = key) ↔
        ∃ first, DatabaseGroup observations key first ∧
          MeansTable constraint schema table (normalizedDatabaseSourceIdentity first) := by
      intro key
      constructor
      · rintro ⟨group, inside, rfl⟩
        obtain ⟨listed, passes⟩ := List.mem_filter.mp inside
        obtain ⟨first, grouped, identity⟩ := (mem_databaseGroups observations).mp listed
        exact ⟨first, grouped, identity ▸ (means group).mp passes⟩
      · rintro ⟨first, grouped, fits⟩
        exact ⟨⟨key, normalizedDatabaseSourceIdentity first⟩, List.mem_filter.mpr
          ⟨(mem_databaseGroups observations).mpr ⟨first, grouped, rfl⟩, (means _).mpr fits⟩, rfl⟩
    exact forall_congr' fun key => iff_congr (fits key) Iff.rfl
  cases schema with
  | some named =>
    simp only [resolveDatabaseReferenceGroup, names.split, Option.map_some, Option.isSome_some, if_true,
      List.filter_filter]
    apply chosen
    intro group
    simp only [Option.all_some, Bool.and_eq_true, decide_eq_true_eq]
    constructor
    · rintro ⟨inSchema, object, system⟩
      exact ⟨system, object, fun given same => Option.some.inj same ▸ inSchema, fun absent => by cases absent⟩
    · intro fits
      exact ⟨fits.named named rfl, fits.object, fits.system⟩
  | none =>
    have whole : normalizedIdentityKey text = table := names.form
    simp only [resolveDatabaseReferenceGroup, whole, rsplitOnceDot_bare names.last, Option.isSome_none,
      Bool.false_eq_true, if_false, List.filter_filter]
    by_cases own : (normalizedDatabaseSourceIdentity constraint).sourceSchemaKey = ""
    · rw [if_neg (not_not.mpr own)]
      apply chosen
      intro group
      simp only [Option.all_none, Bool.true_and, Bool.and_eq_true, decide_eq_true_eq]
      constructor
      · rintro ⟨object, system⟩
        exact ⟨system, object, fun given absent => (by cases absent), fun _ filled => absurd own filled⟩
      · intro fits
        exact ⟨fits.object, fits.system⟩
    · rw [if_pos own]
      apply chosen
      intro group
      simp only [Option.all_none, Bool.true_and, Bool.and_eq_true, decide_eq_true_eq]
      constructor
      · rintro ⟨inSchema, object, system⟩
        exact ⟨system, object, fun given absent => (by cases absent), fun _ _ => inSchema⟩
      · intro fits
        exact ⟨fits.own rfl own, fits.object, fits.system⟩

end Groups

section Fields

variable (digest : String → String) (tenantId : TenantId) (observations : List SemanticObservation)

theorem get?_objectIds {key id : String} : (objectIds digest tenantId observations).get? key = some id ↔
    (∃ observation ∈ observations, objectGroupKey observation = key) ∧ id = objectId digest tenantId key := by
  rw [objectIds]
  apply SortedMap.get?_ofList_iff
  · intro id
    rw [List.mem_map]
    constructor
    · rintro ⟨⟨_, group⟩, grouped, same⟩
      cases same
      obtain ⟨filled, members⟩ := (get?_objectObservations observations).mp (SortedMap.mem_entries_iff.mp grouped)
      obtain ⟨observation, inside⟩ := List.exists_mem_of_ne_nil _ filled
      obtain ⟨listed, own⟩ := List.mem_filter.mp (members ▸ inside)
      exact ⟨⟨observation, listed, of_decide_eq_true own⟩, rfl⟩
    · rintro ⟨⟨observation, listed, own⟩, rfl⟩
      refine ⟨(key, observations.filter fun observation => objectGroupKey observation = key),
        SortedMap.mem_entries_iff.mpr ((get?_objectObservations observations).mpr ⟨?_, rfl⟩), rfl⟩
      exact List.ne_nil_of_mem (List.mem_filter.mpr ⟨listed, decide_eq_true own⟩)
  · intro first second firstId secondId
    rw [firstId.2, secondId.2]

theorem FirstOfField.listed {key : String × String} {first : SemanticObservation}
    (leads : FirstOfField observations key first) : first ∈ observations ∧ fieldKey first = key := by
  obtain ⟨inside, own⟩ := List.mem_filter.mp (List.mem_of_head? leads)
  exact ⟨(List.mem_filter.mp inside).1, of_decide_eq_true own⟩

theorem get?_fieldIds {key : String × String} {id : String} :
    (fieldIds digest tenantId observations).get? key = some id ↔
      ∃ first, FirstOfField observations key first ∧ id = fieldId digest (objectId digest tenantId key.1) first := by
  rw [fieldIds]
  apply SortedMap.get?_ofList_iff
  · intro id
    rw [List.mem_filterMap]
    constructor
    · rintro ⟨⟨entryKey, group⟩, grouped, made⟩
      obtain ⟨filled, members⟩ := (get?_fieldObservations observations).mp (SortedMap.mem_entries_iff.mp grouped)
      cases group with
      | nil => exact False.elim (filled rfl)
      | cons first rest =>
        have leads : FirstOfField observations entryKey first := by
          rw [FirstOfField, ← members]
          rfl
        obtain ⟨-, own⟩ := leads.listed
        cases found : (objectIds digest tenantId observations).get? entryKey.1 with
        | none => simp [found] at made
        | some objectId =>
          obtain ⟨-, rfl⟩ := (get?_objectIds digest tenantId observations).mp found
          simp only [found, Option.some.injEq, Prod.mk.injEq] at made
          obtain ⟨rfl, rfl⟩ := made
          have same : (entryKey.1, asciiLower (trim first.technicalName)) = entryKey := own ▸ rfl
          exact ⟨first, same.symm ▸ leads, rfl⟩
    · rintro ⟨first, leads, rfl⟩
      obtain ⟨inside, own⟩ := leads.listed
      have found : (objectIds digest tenantId observations).get? key.1 = some (objectId digest tenantId key.1) :=
        (get?_objectIds digest tenantId observations).mpr ⟨⟨first, inside, congrArg Prod.fst own⟩, rfl⟩
      obtain ⟨rest, group⟩ := List.head?_eq_some_iff.mp leads
      refine ⟨(key, first :: rest), SortedMap.mem_entries_iff.mpr ((get?_fieldObservations observations).mpr
        ⟨List.cons_ne_nil _ _, group.symm⟩), ?_⟩
      have same : (key.1, asciiLower (trim first.technicalName)) = key := own ▸ rfl
      simp only [found, same]
  · intro first second firstId secondId
    obtain ⟨firstField, leads, rfl⟩ := firstId
    obtain ⟨secondField, otherLeads, rfl⟩ := secondId
    obtain rfl : secondField = firstField := Option.some.inj (otherLeads.symm.trans leads)
    rfl

variable {digest tenantId observations}

/-- The relation joins the field of the constraint to the field that it refers to. -/
structure JoinsForeignKey (digest : String → String) (tenantId : TenantId) (observations : List SemanticObservation)
    (constraint : SemanticObservation) (target : String × String) (relation : ExplicitRelationEvidence) : Prop where
  refers : RefersTo observations constraint target
  ends : ∃ sourceField targetField, FirstOfField observations (fieldKey constraint) sourceField ∧
    FirstOfField observations target targetField ∧
    relation = ⟨fieldId digest (objectId digest tenantId (objectGroupKey constraint)) sourceField,
      fieldId digest (objectId digest tenantId target.1) targetField, .foreignKey,
      "源数据库外键约束明确关联这两个字段。", constraint.evidenceRefs⟩

/-- A constraint gives a relation exactly when its reference finds one table and both fields were
observed. -/
theorem constraintRelation_eq_some {constraint : SemanticObservation} {relation : ExplicitRelationEvidence} :
    constraintRelation digest tenantId observations constraint = some relation ↔
      ∃ target, JoinsForeignKey digest tenantId observations constraint target relation := by
  constructor
  · intro emitted
    obtain ⟨reference, given, emitted⟩ := Option.bind_eq_some_iff.mp emitted
    obtain ⟨⟨tableText, fieldText⟩, split, emitted⟩ := Option.bind_eq_some_iff.mp emitted
    obtain ⟨targetGroup, resolved, emitted⟩ := Option.bind_eq_some_iff.mp emitted
    obtain ⟨sourceId, sourceFound, emitted⟩ := Option.bind_eq_some_iff.mp emitted
    obtain ⟨targetId, targetFound, rfl⟩ := Option.map_eq_some_iff.mp emitted
    obtain ⟨form, bare⟩ := rsplitOnceDot_eq_some.mp split
    obtain ⟨schema, table, names⟩ := exists_namesTable (normalizedIdentityKey tableText)
    obtain ⟨sourceField, sourceLeads, rfl⟩ := (get?_fieldIds digest tenantId observations).mp sourceFound
    obtain ⟨targetField, targetLeads, rfl⟩ := (get?_fieldIds digest tenantId observations).mp targetFound
    exact ⟨(targetGroup, normalizedIdentityKey fieldText),
      ⟨reference, schema, table, given, ⟨tableText, fieldText, form, bare, names, rfl⟩,
        (resolveDatabaseReferenceGroup_eq_some observations names).mp resolved⟩,
      sourceField, targetField, sourceLeads, targetLeads, rfl⟩
  · rintro ⟨target, ⟨reference, schema, table, given, ⟨tableText, fieldText, form, bare, names, field⟩, only⟩,
      sourceField, targetField, sourceLeads, targetLeads, rfl⟩
    have split : rsplitOnceDot reference = some (tableText, fieldText) := rsplitOnceDot_eq_some.mpr ⟨form, bare⟩
    have resolved := (resolveDatabaseReferenceGroup_eq_some observations names).mpr only
    have sourceFound := (get?_fieldIds digest tenantId observations).mpr ⟨sourceField, sourceLeads, rfl⟩
    have targetFound := (get?_fieldIds digest tenantId observations).mpr ⟨targetField, targetLeads, rfl⟩
    have key : target = (target.1, asciiLower (trim fieldText)) := Prod.ext rfl field
    rw [key] at targetFound
    simp only [constraintRelation, given, split, resolved, sourceFound, targetFound, Option.bind_some, Option.map_some]
    rfl

/-- A constraint gives a relation exactly when its reference finds one table and both fields were
observed, and the relation stays in the source system of the constraint. -/
def EmitsForeignKeys (digest : String → String) (tenantId : TenantId) (observations : List SemanticObservation) : Prop :=
  ∀ constraint ∈ observations, constraint.observationKind = "constraint" → ∀ relation,
    constraintRelation digest tenantId observations constraint = some relation ↔
      ∃ target, JoinsForeignKey digest tenantId observations constraint target relation ∧
        ∀ key, key = fieldKey constraint ∨ key = target →
          FieldFrom observations (normalizedDatabaseSourceIdentity constraint).sourceSystemKey key

/-- Observations that share a key with either end of a constraint come from its source system. -/
def KeysKeepSystems (observations : List SemanticObservation) : Prop :=
  ∀ constraint ∈ observations, constraint.observationKind = "constraint" → ∀ target,
    RefersTo observations constraint target →
    (∃ first, FirstOfField observations (fieldKey constraint) first) →
    (∃ first, FirstOfField observations target first) →
    ∀ key, key = fieldKey constraint ∨ key = target →
      FieldFrom observations (normalizedDatabaseSourceIdentity constraint).sourceSystemKey key

theorem RefersTo.unique {constraint : SemanticObservation} {first second : String × String}
    (refers : RefersTo observations constraint first) (also : RefersTo observations constraint second) :
    first = second := by
  obtain ⟨reference, schema, table, given, ⟨tableText, fieldText, form, bare, names, field⟩, only⟩ := refers
  obtain ⟨_, otherSchema, otherTable, otherGiven, ⟨otherTableText, otherFieldText, otherForm, otherBare, otherNames,
    otherField⟩, otherOnly⟩ := also
  obtain rfl := Option.some.inj (given.symm.trans otherGiven)
  have split := (rsplitOnceDot_eq_some.mpr ⟨form, bare⟩).symm.trans (rsplitOnceDot_eq_some.mpr ⟨otherForm, otherBare⟩)
  cases split
  have resolved := (resolveDatabaseReferenceGroup_eq_some observations names).mpr only
  have alsoResolved := (resolveDatabaseReferenceGroup_eq_some observations otherNames).mpr otherOnly
  exact Prod.ext (Option.some.inj (resolved.symm.trans alsoResolved)) (field.trans otherField.symm)

theorem sourceSystemKey_eq (observation : SemanticObservation) :
    (normalizedDatabaseSourceIdentity observation).sourceSystemKey =
      normalizedIdentityKey (sourceScope observation).1 := by
  unfold normalizedDatabaseSourceIdentity sourceScope
  split <;> rfl

theorem SameObject.sourceSystemKey {first second : SemanticObservation} (same : SameObject first second)
    (table : isDatabaseTable first = true) : (normalizedDatabaseSourceIdentity second).sourceSystemKey =
      (normalizedDatabaseSourceIdentity first).sourceSystemKey := by
  cases same with
  | table _ _ _ _ sourceSystem => rw [sourceSystemKey_eq, sourceSystemKey_eq, sourceSystem]
  | other firstOther => simp [table] at firstOther

/-- Where a key stands for one table, a foreign key of a table never leaves its source system. -/
theorem keysKeepSystems_of_denoting (tables : ∀ observation ∈ observations, isDatabaseTable observation = true)
    (denote : ∀ first ∈ observations, ∀ second ∈ observations,
      objectGroupKey first = objectGroupKey second → SameObject first second) : KeysKeepSystems observations := by
  intro constraint inside _ target refers _ _ key either observation listed _ own
  rcases either with rfl | rfl
  · exact (denote constraint inside observation listed (congrArg Prod.fst own).symm).sourceSystemKey
      (tables constraint inside)
  · obtain ⟨_, _, _, -, -, only⟩ := refers
    obtain ⟨first, group, means⟩ := (only key.1).mpr rfl
    obtain ⟨firstListed, grouped⟩ := List.mem_filter.mp (List.mem_of_head? group.leads)
    have shared : objectGroupKey first = objectGroupKey observation :=
      (of_decide_eq_true grouped).trans (congrArg Prod.fst own).symm
    exact ((denote first firstListed observation listed shared).sourceSystemKey group.table).trans means.system

end Fields

/-- The orders of one source refer to its customers. -/
def ordersCustomer : SemanticObservation :=
  { warehouseColumn "shop" "orders" with
    id := "1", sourceIdentity := some ⟨"crm|eu", "shop", "orders"⟩, observationKind := "constraint",
    technicalName := "customer", labelHint := some "customers.id" }

/-- A column of another source, with the key of their table. -/
def otherCustomer : SemanticObservation :=
  { warehouseColumn "shop" "orders" with
    id := "2", sourceIdentity := some ⟨"crm", "eu|shop", "orders"⟩, technicalName := "customer" }

def customersId : SemanticObservation :=
  { warehouseColumn "shop" "customers" with id := "3", sourceIdentity := some ⟨"crm|eu", "shop", "customers"⟩ }

/-- One column has the key of the other system's column, and the key column has a key of its own. -/
theorem crossing_keys : objectGroupKey otherCustomer = objectGroupKey ordersCustomer ∧
    objectGroupKey customersId ≠ objectGroupKey ordersCustomer := by
  have other : objectGroupParts otherCustomer = ["database_table", "database", "crm", "eu|shop", "orders"] := by
    decide +kernel
  have orders : objectGroupParts ordersCustomer = ["database_table", "database", "crm|eu", "shop", "orders"] := by
    decide +kernel
  constructor
  · rw [objectGroupKey_eq_iff, keyPieces, keyPieces, other, orders]
    decide
  · decide +kernel

theorem crossing_refers :
    RefersTo [ordersCustomer, otherCustomer, customersId] ordersCustomer (fieldKey customersId) := by
  refine ⟨"customers.id", none, "customers", by decide, ⟨"customers", "id", by decide, by decide,
    ⟨by decide +kernel, by decide⟩, by decide +kernel⟩, ?_⟩
  intro key
  constructor
  · rintro ⟨first, group, means⟩
    obtain ⟨listed, own⟩ := List.mem_filter.mp (List.mem_of_head? group.leads)
    have object := means.object
    simp only [List.mem_cons, List.not_mem_nil, or_false] at listed
    rcases listed with rfl | rfl | rfl
    · exact absurd object (by decide +kernel)
    · exact absurd object (by decide +kernel)
    · exact (of_decide_eq_true own).symm
  · rintro rfl
    refine ⟨customersId, ⟨?_, by decide⟩, by decide +kernel, by decide +kernel, ?_, ?_⟩
    · obtain ⟨same, apart⟩ := crossing_keys
      simp [fieldKey, same, apart.symm]
    · intro given absent
      cases absent
    · intro _ _
      decide +kernel

theorem crossing_joins : ∃ relation, JoinsForeignKey id ⟨"00000000-0000-0000-0000-000000000001"⟩
    [ordersCustomer, otherCustomer, customersId] ordersCustomer (fieldKey customersId) relation := by
  obtain ⟨same, other⟩ := crossing_keys
  have source : fieldKey otherCustomer = fieldKey ordersCustomer := Prod.ext same rfl
  have apart : fieldKey ordersCustomer ≠ fieldKey customersId := fun same => other (congrArg Prod.fst same).symm
  have constraint : semanticFieldObservation ordersCustomer = false := by decide
  have column : semanticFieldObservation otherCustomer = true := by decide
  have target : semanticFieldObservation customersId = true := by decide
  refine ⟨_, crossing_refers, otherCustomer, customersId, ?_, ?_, rfl⟩
  · simp [FirstOfField, constraint, column, source]
  · simp [FirstOfField, constraint, column, target, source, apart]

end DataMax.SemanticSnapshot
