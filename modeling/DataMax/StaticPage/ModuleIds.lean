import DataMax.Library.Run
import DataMax.StaticPage.Accepted
import DataMax.StaticPage.Apply

/-! The ids of the modules of a page: edits keep them apart as long as no module is
added under an id that is in use. -/

namespace DataMax.StaticPage

open Domain Json Library

section Ids

def moduleIds (payload : Value) : List String := (payloadModules payload).filterMap moduleId

theorem hasModuleId_iff {id : String} {module : Value} : hasModuleId id module = true ↔ moduleId module = some id := by
  simp [hasModuleId]

/-- A module merged with an object that has no id keeps its id. -/
theorem moduleId_merge {module patch : Value} {id : String} (own : moduleId module = some id) {object : Map}
    (shape : patch.asMap = some object) (unnamed : object.get? "id" = none) :
    moduleId (mergeJsonValue module patch) = some id := by
  obtain ⟨value, member, text⟩ := Option.bind_eq_some_iff.mp own
  obtain ⟨map, found, listed⟩ := Option.bind_eq_some_iff.mp member
  have other : ∀ entry ∈ object.entries, entry.1 ≠ "id" := by
    intro entry inside same
    rw [← same, SortedMap.mem_entries_iff.mp inside] at unnamed
    cases unnamed
  have merged : mergeJsonValue module patch = .ofMap (mergeJsonEntries map object.entries) := by
    rw [asMap_eq_some.mp shape, Value.ofMap, mergeJsonValue, found]
  have kept : (mergeJsonEntries map object.entries).get? "id" = some value := by
    rw [get?_mergeJsonEntries_other other, listed]
  simp [merged, moduleId, kept, text]

theorem filterMap_updateFirst {Item View : Type} {chosen : Item → Bool} {change : Item → Item} {view : Item → Option View}
    (kept : ∀ item, chosen item = true → view (change item) = view item) (items : List Item) :
    (updateFirst chosen change items).filterMap view = items.filterMap view := by
  induction items with
  | nil => rfl
  | cons item rest ih =>
    rw [updateFirst]
    split
    · rename_i picked
      rw [List.filterMap_cons, List.filterMap_cons, kept item picked]
    · rw [List.filterMap_cons, List.filterMap_cons, ih]

theorem moduleIds_merge (payload : Value) (id : String) {patch : Value} {object : Map} (shape : patch.asMap = some object)
    (unnamed : object.get? "id" = none) : moduleIds (mergeStaticPageModule payload id patch) = moduleIds payload := by
  rw [moduleIds, mergeStaticPageModule, payloadModules_editModules rfl]
  apply filterMap_updateFirst
  intro module own
  rw [hasModuleId_iff] at own
  rw [moduleId_merge own shape unnamed, own]

theorem moduleIds_push (payload module : Value) :
    moduleIds (pushStaticPageModule payload module) = moduleIds payload ++ (moduleId module).toList := by
  rw [moduleIds, payloadModules_push, List.filterMap_append]
  cases named : moduleId module with
  | none => simp [moduleIds, named]
  | some id => simp [moduleIds, named]

theorem moduleIds_remove (payload : Value) (id : String) :
    moduleIds (removeStaticPageModule payload id) = (moduleIds payload).filter (· ≠ id) := by
  rw [moduleIds, removeStaticPageModule, payloadModules_editModules rfl, moduleIds, List.filterMap_filter,
    List.filter_filterMap]
  congr 1
  funext module
  cases named : moduleId module with
  | none => simp [hasModuleId, named]
  | some other => by_cases same : other = id <;> simp [hasModuleId, named, same, Option.filter]

end Ids

section Changes

/-- What an operation does to the ids of the modules. -/
inductive IdChange (operation : Value) (operationType : OperationType) (ids : List String) : List String → Prop where
  | kept (other : operationType ≠ .addModule) : IdChange operation operationType ids ids
  | removed (other : operationType ≠ .addModule) (id : String) :
      IdChange operation operationType ids (ids.filter (· ≠ id))
  | added {module : Value} (add : operationType = .addModule) (given : operation.get "module" = some module) :
      IdChange operation operationType ids (ids ++ (moduleId module).toList)

variable (sources : DesignSources) {operation : Value} {operationType : OperationType}

theorem moduleIds_setPayloadValue (payload : Value) {key : String} (other : key ≠ "modules") (value : Value) :
    moduleIds (setPayloadValue payload key value) = moduleIds payload := by
  rw [moduleIds, payloadModules_setPayloadValue payload other, moduleIds]

theorem moduleIds_setFound (payload : Value) {key : String} (other : key ≠ "modules") (found : Option Value) :
    moduleIds (setFound payload key found) = moduleIds payload := by
  cases found with
  | none => rfl
  | some value => exact moduleIds_setPayloadValue payload other value

theorem moduleIds_setBoth (payload : Value) {camel snake : String} (first : camel ≠ "modules") (second : snake ≠ "modules")
    (value : Value) : moduleIds (setBoth payload camel snake value) = moduleIds payload := by
  rw [moduleIds, payloadModules_setBoth payload first second, moduleIds]

theorem moduleIds_mergeNamed (payload : Value) {patch : Option Value}
    (unnamed : ∀ given, patch = some given → ∃ object, given.asMap = some object ∧ object.get? "id" = none) :
    moduleIds (mergeNamedModule payload operation patch) = moduleIds payload := by
  cases named : staticPageOperationModuleId operation with
  | none => simp only [mergeNamedModule, named]
  | some id =>
    cases patch with
    | none => simp only [mergeNamedModule, named]
    | some given =>
      obtain ⟨object, shape, absent⟩ := unnamed given rfl
      simp only [mergeNamedModule, named]
      exact moduleIds_merge payload id shape absent

/-- A patch of one member that is not the id. -/
theorem unnamed_json {key : String} (other : key ≠ "id") (value : Value) :
    ∃ object, (json [(key, value)]).asMap = some object ∧ object.get? "id" = none := by
  refine ⟨_, Value.asMap_ofMap _, ?_⟩
  cases found : (SortedMap.ofList [(key, value)]).get? "id" with
  | none => rfl
  | some item =>
    have inside := SortedMap.mem_of_get?_ofList found
    rw [List.mem_singleton, Prod.mk.injEq] at inside
    exact absurd inside.1.symm other

theorem validateUpdateModulePatch_keys {result : Unit} (valid : validateUpdateModulePatch operation = .ok result) {patch : Value}
    (given : operation.get "patch" = some patch) : ∃ object, patch.asMap = some object ∧ object.get? "id" = none := by
  rw [validateUpdateModulePatch, given] at valid
  obtain ⟨own, same, valid⟩ := bind_eq_ok.mp valid
  cases okOr_eq_ok.mp same
  obtain ⟨object, shape, valid⟩ := bind_eq_ok.mp valid
  refine ⟨object, okOr_eq_ok.mp shape, ?_⟩
  obtain ⟨_, known, _⟩ := bind_eq_ok.mp valid
  by_contra present
  obtain ⟨value, found⟩ := Option.ne_none_iff_exists'.mp present
  exact absurd (requireKnownKeys_eq_ok.mp known "id" value found) (by decide)

theorem IdChange.of_eq {ids after : List String} (other : operationType ≠ .addModule) (same : after = ids) :
    IdChange operation operationType ids after := same ▸ .kept other

/-- A patch made of one member leaves the ids alone. -/
theorem moduleIds_mergeMember {Given : Type} (payload : Value) {key : String} (other : key ≠ "id") (given : Option Given)
    (wrap : Given → Value) :
    moduleIds (mergeNamedModule payload operation (given.map fun value => json [(key, wrap value)])) = moduleIds payload := by
  apply moduleIds_mergeNamed
  intro patch made
  obtain ⟨value, _, rfl⟩ := Option.map_eq_some_iff.mp made
  exact unnamed_json other (wrap value)

theorem idChange_applyOperationOf (payload : Value) (valid : validateStaticPageOperation operation operationType = .ok ()) :
    IdChange operation operationType (moduleIds payload) (moduleIds (applyOperationOf sources payload operation operationType)) := by
  cases operationType with
  | updateModule =>
    obtain ⟨_, _, patched⟩ := bind_eq_ok.mp valid
    exact .of_eq (by decide) (moduleIds_mergeNamed payload fun given same => validateUpdateModulePatch_keys patched same)
  | addModule =>
    obtain ⟨module, given, _⟩ := bind_eq_ok.mp valid
    rw [okOr_eq_ok] at given
    rw [applyOperationOf, given]
    dsimp only
    rw [moduleIds_push]
    exact .added rfl given
  | removeModule =>
    rw [applyOperationOf]
    cases staticPageOperationModuleId operation with
    | none => exact .kept (by decide)
    | some id => exact moduleIds_remove payload id ▸ .removed (by decide) id
  | moveModule => exact .of_eq (by decide) (moduleIds_mergeMember payload (by decide) _ id)
  | resizeModule => exact .of_eq (by decide) (moduleIds_mergeMember payload (by decide) _ id)
  | changeVisualization =>
    exact .of_eq (by decide) (moduleIds_mergeMember payload (by decide) _ (changedVisualization operation))
  | changeDataBinding => exact .of_eq (by decide) (moduleIds_mergeMember payload (by decide) _ id)
  | requestFinalRender =>
    refine .of_eq (by decide) ?_
    simp (disch := decide) only [applyOperationOf, moduleIds_setFound, setPayloadString, moduleIds_setPayloadValue]
  | changeStyleDirection | refreshSummary | reorderModules =>
    refine .of_eq (by decide) ?_
    rw [applyOperationOf]
    split <;> simp (disch := decide) only [moduleIds_setBoth]
  | markPreviewReady | confirmPreview =>
    refine .of_eq (by decide) ?_
    rw [applyOperationOf, showPreview]
    split <;> simp (disch := decide) only [setPayloadString, moduleIds_setPayloadValue]
  | queueImageJob | resetImageJob | resetFinalRender | updateImageJobStatus =>
    refine .of_eq (by decide) ?_
    simp (disch := decide) only [applyOperationOf, setPayloadString, moduleIds_setPayloadValue]

end Changes

section Runs

variable (sources : DesignSources)

/-- The id of the module that an operation adds. -/
def addedId (operation : Value) : Option String :=
  if staticPageOperationType operation = some OperationType.addModule.asStr then operation.get "module" >>= moduleId else none

/-- No module of the payload has the id of the one that is added. -/
def AddsFreshId (payload operation : Value) : Prop := ∀ id ∈ addedId operation, id ∉ moduleIds payload

instance (payload operation : Value) : Decidable (AddsFreshId payload operation) :=
  inferInstanceAs (Decidable (∀ id ∈ addedId operation, id ∉ moduleIds payload))

theorem applyStaticPageOperation_checked {operation : Value} {operationType : OperationType}
    (checked : checkStaticPageOperation operation = .ok operationType) (payload : Value) :
    applyStaticPageOperation sources payload operation = applyOperationOf sources payload operation operationType := by
  rw [applyStaticPageOperation, (checkStaticPageOperation_eq_ok.mp checked).1, Option.bind_eq_bind, Option.bind_some,
    OperationType.ofStr_asStr]

/-- One operation keeps the ids apart exactly if it adds no module under an id in use. -/
theorem nodup_apply_iff {operation : Value} (checked : ∃ operationType, checkStaticPageOperation operation = .ok operationType)
    {payload : Value} (distinct : (moduleIds payload).Nodup) :
    (moduleIds (applyStaticPageOperation sources payload operation)).Nodup ↔ AddsFreshId payload operation := by
  obtain ⟨operationType, checked⟩ := checked
  obtain ⟨named, valid⟩ := checkStaticPageOperation_eq_ok.mp checked
  have others (other : operationType ≠ .addModule) : addedId operation = none := by
    refine if_neg fun add => other ?_
    rw [named, Option.some.injEq] at add
    exact OperationType.asStr_injective add
  have change := idChange_applyOperationOf sources payload valid
  rw [applyStaticPageOperation_checked sources checked, AddsFreshId]
  generalize moduleIds (applyOperationOf sources payload operation operationType) = after at change ⊢
  cases change with
  | kept other => simpa [others other] using distinct
  | removed other id => simpa [others other] using distinct.filter _
  | @added module add given =>
    have own : addedId operation = moduleId module := by
      rw [addedId, named, add, if_pos rfl, given, Option.bind_eq_bind, Option.bind_some]
    rw [own]
    cases moduleId module with
    | none => simpa using distinct
    | some id =>
      rw [Option.toList_some, ← List.concat_eq_append, List.nodup_concat]
      simp [distinct]

theorem payloadModules_stale (payload : Value) : payloadModules (markPayloadPreviewStale payload) = payloadModules payload := by
  have kept : (staleImageJob (staleImageJob ((["previewImage", "preview_image", "finalPage", "final_page"].foldl
      SortedMap.erase (ensureJsonObject payload)).insert "status" (.string "planning")) "imageJob") "image_job").get? "modules"
      = (ensureJsonObject payload).get? "modules" := by
    rw [staleImageJob, get?_editObject_other (by decide), staleImageJob, get?_editObject_other (by decide),
      SortedMap.get?_insert_other _ _ (by decide)]
    simp [SortedMap.get?_erase]
  rw [markPayloadPreviewStale, payloadModules_ofMap, kept, ← payloadModules_ofMap, payloadModules_ensured]

/-- The contract written again leaves the modules alone. -/
theorem payloadModules_refresh (payload : Value) : payloadModules (refreshDesignContract sources payload) = payloadModules payload := by
  simp (disch := decide) only [refreshDesignContract, payloadModules_setBoth]
  split
  · rw [payloadModules_stale, payloadModules_ensured]
  · exact payloadModules_ensured payload

theorem payloadModules_applyAll (payload : Value) (operations : List Value) (summary : Option String) :
    payloadModules (applyStaticPageOperations sources payload operations summary) =
      payloadModules (applyEach sources payload operations) := by
  rw [applyStaticPageOperations, payloadModules_refresh]
  split
  · exact payloadModules_setBoth _ (by decide) (by decide) _
  · rfl

end Runs

section Addressing

/-- An edit and a removal with the id are about one and the same module. -/
def AddressesOne (payload : Value) (id : String) : Prop :=
  ∀ module ∈ payloadModules payload, moduleId module = some id → ∃ before after,
    payloadModules payload = before ++ module :: after ∧
    (∀ patch, payloadModules (mergeStaticPageModule payload id patch) = before ++ mergeJsonValue module patch :: after) ∧
    payloadModules (removeStaticPageModule payload id) = before ++ after

theorem updateFirst_append {Item : Type} {chosen : Item → Bool} (change : Item → Item) {before : List Item}
    (unchosen : ∀ item ∈ before, chosen item = false) {item : Item} (picked : chosen item = true) (after : List Item) :
    updateFirst chosen change (before ++ item :: after) = before ++ change item :: after := by
  induction before with
  | nil => rw [List.nil_append, updateFirst, if_pos picked, List.nil_append]
  | cons head rest ih =>
    have other := unchosen head List.mem_cons_self
    rw [List.cons_append, updateFirst, if_neg (by simp [other]), ih fun item inside => unchosen item (List.mem_cons_of_mem _ inside),
      List.cons_append]

theorem addressesOne_of_nodup {payload : Value} (distinct : (moduleIds payload).Nodup) (id : String) : AddressesOne payload id := by
  intro module inside own
  obtain ⟨before, after, split⟩ := List.append_of_mem inside
  rw [moduleIds, split, List.filterMap_append, List.filterMap_cons, own] at distinct
  have apart : ∀ other ∈ before ++ after, hasModuleId id other = false := by
    intro other listed
    by_contra same
    rw [Bool.not_eq_false, hasModuleId_iff] at same
    have twice : id ∈ before.filterMap moduleId ++ after.filterMap moduleId := by
      rw [← List.filterMap_append]
      exact List.mem_filterMap.mpr ⟨other, listed, same⟩
    exact (List.nodup_middle.mp distinct).notMem twice
  have picked : hasModuleId id module = true := hasModuleId_iff.mpr own
  refine ⟨before, after, split, fun patch => ?_, ?_⟩
  · rw [mergeStaticPageModule, payloadModules_editModules rfl, split]
    exact updateFirst_append _ (fun other listed => apart other (List.mem_append_left _ listed)) picked after
  · have kept : (before ++ after).filter (fun other => !hasModuleId id other) = before ++ after := by
      refine List.filter_eq_self.mpr fun other listed => ?_
      rw [apart other listed]
      rfl
    rw [removeStaticPageModule, payloadModules_editModules rfl, split, List.filter_append, List.filter_cons_of_neg (by simp [picked]),
      ← List.filter_append, kept]

end Addressing

section Unique

variable (sources : DesignSources)

/-- The ids are apart, so each of them addresses one module. -/
structure UniqueIds (payload : Value) : Prop where
  distinct : (moduleIds payload).Nodup
  addressed : ∀ id, AddressesOne payload id

theorem uniqueIds_iff {payload : Value} : UniqueIds payload ↔ (moduleIds payload).Nodup :=
  ⟨UniqueIds.distinct, fun distinct => ⟨distinct, addressesOne_of_nodup distinct⟩⟩

/-- Through a list of sanitised operations the ids stay apart in every payload on the way
exactly if each module is added under an id that is free then, and they are still apart when
the contract is written again. -/
theorem module_ids_stay_unique {given operations : List Value} (accepted : sanitizeStaticPageOperations given = .ok operations)
    {payload : Value} (distinct : (moduleIds payload).Nodup) (summary : Option String) :
    (Always (applyStaticPageOperation sources) UniqueIds (.ofMap (ensureJsonObject payload)) operations ↔
      Guarded (applyStaticPageOperation sources) AddsFreshId (.ofMap (ensureJsonObject payload)) operations) ∧
    (Guarded (applyStaticPageOperation sources) AddsFreshId (.ofMap (ensureJsonObject payload)) operations →
      UniqueIds (applyStaticPageOperations sources payload operations summary)) := by
  have initial : UniqueIds (.ofMap (ensureJsonObject payload)) := by
    rw [uniqueIds_iff, moduleIds, payloadModules_ensured]
    exact distinct
  have steps := always_iff_guarded_within (applyStaticPageOperation sources)
    (fun state operation checked unique => uniqueIds_iff.trans (nodup_apply_iff sources checked (uniqueIds_iff.mp unique)))
    initial operations fun operation inside => sanitizeStaticPageOperations_checked accepted inside
  refine ⟨steps, fun guarded => ?_⟩
  have last := steps.mpr guarded operations List.prefix_rfl
  rw [uniqueIds_iff, moduleIds] at last ⊢
  rw [payloadModules_applyAll]
  exact last

section Samples

def sampleSources : DesignSources where
  buildDataSnapshot _ _ := .null
  floatText _ := "0.0"
  nowJson := "2026-06-15T00:00:00Z"
  nowRfc3339 := "2026-06-15T00:00:00+00:00"

/-- A page with one module. -/
def heroPage : Value := json [("modules", .array [json [("id", .string "hero")]])]

def addModule (id : String) : Value := json [("type", .string "add_module"), ("module", json [("id", .string id)])]

/-- A module under a new id. -/
theorem module_ids_stay_unique_risk : ∃ operations, sanitizeStaticPageOperations [addModule "risk"] = .ok operations ∧
    UniqueIds (applyStaticPageOperations sampleSources heroPage operations none) := by
  have fresh : (sanitizeStaticPageOperations [addModule "risk"]).toOption.any (fun operations =>
      decide (Guarded (applyStaticPageOperation sampleSources) AddsFreshId (.ofMap (ensureJsonObject heroPage)) operations))
        = true := by decide +kernel
  cases ran : sanitizeStaticPageOperations [addModule "risk"] with
  | error error => simp [ran, Except.toOption] at fresh
  | ok operations =>
    have guarded := by simpa [ran, Except.toOption] using fresh
    have distinct : (moduleIds heroPage).Nodup := by decide +kernel
    exact ⟨operations, rfl, (module_ids_stay_unique sampleSources ran distinct none).2 guarded⟩

/-- A second module under the id of the first. -/
theorem added_module_repeats_id : ∃ operations, sanitizeStaticPageOperations [addModule "hero"] = .ok operations ∧
    (moduleIds heroPage).Nodup ∧ ¬ (moduleIds (applyStaticPageOperations sampleSources heroPage operations none)).Nodup := by
  have repeated : (sanitizeStaticPageOperations [addModule "hero"]).toOption.any (fun operations =>
      decide (¬ (moduleIds (applyEach sampleSources heroPage operations)).Nodup)) = true := by decide +kernel
  cases ran : sanitizeStaticPageOperations [addModule "hero"] with
  | error error => simp [ran, Except.toOption] at repeated
  | ok operations =>
    refine ⟨operations, rfl, by decide +kernel, ?_⟩
    rw [ran] at repeated
    have twice : ¬ (moduleIds (applyEach sampleSources heroPage operations)).Nodup := of_decide_eq_true repeated
    rw [moduleIds, payloadModules_applyAll]
    exact twice

end Samples

end Unique

end DataMax.StaticPage
