import DataMax.Json.Depth
import DataMax.Library.Separated
import DataMax.StaticPage.Accepted
import DataMax.StaticPage.Apply

/-! The texts that an accepted operation writes into a module: the checks leave out the
evidence ids, a second data binding, a visualization type that is no text, and an opened
tag in chart options and sample rows that is never closed. -/

namespace DataMax.StaticPage

open Domain Json Library

section Statements

/-- No text of the value, at any depth, has a marker. -/
abbrev SafeTexts : Value → Prop :=
  Throughout (fun _ => True) (fun _ text => staticPageTextStringIsUnsafe text = false) none

/-- No text of the value, at any depth, has the start of a tag. -/
abbrev TagFree : Value → Prop :=
  Throughout (fun _ => True) (fun _ text => tagMarkers.any (contains (asciiLower text)) = false) none

/-- What an operation is about to add as a module, or to merge into one. -/
def writtenModule (operation : Value) : OperationType → Option Value
  | .updateModule => operation.get "patch"
  | .addModule => operation.get "module"
  | .changeVisualization =>
    (operation.get "visualizationType" >>= Value.asStr).map fun visualizationType =>
      json [("visualization", changedVisualization operation visualizationType)]
  | .changeDataBinding => (operation.get "dataBinding").map fun dataBinding => json [("dataBinding", dataBinding)]
  | _ => none

/-- The members of a module whose texts are shown. -/
def shownKeys : List String :=
  ["title", "content", "dataLabel", "dataBinding", "data_binding", "visualization", "chartOptions"]

/-- The members of a visualization that have chart options or rows. -/
def chartKeys : List String := "chartOptions" :: rowKeys

/-- The parts of a written module that the checks leave out are without markers. -/
structure UncheckedSafe (written : Value) : Prop where
  evidence : ∀ binding ids, written.get "dataBinding" = some binding → binding.get "evidenceIds" = some ids → SafeTexts ids
  second : ∀ binding, written.get "data_binding" = some binding → SafeTexts binding
  kind : ∀ visualization kind, written.get "visualization" = some visualization →
    visualization.get "type" = some kind → kind.asStr = none → SafeTexts kind
  options : ∀ options, written.get "chartOptions" = some options → TagFree options
  chart : ∀ visualization, written.get "visualization" = some visualization →
    ∀ key ∈ chartKeys, ∀ part, visualization.get key = some part → TagFree part

/-- The texts under the shown members are without markers. -/
def ShownSafe (written : Value) : Prop :=
  ∀ key ∈ shownKeys, ∀ value, written.get key = some value → SafeTexts value

end Statements

section Markers

/-- A text has a marker if one is found in its characters. -/
def HasMarkers (markers : List String) (chars : List Char) : Prop :=
  ∃ marker ∈ markers, marker.toList <:+: chars.map Char.toLower

theorem any_contains_iff {markers : List String} {text : String} :
    markers.any (contains (asciiLower text)) = true ↔ HasMarkers markers text.toList := by
  rw [List.any_eq_true]
  exact exists_congr fun marker => and_congr_right fun _ => by rw [contains_iff, asciiLower, String.toList_map]

theorem toLower_blank {blank : Char} (white : isWhitespace blank = true) : blank.toLower = blank := by
  apply toLower_of_not_upper
  delta Char.isUpper
  simp only [isWhitespace, Bool.or_eq_true, Bool.and_eq_true, decide_eq_true_eq, beq_iff_eq] at white
  simp only [decide_eq_false_iff_not, UInt32.le_iff_toNat_le, ge_iff_le]
  have codes : 'A'.val.toNat = 65 ∧ 'Z'.val.toNat = 90 := by decide
  have same : blank.val.toNat = blank.toNat := rfl
  omega

/-- No marker has a blank in it. -/
abbrev BlankFree (markers : List String) : Prop :=
  ∀ marker ∈ markers, marker.toList ≠ [] ∧ marker.toList.all (!isWhitespace ·) = true

theorem localTo_blank {markers : List String} (blankFree : BlankFree markers) {blank : Char}
    (white : isWhitespace blank = true) : LocalTo blank (HasMarkers markers) := by
  refine LocalTo.exists_mem fun marker listed => ?_
  obtain ⟨nonempty, visible⟩ := blankFree marker listed
  have bare : blank ∉ marker.toList := by
    intro inside
    simpa [white] using List.all_eq_true.mp visible blank inside
  exact (LocalTo.occurrence nonempty bare).comp_map (toLower_blank white)

/-- Blanks at the ends of a text bring no marker. -/
theorem hasMarkers_trim {markers : List String} (blankFree : BlankFree markers) (text : String) :
    HasMarkers markers text.toList ↔ HasMarkers markers (trim text).toList := by
  obtain ⟨before, after, split, first, last⟩ := trim_split text
  rw [split]
  exact LocalTo.between (fun _ white => localTo_blank blankFree white) first last _

theorem unsafe_trim (text : String) : staticPageTextStringIsUnsafe text = staticPageTextStringIsUnsafe (trim text) := by
  rw [Bool.eq_iff_iff, staticPageTextStringIsUnsafe, staticPageTextStringIsUnsafe, any_contains_iff, any_contains_iff]
  exact hasMarkers_trim (by decide) text

/-- A text that passes for a chart has no marker but the start of a tag. -/
theorem safe_of_chart {text : String} (chart : chartStringIsUnsafe text = false)
    (tagFree : tagMarkers.any (contains (asciiLower text)) = false) : staticPageTextStringIsUnsafe text = false := by
  rw [chartStringIsUnsafe, Bool.or_eq_false_iff] at chart
  rw [staticPageTextStringIsUnsafe, List.any_append, Bool.or_eq_false_iff]
  refine ⟨List.any_eq_false.mpr fun marker listed => ?_, tagFree⟩
  refine List.any_eq_false.mp chart.1 marker ?_
  revert marker
  decide

theorem tagFree_of_safe {text : String} (safe : staticPageTextStringIsUnsafe text = false) :
    tagMarkers.any (contains (asciiLower text)) = false := by
  rw [staticPageTextStringIsUnsafe, List.any_append, Bool.or_eq_false_iff] at safe
  exact safe.2

end Markers

section Values

variable {value : Value} {object : Map}

theorem safeTexts_ofMap : SafeTexts (.ofMap object) ↔ ∀ key value, object.get? key = some value → SafeTexts value := by
  refine throughout_ofMap.trans (forall₃_congr fun key value _ => ?_)
  exact ⟨fun whole => whole.2.anywhere, fun whole => ⟨trivial, whole.anywhere⟩⟩

theorem SafeTexts.member (safe : SafeTexts value) {key : String} {item : Value} (found : value.get key = some item) :
    SafeTexts item := by
  cases value with
  | object entries => exact (safe.entry (SortedMap.mem_of_findEntry found)).2.anywhere
  | _ => cases found

theorem SafeTexts.tagFree (safe : SafeTexts value) : TagFree value :=
  safe.mono (fun _ _ => trivial) fun _ _ => tagFree_of_safe

theorem SafeTextOrNull.safeTexts (safe : SafeTextOrNull value) : SafeTexts value := by
  rcases safe with rfl | ⟨text, rfl, unmarked⟩
  · exact .null
  · exact .string unmarked

end Values

section Charts

/-- No text of the value is refused in a chart. -/
abbrev ChartTexts : Value → Prop := Throughout (fun _ => True) (fun _ text => chartStringIsUnsafe text = false) none

mutual

theorem chartTexts_of_value (depth : Nat) :
    ∀ value result, validateChartJsonValue depth value = .ok result → ChartTexts value
  | .null, _, _ => .null
  | .bool _, _, _ => .bool
  | .number _, _, _ => .number
  | .string text, _, passed => by
    rw [validateChartJsonValue] at passed
    split at passed
    · cases passed
    · split at passed
      · cases passed
      · rename_i fine
        exact .string (Bool.eq_false_of_not_eq_true fine)
  | .array items, _, passed => by
    rw [validateChartJsonValue] at passed
    split at passed
    · cases passed
    · exact .array (chartTexts_of_items (depth + 1) items _ passed)
  | .object entries, _, passed => by
    rw [validateChartJsonValue] at passed
    split at passed
    · cases passed
    · exact .object (fun _ _ => trivial) fun entry inside => (chartTexts_of_entries (depth + 1) entries _ passed entry inside).anywhere

theorem chartTexts_of_items (depth : Nat) :
    ∀ items result, validateChartItems depth items = .ok result → ∀ item ∈ items, ChartTexts item
  | [], _, _, item, inside => by cases inside
  | first :: rest, result, passed, item, inside => by
    rw [validateChartItems, bind_eq_ok] at passed
    obtain ⟨_, own, later⟩ := passed
    rcases List.mem_cons.mp inside with same | tail
    · rw [same]
      exact chartTexts_of_value depth first _ own
    · exact chartTexts_of_items depth rest _ later item tail

theorem chartTexts_of_entries (depth : Nat) :
    ∀ entries result, validateChartEntries depth entries = .ok result → ∀ entry ∈ entries, ChartTexts entry.2
  | [], _, _, entry, inside => by cases inside
  | (key, value) :: rest, result, passed, entry, inside => by
    rw [validateChartEntries] at passed
    split at passed
    · cases passed
    · rw [bind_eq_ok] at passed
      obtain ⟨_, own, later⟩ := passed
      rcases List.mem_cons.mp inside with same | tail
      · rw [same]
        exact chartTexts_of_value depth value _ own
      · exact chartTexts_of_entries depth rest _ later entry tail

end

/-- What passes for a chart has no marker, unless it has the start of a tag. -/
theorem ChartTexts.safe {value : Value} (chart : ChartTexts value) (tagFree : TagFree value) : SafeTexts value :=
  (chart.and tagFree).mono (fun _ _ => trivial) fun _ _ both => safe_of_chart both.1 both.2

theorem chartTexts_of_options {chartRuntime : String} {value : Value} {result : Unit}
    (passed : validateChartOptions chartRuntime value = .ok result) : ChartTexts value := by
  rw [validateChartOptions] at passed
  cases shape : value.asMap with
  | none =>
    rw [shape] at passed
    cases passed
  | some object =>
    rw [shape] at passed
    obtain ⟨_, own, _⟩ := bind_eq_ok.mp passed
    exact chartTexts_of_value 0 value _ own

theorem chartTexts_of_rows {object : Map} {result : Unit} (passed : validateRows object = .ok result) {key : String}
    (row : key ∈ rowKeys) {value : Value} (found : object.get? key = some value) : ChartTexts value := by
  rw [validateRows, checkEach_eq_ok] at passed
  exact chartTexts_of_value 0 value _ (checkMember_eq_ok.mp (passed key row) value found)

end Charts

section Validators

variable {value : Value} {result : Unit}

theorem safe_of_trim {text : String} {words : List String} (listed : words.contains (trim text) = true)
    (each : words.all (!staticPageTextStringIsUnsafe ·) = true) : SafeTexts (.string text) := by
  refine .string ?_
  rw [unsafe_trim]
  simpa using List.all_eq_true.mp each (trim text) (List.contains_iff_mem.mp listed)

theorem visualizationTypes_safe : supportedVisualizationTypes.all (!staticPageTextStringIsUnsafe ·) = true := by
  decide +kernel

/-- A runtime is null or, up to blanks, one of two words. -/
theorem safeTexts_of_runtime {fieldName : String} {runtime : Option String}
    (passed : validateChartRuntime value fieldName = .ok runtime) : SafeTexts value := by
  cases value with
  | null => exact .null
  | string text =>
    unfold validateChartRuntime at passed
    dsimp only at passed
    split at passed
    · rename_i trimmed found
      split at passed
      · rename_i supported
        have same : trim text = trimmed := (Option.filter_eq_some_iff.mp found).1 |> Option.some.inj
        exact safe_of_trim (same ▸ supported) (by decide +kernel)
      · cases passed
    · cases passed
  | _ => cases passed

theorem safeTexts_of_type (passed : validateVisualizationType value = .ok result)
    (kind : value.asStr = none → SafeTexts value) : SafeTexts value := by
  cases value with
  | string text =>
    have supported : isSupportedVisualizationType text = true := requireThat_eq_ok.mp passed
    refine .string ?_
    simpa using List.all_eq_true.mp visualizationTypes_safe text (List.contains_iff_mem.mp supported)
  | _ => exact kind rfl

theorem safeTexts_of_binding (passed : validateDataBinding value = .ok result)
    (evidence : ∀ ids, value.get "evidenceIds" = some ids → SafeTexts ids) : SafeTexts value := by
  rw [validateDataBinding] at passed
  cases shape : value.asMap with
  | none =>
    rw [shape] at passed
    cases passed
  | some object =>
    rw [shape] at passed
    obtain ⟨_, known, passed⟩ := bind_eq_ok.mp passed
    obtain ⟨_, texts, _⟩ := bind_eq_ok.mp passed
    rw [asMap_eq_some] at shape
    subst shape
    refine safeTexts_ofMap.mpr fun key item found => ?_
    rcases List.mem_append.mp (requireKnownKeys_eq_ok.mp known key item found) with text | list
    · have checked := checkMember_eq_ok.mp (checkEach_eq_ok.mp texts key text) item found
      exact (validateSafeOptionalString_eq_ok.mp checked).safeTexts
    · rw [List.mem_singleton] at list
      exact evidence item (list ▸ found)

/-- The visualization of a module, with what its checks leave out. -/
theorem safeTexts_of_visualization (passed : validateVisualizationPatch value = .ok result)
    (kind : ∀ kind, value.get "type" = some kind → kind.asStr = none → SafeTexts kind)
    (chart : ∀ key ∈ chartKeys, ∀ part, value.get key = some part → TagFree part) : SafeTexts value := by
  rw [validateVisualizationPatch] at passed
  cases shape : value.asMap with
  | none =>
    rw [shape] at passed
    cases passed
  | some object =>
    rw [shape] at passed
    obtain ⟨_, known, passed⟩ := bind_eq_ok.mp passed
    obtain ⟨_, typed, passed⟩ := bind_eq_ok.mp passed
    obtain ⟨_, labelled, passed⟩ := bind_eq_ok.mp passed
    obtain ⟨runtime, running, passed⟩ := bind_eq_ok.mp passed
    obtain ⟨_, options, rows⟩ := bind_eq_ok.mp passed
    rw [asMap_eq_some] at shape
    subst shape
    refine safeTexts_ofMap.mpr fun key item found => ?_
    rcases List.mem_append.mp (requireKnownKeys_eq_ok.mp known key item found) with own | row
    · simp only [List.mem_cons, List.not_mem_nil, or_false] at own
      rcases own with rfl | rfl | rfl | rfl
      · exact safeTexts_of_type (checkMember_eq_ok.mp typed item found) (kind item found)
      · exact (validateSafeOptionalString_eq_ok.mp (checkMember_eq_ok.mp labelled item found)).safeTexts
      · rw [found] at running
        exact safeTexts_of_runtime running
      · exact (chartTexts_of_options (checkMember_eq_ok.mp options item found)).safe
          (chart "chartOptions" List.mem_cons_self item found)
    · exact (chartTexts_of_rows rows row found).safe (chart key (List.mem_cons_of_mem _ row) item found)

end Validators

section Operations

variable {operation written : Value} {result : Unit}

/-- What the checks leave out is among what is shown. -/
theorem uncheckedSafe_of_shown (shown : ShownSafe written) : UncheckedSafe written where
  evidence binding ids bound listed := (shown "dataBinding" (by decide) binding bound).member listed
  second binding bound := shown "data_binding" (by decide) binding bound
  kind visualization kind drawn typed _ := (shown "visualization" (by decide) visualization drawn).member typed
  options options given := (shown "chartOptions" (by decide) options given).tagFree
  chart visualization drawn _ _ _ found := ((shown "visualization" (by decide) visualization drawn).member found).tagFree

/-- The members that an added module and a patch have in common. -/
theorem shown_member {object : Map} (unchecked : UncheckedSafe (.ofMap object)) {key : String} {value : Value}
    (found : object.get? key = some value)
    (texts : key ∈ ["title", "content", "dataLabel"] → SafeTextOrNull value)
    (binding : key = "dataBinding" → validateDataBinding value = .ok ())
    (visualization : key = "visualization" → validateVisualizationPatch value = .ok ())
    (options : key = "chartOptions" → ∃ runtime, validateChartOptions runtime value = .ok ())
    (shown : key ∈ shownKeys) : SafeTexts value := by
  simp only [shownKeys, List.mem_cons, List.not_mem_nil, or_false] at shown
  rcases shown with rfl | rfl | rfl | rfl | rfl | rfl | rfl
  · exact (texts (by decide)).safeTexts
  · exact (texts (by decide)).safeTexts
  · exact (texts (by decide)).safeTexts
  · exact safeTexts_of_binding (binding rfl) fun ids listed => unchecked.evidence value ids found listed
  · exact unchecked.second value found
  · exact safeTexts_of_visualization (visualization rfl) (fun kind typed => unchecked.kind value kind found typed)
      (unchecked.chart value found)
  · obtain ⟨runtime, passed⟩ := options rfl
    exact (chartTexts_of_options passed).safe (unchecked.options value found)

theorem shownSafe_of_module (passed : validateModuleContract written = .ok result) (unchecked : UncheckedSafe written) :
    ShownSafe written := by
  rw [validateModuleContract] at passed
  cases shape : written.asMap with
  | none =>
    rw [shape] at passed
    cases passed
  | some object =>
    rw [shape] at passed
    obtain ⟨_, _, passed⟩ := bind_eq_ok.mp passed
    obtain ⟨_, texts, passed⟩ := bind_eq_ok.mp passed
    obtain ⟨_, bound, passed⟩ := bind_eq_ok.mp passed
    obtain ⟨_, drawn, passed⟩ := bind_eq_ok.mp passed
    obtain ⟨runtime, _, passed⟩ := bind_eq_ok.mp passed
    obtain ⟨_, options, _⟩ := bind_eq_ok.mp passed
    rw [asMap_eq_some] at shape
    subst shape
    intro key shown value found
    refine shown_member unchecked found (fun text => ?_) (fun binding => ?_) (fun same => ?_) (fun same => ?_) shown
    · have listed : key ∈ ["id", "role", "title", "content", "dataLabel"] :=
        List.mem_cons_of_mem _ (List.mem_cons_of_mem _ text)
      exact validateSafeOptionalString_eq_ok.mp (checkMember_eq_ok.mp (checkEach_eq_ok.mp texts key listed) value found)
    · have own : object.get? "dataBinding" = some value := binding ▸ found
      exact checkFound_eq_ok.mp bound value (by rw [own]; rfl)
    · exact checkMember_eq_ok.mp drawn value (same ▸ found)
    · exact ⟨runtime, checkMember_eq_ok.mp options value (same ▸ found)⟩

theorem shownSafe_of_patch (passed : validateUpdateModulePatch operation = .ok result)
    (given : operation.get "patch" = some written) (unchecked : UncheckedSafe written) : ShownSafe written := by
  rw [validateUpdateModulePatch, given] at passed
  obtain ⟨own, same, passed⟩ := bind_eq_ok.mp passed
  cases okOr_eq_ok.mp same
  obtain ⟨object, shape, passed⟩ := bind_eq_ok.mp passed
  obtain ⟨_, _, passed⟩ := bind_eq_ok.mp passed
  obtain ⟨_, texts, passed⟩ := bind_eq_ok.mp passed
  obtain ⟨_, bound, passed⟩ := bind_eq_ok.mp passed
  obtain ⟨_, drawn, passed⟩ := bind_eq_ok.mp passed
  obtain ⟨runtime, _, options⟩ := bind_eq_ok.mp passed
  rw [okOr_eq_ok, asMap_eq_some] at shape
  subst shape
  intro key shown value found
  refine shown_member unchecked found (fun text => ?_) (fun same => ?_) (fun same => ?_) (fun same => ?_) shown
  · exact validateSafeOptionalString_eq_ok.mp (checkMember_eq_ok.mp (checkEach_eq_ok.mp texts key text) value found)
  · exact checkMember_eq_ok.mp bound value (same ▸ found)
  · exact checkMember_eq_ok.mp drawn value (same ▸ found)
  · exact ⟨runtime, checkMember_eq_ok.mp options value (same ▸ found)⟩

/-- A module made of one member is safe where the member is. -/
theorem shownSafe_json {key : String} {value : Value} (safe : SafeTexts value) : ShownSafe (json [(key, value)]) := by
  intro other _ item found
  have inside := SortedMap.mem_of_get?_ofList found
  rw [List.mem_singleton, Prod.mk.injEq] at inside
  exact inside.2 ▸ safe

theorem get_json {key : String} {value : Value} : (json [(key, value)]).get key = some value := by
  exact SortedMap.get?_insert_self _ key value

theorem shownSafe_of_changedBinding {dataBinding : Value} (passed : validateDataBinding dataBinding = .ok result)
    (unchecked : UncheckedSafe (json [("dataBinding", dataBinding)])) : ShownSafe (json [("dataBinding", dataBinding)]) :=
  shownSafe_json (safeTexts_of_binding passed fun ids listed => unchecked.evidence dataBinding ids get_json listed)

/-- A value put into an object, if there is one. -/
theorem members_setFound (object : Map) (key : String) (found : Option Value) :
    ∃ after, setFound (.ofMap object) key found = .ofMap after ∧
      ∀ other item, after.get? other = some item → (other = key ∧ found = some item) ∨ object.get? other = some item := by
  cases found with
  | none => exact ⟨object, rfl, fun _ _ listed => .inr listed⟩
  | some value =>
    refine ⟨object.insert key value, setPayloadValue_ofMap object key value, fun other item listed => ?_⟩
    rw [SortedMap.get?_insert] at listed
    split at listed
    · rename_i same
      exact .inl ⟨same, listed⟩
    · exact .inr listed

/-- The members of the visualization that an operation writes. -/
theorem members_changedVisualization (operation : Value) (visualizationType : String) :
    ∃ object, changedVisualization operation visualizationType = .ofMap object ∧
      ∀ key value, object.get? key = some value → key = "type" ∧ value = .string visualizationType ∨
        key = "chartRuntime" ∧ operation.get "chartRuntime" = some value ∨
        key = "chartOptions" ∧ operation.get "chartOptions" = some value := by
  obtain ⟨running, ran, first⟩ :=
    members_setFound (.ofList [("type", .string visualizationType)]) "chartRuntime" (operation.get "chartRuntime")
  obtain ⟨object, drawn, second⟩ := members_setFound running "chartOptions" (operation.get "chartOptions")
  refine ⟨object, ?_, fun key value found => ?_⟩
  · rw [← drawn, ← ran]
    rfl
  · rcases second key value found with options | earlier
    · exact .inr (.inr options)
    · rcases first key value earlier with runtime | base
      · exact .inr (.inl runtime)
      · have inside := SortedMap.mem_of_get?_ofList base
        rw [List.mem_singleton, Prod.mk.injEq] at inside
        exact .inl inside

theorem shownSafe_of_changedVisualization {visualizationType : String}
    (given : operation.get "visualizationType" >>= Value.asStr = some visualizationType)
    (passed : validateChangeVisualization operation = .ok result)
    (unchecked : UncheckedSafe (json [("visualization", changedVisualization operation visualizationType)])) :
    ShownSafe (json [("visualization", changedVisualization operation visualizationType)]) := by
  rw [validateChangeVisualization] at passed
  obtain ⟨trimmed, named, passed⟩ := bind_eq_ok.mp passed
  obtain ⟨_, supported, passed⟩ := bind_eq_ok.mp passed
  obtain ⟨runtime, running, options⟩ := bind_eq_ok.mp passed
  have same : trim visualizationType = trimmed := by
    rw [requireNonEmptyString, okOr_eq_ok, nonEmptyString, given, Option.map_some, Option.filter_eq_some_iff] at named
    exact Option.some.inj named.1
  have chart := unchecked.chart _ get_json
  obtain ⟨object, shape, members⟩ := members_changedVisualization operation visualizationType
  apply shownSafe_json
  rw [shape] at chart ⊢
  refine safeTexts_ofMap.mpr fun key value found => ?_
  rcases members key value found with ⟨_, rfl⟩ | ⟨_, listed⟩ | ⟨rfl, listed⟩
  · exact safe_of_trim (same ▸ requireThat_eq_ok.mp supported) visualizationTypes_safe
  · rw [listed] at running
    exact safeTexts_of_runtime running
  · exact (chartTexts_of_options (checkFound_eq_ok.mp options value listed)).safe
      (chart "chartOptions" List.mem_cons_self value found)

/-- An operation put into the payload: a module added, or merged into the one it names. -/
def writeModule (payload operation : Value) (operationType : OperationType) (written : Value) : Value :=
  if operationType = .addModule then pushStaticPageModule payload written else mergeNamedModule payload operation (some written)

theorem applyOperationOf_written {operationType : OperationType} (writes : writtenModule operation operationType = some written)
    (sources : DesignSources) (payload : Value) :
    applyOperationOf sources payload operation operationType = writeModule payload operation operationType written := by
  cases operationType with
  | addModule =>
    have given : operation.get "module" = some written := writes
    rw [applyOperationOf, given]
    rfl
  | updateModule | changeVisualization | changeDataBinding => exact congrArg (mergeNamedModule payload operation) writes
  | _ => cases writes

theorem shownSafe_of_valid {operationType : OperationType} (valid : validateStaticPageOperation operation operationType = .ok ())
    (writes : writtenModule operation operationType = some written) (unchecked : UncheckedSafe written) :
    ShownSafe written := by
  cases operationType with
  | addModule =>
    obtain ⟨module, given, passed⟩ := bind_eq_ok.mp valid
    have own : operation.get "module" = some written := writes
    rw [okOr_eq_ok, own, Option.some.injEq] at given
    exact shownSafe_of_module (given ▸ passed) unchecked
  | updateModule =>
    obtain ⟨_, _, passed⟩ := bind_eq_ok.mp valid
    exact shownSafe_of_patch passed writes unchecked
  | changeVisualization =>
    obtain ⟨_, _, passed⟩ := bind_eq_ok.mp valid
    obtain ⟨visualizationType, given, rfl⟩ := Option.map_eq_some_iff.mp writes
    exact shownSafe_of_changedVisualization given passed unchecked
  | changeDataBinding =>
    obtain ⟨_, _, bound⟩ := bind_eq_ok.mp valid
    obtain ⟨dataBinding, given, passed⟩ := bind_eq_ok.mp bound
    obtain ⟨own, found, rfl⟩ := Option.map_eq_some_iff.mp writes
    rw [okOr_eq_ok, found, Option.some.injEq] at given
    exact shownSafe_of_changedBinding (given ▸ passed) unchecked
  | _ => cases writes

/-- The texts that an accepted operation writes into a module have no marker exactly if
the parts that the checks leave out have none. -/
theorem accepted_texts_safe_iff {given : Value} (accepted : sanitizeStaticPageOperation given = .ok operation)
    {operationType : OperationType} (typed : staticPageOperationType operation = some operationType.asStr)
    (writes : writtenModule operation operationType = some written) :
    (∀ sources payload, applyStaticPageOperation sources payload operation =
      writeModule payload operation operationType written) ∧ (ShownSafe written ↔ UncheckedSafe written) := by
  obtain ⟨own, checked⟩ := sanitizeStaticPageOperation_checked accepted
  obtain ⟨named, valid⟩ := checkStaticPageOperation_eq_ok.mp checked
  have same : own = operationType := by
    rw [named, Option.some.injEq] at typed
    exact OperationType.asStr_injective typed
  subst same
  refine ⟨fun sources payload => ?_, uncheckedSafe_of_shown, shownSafe_of_valid valid writes⟩
  rw [applyStaticPageOperation, named, Option.bind_eq_bind, Option.bind_some, OperationType.ofStr_asStr]
  exact applyOperationOf_written writes sources payload

end Operations

section Samples

/-- A patch with markup among its evidence ids. -/
def evidenceOperation (id : String) : Value :=
  json [("type", .string "update_module"), ("targetModuleId", .string "hero"),
    ("patch", json [("dataBinding", json [("evidenceIds", .array [.string id])])])]

/-- The first evidence id that the operation writes. -/
def evidenceText (operation : Value) : Option String :=
  writtenModule operation .updateModule >>= (·.get "dataBinding") >>= (·.get "evidenceIds") >>= Value.asArray >>= List.head? >>=
    Value.asStr

theorem evidenceText_safe {operation : Value} {text : String} (found : evidenceText operation = some text) :
    ∃ patch, writtenModule operation .updateModule = some patch ∧
      (ShownSafe patch → staticPageTextStringIsUnsafe text = false) := by
  obtain ⟨first, found, isText⟩ := Option.bind_eq_some_iff.mp found
  obtain ⟨items, found, head⟩ := Option.bind_eq_some_iff.mp found
  obtain ⟨ids, found, isList⟩ := Option.bind_eq_some_iff.mp found
  obtain ⟨binding, found, listed⟩ := Option.bind_eq_some_iff.mp found
  obtain ⟨patch, writes, bound⟩ := Option.bind_eq_some_iff.mp found
  refine ⟨patch, writes, fun shown => ?_⟩
  have safe := (shown "dataBinding" (by decide) binding bound).member listed
  cases safe with
  | array each =>
    cases isList
    cases each first (List.mem_of_mem_head? head) with
    | string fine =>
      cases isText
      exact fine
    | _ => cases isText
  | _ => cases isList

theorem evidence_id_written : ∃ operation patch,
    sanitizeStaticPageOperation (evidenceOperation "<script>alert(1)</script>") = .ok operation ∧
      writtenModule operation .updateModule = some patch ∧ ¬ ShownSafe patch := by
  have written : (sanitizeStaticPageOperation (evidenceOperation "<script>alert(1)</script>")).toOption >>= evidenceText =
      some "<script>alert(1)</script>" := by decide
  obtain ⟨operation, accepted, found⟩ := Option.bind_eq_some_iff.mp written
  obtain ⟨patch, writes, safe⟩ := evidenceText_safe found
  have marked : staticPageTextStringIsUnsafe "<script>alert(1)</script>" = true := by decide +kernel
  refine ⟨operation, patch, ?_, writes, fun shown => ?_⟩
  · cases ran : sanitizeStaticPageOperation (evidenceOperation "<script>alert(1)</script>") with
    | error error => simp [ran, Except.toOption] at accepted
    | ok result => simpa [ran, Except.toOption] using accepted
  · rw [safe shown] at marked
    cases marked

/-- A patch with a document among its evidence ids. -/
theorem accepted_texts_safe_iff_document : ∃ operation patch,
    sanitizeStaticPageOperation (evidenceOperation "doc-1") = .ok operation ∧
      writtenModule operation .updateModule = some patch ∧ (ShownSafe patch ↔ UncheckedSafe patch) := by
  have written : (sanitizeStaticPageOperation (evidenceOperation "doc-1")).toOption.any (fun operation =>
      decide (staticPageOperationType operation = some OperationType.updateModule.asStr) &&
        (writtenModule operation .updateModule).isSome) = true := by decide
  cases ran : sanitizeStaticPageOperation (evidenceOperation "doc-1") with
  | error error => simp [ran, Except.toOption] at written
  | ok operation =>
    rw [ran] at written
    obtain ⟨typed, writes⟩ := (Bool.and_eq_true _ _).mp written
    obtain ⟨patch, given⟩ := Option.isSome_iff_exists.mp writes
    exact ⟨operation, patch, rfl, given, (accepted_texts_safe_iff ran (of_decide_eq_true typed) given).2⟩

end Samples

end DataMax.StaticPage
