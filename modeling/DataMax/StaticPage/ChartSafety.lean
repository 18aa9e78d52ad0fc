import DataMax.StaticPage.Charts

/-! Which texts and keys a chart option has: the chart options of the module are
cleaned, the labels of the data points are not. -/

namespace DataMax.StaticPage

open Domain Json Library

section Statements

/-- No text and no key of the option is one that is rejected. -/
abbrev CleanChart : Value → Prop :=
  Throughout (fun key => isDangerousChartKey key = false) (fun _ text => isSafeChartString text = true) none

/-- The charts that have a default. -/
def drawnVisualizations : List String :=
  ["donut-chart", "line-chart", "bar-chart", "risk-matrix", "kpi-cards", "table", "timeline"]

/-- The part of the default option that has the labels. -/
def labelPart (visualization : String) : String := if visualization = "donut-chart" then "series" else "xAxis"

def sanitizedOptions (module : Value) : Map := ((moduleChartOptions module).map sanitizeEchartsOptions).getD .empty

/-- The chart options of the module as far as they are put over the default. -/
def appliedOptions (module : Value) : Map :=
  if echartsOptionHasData (.ofMap (sanitizedOptions module)) then sanitizedOptions module else .empty

/-- A label of the data points that the chart options of the module leave in its place. -/
structure ShowsLabel (module : Value) (visualization : String) (dataSnapshot : Value) (label : String) : Prop where
  runtime : moduleChartRuntime module = "echarts"
  drawn : visualization ∈ drawnVisualizations
  kept : (appliedOptions module).get? (labelPart visualization) = none
  listed : label ∈ (chartPoints module dataSnapshot).map ChartPoint.label

end Statements

section Cleaning

mutual

theorem sanitizeChartJsonValue_clean : ∀ value cleaned, sanitizeChartJsonValue value = some cleaned → CleanChart cleaned
  | .null, _, same => by
    cases same
    exact .null
  | .bool _, _, same => by
    cases same
    exact .bool
  | .number _, _, same => by
    cases same
    exact .number
  | .string text, cleaned, same => by
    rw [sanitizeChartJsonValue] at same
    split at same
    · rename_i safe
      cases same
      exact .string safe
    · cases same
  | .array items, cleaned, same => by
    rw [sanitizeChartJsonValue] at same
    cases same
    exact .array (sanitizeChartItems_clean items)
  | .object entries, cleaned, same => by
    have members := sanitizeChartEntries_clean entries
    rw [sanitizeChartJsonValue] at same
    split at same
    · cases same
    · cases same
      exact .object (fun entry inside => (members entry inside).1) fun entry inside => (members entry inside).2.anywhere

theorem sanitizeChartItems_clean : ∀ items, ∀ item ∈ sanitizeChartItems items, CleanChart item
  | [], item, inside => by cases inside
  | first :: rest, item, inside => by
    rw [sanitizeChartItems, List.mem_append] at inside
    rcases inside with own | later
    · exact sanitizeChartJsonValue_clean first item (Option.mem_toList.mp own)
    · exact sanitizeChartItems_clean rest item later

theorem sanitizeChartEntries_clean : ∀ entries, ∀ entry ∈ sanitizeChartEntries entries,
    isDangerousChartKey entry.1 = false ∧ CleanChart entry.2
  | [], entry, inside => by cases inside
  | (key, value) :: rest, entry, inside => by
    have others := sanitizeChartEntries_clean rest entry
    rw [sanitizeChartEntries] at inside
    split at inside
    · exact others inside
    · rename_i harmless
      cases cleaned : sanitizeChartJsonValue value with
      | none =>
        rw [cleaned] at inside
        exact others inside
      | some kept =>
        rw [cleaned] at inside
        rcases List.mem_cons.mp inside with rfl | later
        · exact ⟨Bool.eq_false_of_not_eq_true harmless, sanitizeChartJsonValue_clean value kept cleaned⟩
        · exact others later

end

/-- The members of a clean object. -/
def CleanMembers (map : Map) : Prop :=
  ∀ key value, map.get? key = some value → isDangerousChartKey key = false ∧ CleanChart value

theorem cleanChart_ofMap {map : Map} : CleanChart (.ofMap map) ↔ CleanMembers map := by
  exact throughout_ofMap.trans (forall₃_congr fun _ _ _ => and_congr_right fun _ => ⟨(·.anywhere), (·.anywhere)⟩)

theorem allowed_harmless {key : String} (allowed : isAllowedEchartsTopLevelKey key) : isDangerousChartKey key = false := by
  have checked : ["animation", "aria", "backgroundColor", "color", "dataset", "grid", "legend", "series", "title",
      "tooltip", "xAxis", "yAxis", "radiusAxis", "angleAxis", "polar", "radar", "visualMap"].all
        (!isDangerousChartKey ·) := by decide +kernel
  simpa using List.all_eq_true.mp checked key (List.contains_iff_mem.mp allowed)

theorem sanitizeEchartsSeries_clean {value item : Value} (listed : item ∈ sanitizeEchartsSeries value) :
    CleanChart item := by
  obtain ⟨original, _, made⟩ := List.mem_filterMap.mp listed
  split at made
  · obtain ⟨seriesType, _, kept⟩ := Option.bind_eq_some_iff.mp made
    split at kept
    · exact sanitizeChartJsonValue_clean original item kept
    · cases kept
  · cases made

theorem sanitizeEchartsMember_clean {key : String} {item cleaned : Value}
    (made : sanitizeEchartsMember key item = some cleaned) : isDangerousChartKey key = false ∧ CleanChart cleaned := by
  rw [sanitizeEchartsMember] at made
  split at made
  · cases made
  · rename_i allowed
    refine ⟨allowed_harmless (by simpa using allowed), ?_⟩
    split at made
    · dsimp only at made
      split at made
      · cases made
      · cases made
        exact .array fun item listed => sanitizeEchartsSeries_clean listed
    · exact sanitizeChartJsonValue_clean item cleaned made

theorem sanitizeEchartsOptions_clean (value : Value) : CleanMembers (sanitizeEchartsOptions value) := by
  intro key cleaned found
  unfold sanitizeEchartsOptions at found
  split at found
  · obtain ⟨entry, _, made⟩ := List.mem_filterMap.mp (SortedMap.mem_of_get?_ofList found)
    obtain ⟨kept, member, same⟩ := Option.map_eq_some_iff.mp made
    cases same
    exact sanitizeEchartsMember_clean member
  · cases found

theorem appliedOptions_clean (module : Value) : CleanMembers (appliedOptions module) := by
  rw [appliedOptions]
  split
  · rw [sanitizedOptions]
    cases moduleChartOptions module with
    | none =>
      intro key value found
      cases found
    | some options => exact sanitizeEchartsOptions_clean options
  · intro key value found
    cases found

end Cleaning

section Defaults

/-- The keys of an object literal, none of them written twice or rejected. -/
abbrev HarmlessKeys (keys : List String) : Prop := keys.Nodup ∧ ∀ key ∈ keys, isDangerousChartKey key = false

theorem mem_json {entries : List (String × Value)} {keys : List String} (distinct : keys.Nodup)
    (named : entries.map (·.1) = keys) (key : String) (item : Value) :
    (SortedMap.ofList entries).get? key = some item ↔ (key, item) ∈ entries := by
  have listed : (key, item) ∈ (SortedMap.ofList entries).entries ↔ (SortedMap.ofList entries).get? key = some item :=
    SortedMap.mem_entries_iff
  exact listed.symm.trans (SortedMap.mem_ofList (named ▸ distinct))

theorem cleanChart_json {entries : List (String × Value)} {keys : List String} (harmless : HarmlessKeys keys)
    (named : entries.map (·.1) = keys) : CleanChart (json entries) ↔ ∀ entry ∈ entries, CleanChart entry.2 := by
  refine cleanChart_ofMap.trans ⟨fun whole entry inside => ?_, fun each key value found => ?_⟩
  · exact (whole entry.1 entry.2 ((mem_json harmless.1 named _ _).mpr inside)).2
  · have inside := (mem_json harmless.1 named _ _).mp found
    exact ⟨harmless.2 key (named ▸ List.mem_map_of_mem inside), each _ inside⟩

theorem cleanChart_array {items : List Value} : CleanChart (.array items) ↔ ∀ item ∈ items, CleanChart item := by
  constructor
  · intro whole item inside
    cases whole with
    | array fine => exact (fine item inside).anywhere
  · intro each
    exact .array each

theorem cleanChart_string {text : String} : CleanChart (.string text) ↔ isSafeChartString text = true := by
  constructor
  · intro whole
    cases whole with
    | string fine => exact fine
  · intro safe
    exact .string safe

/-- An option has data as soon as one item of its series has some. -/
theorem hasData_of_series {option item : Value} {points : List Value}
    (series : option.get "series" = some (.array [item])) (data : item.get "data" = some (.array points))
    (some_points : points ≠ []) : echartsOptionHasData option = true := by
  simp [echartsOptionHasData, series, data, Value.asArray, some_points]

/-- An option that has the labels of its points under one key, and is otherwise clean. -/
structure DrawnUnder (part : String) (points : List ChartPoint) (base : Map) : Prop where
  labelled : ∃ item, base.get? part = some item ∧
    (CleanChart item ↔ ∀ label ∈ points.map ChartPoint.label, isSafeChartString label = true)
  others : ∀ key item, base.get? key = some item →
    isDangerousChartKey key = false ∧ (key ≠ part → CleanChart item)
  full : points ≠ [] → echartsOptionHasData (.ofMap base) = true

/-- The keys that the options of the drawn charts have, and the texts that all of them have. -/
def drawnKeys : List String := ["animation", "tooltip", "grid", "xAxis", "yAxis", "series", "left", "right", "top", "bottom",
  "containLabel", "type", "data", "radius", "name", "value", "trigger"]

def drawnTexts : List String := ["pie", "46%", "72%", "category", "value", "item", "axis", "bar", "line"]

theorem drawnKeys_harmless : drawnKeys.all (!isDangerousChartKey ·) = true := by decide +kernel

theorem drawnTexts_safe : drawnTexts.all isSafeChartString = true := by decide +kernel

theorem harmlessKeys_of_drawn {keys : List String} (distinct : keys.Nodup) (drawn : keys ⊆ drawnKeys) :
    HarmlessKeys keys := by
  refine ⟨distinct, fun key listed => ?_⟩
  simpa using List.all_eq_true.mp drawnKeys_harmless key (drawn listed)

theorem safe_of_drawn {text : String} (drawn : text ∈ drawnTexts) : isSafeChartString text = true :=
  List.all_eq_true.mp drawnTexts_safe text drawn

theorem cleanChart_trigger (trigger : String) (safe : isSafeChartString trigger = true) :
    CleanChart (json [("trigger", .string trigger)]) := by
  have harmless : HarmlessKeys ["trigger"] :=
    harmlessKeys_of_drawn (by decide) (by simp [drawnKeys])
  refine (cleanChart_json harmless (by rfl)).mpr fun entry inside => ?_
  simp only [List.mem_singleton] at inside
  exact inside ▸ .string safe

theorem donutPoint_clean (point : ChartPoint) :
    CleanChart (json [("name", .string point.label), ("value", .ofF64 point.value)]) ↔
      isSafeChartString point.label = true := by
  have harmless : HarmlessKeys ["name", "value"] :=
    harmlessKeys_of_drawn (by decide) (by simp [drawnKeys])
  refine (cleanChart_json harmless (by rfl)).trans ?_
  simp [cleanChart_string, throughout_ofF64]

theorem pieSeries_clean (points : List ChartPoint) :
    CleanChart (pieSeries points) ↔ ∀ label ∈ points.map ChartPoint.label, isSafeChartString label = true := by
  have harmless : HarmlessKeys ["type", "radius", "data"] :=
    harmlessKeys_of_drawn (by decide) (by simp [drawnKeys])
  have fixed : isSafeChartString "pie" = true ∧ isSafeChartString "46%" = true ∧ isSafeChartString "72%" = true :=
    ⟨safe_of_drawn (by simp [drawnTexts]), safe_of_drawn (by simp [drawnTexts]), safe_of_drawn (by simp [drawnTexts])⟩
  refine (cleanChart_json harmless (by rfl)).trans ?_
  simp [cleanChart_array, donutPoint_clean, cleanChart_string, fixed]

theorem categoryAxis_clean (points : List ChartPoint) :
    CleanChart (categoryAxis points) ↔ ∀ label ∈ points.map ChartPoint.label, isSafeChartString label = true := by
  have harmless : HarmlessKeys ["type", "data"] :=
    harmlessKeys_of_drawn (by decide) (by simp [drawnKeys])
  have fixed : isSafeChartString "category" = true := safe_of_drawn (by simp [drawnTexts])
  refine (cleanChart_json harmless (by rfl)).trans ?_
  simp [cleanChart_array, labels, cleanChart_string, fixed]

theorem axisSeries_clean {seriesType : String} (safe : isSafeChartString seriesType = true) (points : List ChartPoint) :
    CleanChart (axisSeries seriesType points) := by
  have harmless : HarmlessKeys ["type", "data"] :=
    harmlessKeys_of_drawn (by decide) (by simp [drawnKeys])
  refine (cleanChart_json harmless (by rfl)).mpr ?_
  simp [cleanChart_array, cleanChart_string, safe, throughout_ofF64]

theorem chartGrid_clean : CleanChart chartGrid := by
  have harmless : HarmlessKeys ["left", "right", "top", "bottom", "containLabel"] :=
    harmlessKeys_of_drawn (by decide) (by simp [drawnKeys])
  refine (cleanChart_json harmless (by rfl)).mpr ?_
  simp [Value.ofU64, Throughout.number, Throughout.bool]

theorem valueAxis_clean : CleanChart (json [("type", .string "value")]) := by
  have harmless : HarmlessKeys ["type"] :=
    harmlessKeys_of_drawn (by decide) (by simp [drawnKeys])
  refine (cleanChart_json harmless (by rfl)).mpr ?_
  simp only [List.mem_singleton, forall_eq, cleanChart_string]
  exact safe_of_drawn (by simp [drawnTexts])

/-- An option literal whose members but one are clean. -/
theorem drawnUnder_ofList {entries : List (String × Value)} {keys : List String} {part : String} {item : Value}
    {points : List ChartPoint} (harmless : HarmlessKeys keys) (named : entries.map (·.1) = keys)
    (listed : (part, item) ∈ entries)
    (labelled : CleanChart item ↔ ∀ label ∈ points.map ChartPoint.label, isSafeChartString label = true)
    (others : ∀ entry ∈ entries, entry.1 ≠ part → CleanChart entry.2)
    (full : points ≠ [] → echartsOptionHasData (json entries) = true) : DrawnUnder part points (.ofList entries) where
  labelled := ⟨item, (mem_json harmless.1 named part item).mpr listed, labelled⟩
  others key other found := by
    have inside := (mem_json harmless.1 named key other).mp found
    exact ⟨harmless.2 key (named ▸ List.mem_map_of_mem inside), others (key, other) inside⟩
  full := full

theorem donutOption_drawn (points : List ChartPoint) : DrawnUnder "series" points (donutOption points) := by
  have harmless : HarmlessKeys ["animation", "tooltip", "series"] :=
    harmlessKeys_of_drawn (by decide) (by simp [drawnKeys])
  refine drawnUnder_ofList harmless (by rfl) (by simp; rfl) ?_ ?_ fun present => ?_
  · simp [cleanChart_array, pieSeries_clean]
  · have tooltip : CleanChart (json [("trigger", .string "item")]) :=
      cleanChart_trigger "item" (safe_of_drawn (by simp [drawnTexts]))
    simp [Throughout.bool, tooltip]
  · have data : (pieSeries points).get "data" = some (.array (points.map fun point =>
        json [("name", .string point.label), ("value", .ofF64 point.value)])) :=
      (mem_json (by decide : ["type", "radius", "data"].Nodup) (by rfl) _ _).mpr (by simp)
    exact hasData_of_series ((mem_json harmless.1 (by rfl) _ _).mpr (by simp)) data (by simpa using present)

theorem axisOption_drawn {seriesType : String} (safe : isSafeChartString seriesType = true) (points : List ChartPoint) :
    DrawnUnder "xAxis" points (axisOption seriesType points) := by
  have harmless : HarmlessKeys ["animation", "tooltip", "grid", "xAxis", "yAxis", "series"] :=
    harmlessKeys_of_drawn (by decide) (by simp [drawnKeys])
  refine drawnUnder_ofList harmless (by rfl) (by simp) (categoryAxis_clean points) ?_ fun present => ?_
  · have tooltip : CleanChart (json [("trigger", .string "axis")]) :=
      cleanChart_trigger "axis" (safe_of_drawn (by simp [drawnTexts]))
    simp [Throughout.bool, tooltip, chartGrid_clean, valueAxis_clean, cleanChart_array, axisSeries_clean safe]
  · have data : (axisSeries seriesType points).get "data" = some (.array (points.map (.ofF64 ·.value))) :=
      (mem_json (by decide : ["type", "data"].Nodup) (by rfl) _ _).mpr (by simp)
    exact hasData_of_series ((mem_json harmless.1 (by rfl) _ _).mpr (by simp)) data (by simpa using present)

theorem default_drawn {visualization : String} {points : List ChartPoint} (drawn : visualization ∈ drawnVisualizations)
    (present : points ≠ []) :
    ∃ base, defaultEchartsOption visualization points = some base ∧ DrawnUnder (labelPart visualization) points base := by
  have bar : isSafeChartString "bar" = true := safe_of_drawn (by simp [drawnTexts])
  have line : isSafeChartString "line" = true := safe_of_drawn (by simp [drawnTexts])
  simp only [defaultEchartsOption, List.isEmpty_iff, if_neg present, labelPart]
  by_cases donut : visualization = "donut-chart"
  · rw [if_pos donut, if_pos donut]
    exact ⟨_, rfl, donutOption_drawn points⟩
  · rw [if_neg donut, if_neg donut]
    by_cases lined : visualization = "line-chart"
    · rw [if_pos lined]
      exact ⟨_, rfl, axisOption_drawn line points⟩
    · have others : ["bar-chart", "risk-matrix", "kpi-cards", "table", "timeline"].contains visualization = true := by
        simpa [drawnVisualizations, donut, lined] using drawn
      rw [if_neg lined, if_pos others]
      exact ⟨_, rfl, axisOption_drawn bar points⟩

theorem default_none {visualization : String} {points : List ChartPoint}
    (undrawn : visualization ∉ drawnVisualizations ∨ points = []) : defaultEchartsOption visualization points = none := by
  rw [defaultEchartsOption]
  by_cases present : points = []
  · simp [present]
  · have other : visualization ∉ drawnVisualizations := undrawn.resolve_right present
    simp only [drawnVisualizations, List.mem_cons, not_or] at other
    simp [present, other]

end Defaults

section Emission

/-- The option with the chart options of the module put over its base. -/
def overlaid (module : Value) (base : Map) : Map := base.insertAll (appliedOptions module).entries

theorem get?_overlaid (module : Value) (base : Map) (key : String) :
    (overlaid module base).get? key = ((appliedOptions module).get? key).or (base.get? key) :=
  Map.get?_insertAll_entries base (appliedOptions module) key

/-- The base of the option of a module. -/
def chartBase (module : Value) (visualization : String) (dataSnapshot : Value) : Map :=
  (defaultEchartsOption visualization (chartPoints module dataSnapshot)).getD (.ofList [("animation", .bool false)])

theorem echartsOption_eq {module : Value} (runtime : moduleChartRuntime module = "echarts") (visualization : String)
    (dataSnapshot : Value) :
    echartsOptionForModule module visualization dataSnapshot =
      let option := Value.ofMap (overlaid module (chartBase module visualization dataSnapshot))
      if echartsOptionHasData option then some option else none := by
  have merged : (if echartsOptionHasData (.ofMap (sanitizedOptions module)) then
        mergeObjectValues (.ofMap (chartBase module visualization dataSnapshot)) (.ofMap (sanitizedOptions module))
      else .ofMap (chartBase module visualization dataSnapshot)) =
      Value.ofMap (overlaid module (chartBase module visualization dataSnapshot)) := by
    rw [overlaid, appliedOptions]
    split
    · simp [mergeObjectValues]
    · rfl
  rw [echartsOptionForModule, if_neg (by simp [runtime])]
  exact congrArg (fun option => if echartsOptionHasData option then some option else none) merged

/-- An option with more members has data if it had some. -/
theorem hasData_mono {option larger : Value} (more : ∀ key item, option.get key = some item → larger.get key = some item)
    (full : echartsOptionHasData option = true) : echartsOptionHasData larger = true := by
  rw [echartsOptionHasData, Bool.or_eq_true] at full ⊢
  rcases full with byDataset | bySeries
  · left
    cases found : option.get "dataset" with
    | none => simp [found] at byDataset
    | some dataset => simpa [more _ _ found, found] using byDataset
  · right
    cases found : option.get "series" with
    | none => simp [found] at bySeries
    | some series => simpa [more _ _ found, found] using bySeries

/-- Chart options are put over a base only if they have data, so the result has data
if the base has. -/
theorem overlaid_hasData (module : Value) {base : Map} (full : echartsOptionHasData (.ofMap base) = true) :
    echartsOptionHasData (.ofMap (overlaid module base)) = true := by
  by_cases applied : echartsOptionHasData (.ofMap (sanitizedOptions module)) = true
  · have kept : appliedOptions module = sanitizedOptions module := if_pos applied
    refine hasData_mono (fun key item found => ?_) applied
    have overlay : (sanitizedOptions module).get? key = some item := found
    show (overlaid module base).get? key = some item
    rw [get?_overlaid, kept, overlay, Option.some_or]
  · have kept : appliedOptions module = .empty := if_neg applied
    have same : overlaid module base = base := by rw [overlaid, kept]; rfl
    rw [same]
    exact full

theorem chartBase_drawn {module : Value} {visualization : String} {dataSnapshot : Value}
    (drawn : visualization ∈ drawnVisualizations) (present : chartPoints module dataSnapshot ≠ []) :
    DrawnUnder (labelPart visualization) (chartPoints module dataSnapshot) (chartBase module visualization dataSnapshot) := by
  obtain ⟨base, same, labelled⟩ := default_drawn drawn present
  rw [chartBase, same]
  exact labelled

theorem chartBase_undrawn {module : Value} {visualization : String} {dataSnapshot : Value}
    (undrawn : visualization ∉ drawnVisualizations ∨ chartPoints module dataSnapshot = []) :
    CleanMembers (chartBase module visualization dataSnapshot) := by
  have harmless := (@harmlessKeys_of_drawn ["animation"] (by decide) (by simp [drawnKeys])).2 "animation" List.mem_cons_self
  rw [chartBase, default_none undrawn]
  intro key value found
  have inside := SortedMap.mem_of_get?_ofList found
  rw [List.mem_singleton, Prod.mk.injEq] at inside
  exact inside.1 ▸ inside.2 ▸ ⟨harmless, .bool⟩

/-- If every option of the module is clean, the labels it shows are safe: with data
points there is an option. -/
theorem safe_of_clean {module : Value} {visualization : String} {dataSnapshot : Value} {label : String}
    (shown : ShowsLabel module visualization dataSnapshot label)
    (clean : ∀ option, echartsOptionForModule module visualization dataSnapshot = some option → CleanChart option) :
    isSafeChartString label = true := by
  have present : chartPoints module dataSnapshot ≠ [] := by
    intro none
    have listed := shown.listed
    simp [none] at listed
  have drawn := chartBase_drawn shown.drawn present
  have emitted := echartsOption_eq shown.runtime visualization dataSnapshot
  rw [if_pos (overlaid_hasData module (drawn.full present))] at emitted
  obtain ⟨item, found, labelled⟩ := drawn.labelled
  have member : (overlaid module (chartBase module visualization dataSnapshot)).get? (labelPart visualization) =
      some item := by rw [get?_overlaid, shown.kept, found, Option.none_or]
  exact labelled.mp ((cleanChart_ofMap.mp (clean _ emitted)) _ _ member).2 label shown.listed

/-- A member of the base that the chart options leave in its place. -/
theorem chartBase_member_clean {module : Value} {visualization : String} {dataSnapshot : Value}
    (runtime : moduleChartRuntime module = "echarts")
    (safe : ∀ label, ShowsLabel module visualization dataSnapshot label → isSafeChartString label = true)
    {key : String} {value : Value} (kept : (appliedOptions module).get? key = none)
    (found : (chartBase module visualization dataSnapshot).get? key = some value) :
    isDangerousChartKey key = false ∧ CleanChart value := by
  by_cases drawn : visualization ∈ drawnVisualizations ∧ chartPoints module dataSnapshot ≠ []
  · have base := chartBase_drawn drawn.1 drawn.2
    have member := base.others key value found
    refine ⟨member.1, ?_⟩
    by_cases part : key = labelPart visualization
    · obtain ⟨item, listed, labelled⟩ := base.labelled
      rw [part, listed] at found
      cases found
      exact labelled.mpr fun label inside => safe label ⟨runtime, drawn.1, part ▸ kept, inside⟩
    · exact member.2 part
  · exact chartBase_undrawn (by simpa [Classical.or_iff_not_imp_left] using drawn) key value found

theorem clean_of_safe {module : Value} {visualization : String} {dataSnapshot option : Value}
    (safe : ∀ label, ShowsLabel module visualization dataSnapshot label → isSafeChartString label = true)
    (emitted : echartsOptionForModule module visualization dataSnapshot = some option) : CleanChart option := by
  by_cases runtime : moduleChartRuntime module = "echarts"
  · rw [echartsOption_eq runtime] at emitted
    dsimp only at emitted
    split at emitted
    · cases emitted
      refine cleanChart_ofMap.mpr fun key value found => ?_
      rw [get?_overlaid] at found
      cases applied : (appliedOptions module).get? key with
      | some overlay =>
        rw [applied, Option.some_or] at found
        cases found
        exact appliedOptions_clean module key value applied
      | none =>
        rw [applied, Option.none_or] at found
        exact chartBase_member_clean runtime safe applied found
    · cases emitted
  · rw [echartsOptionForModule, if_pos runtime] at emitted
    cases emitted

/-- Every chart option of a module is clean exactly if the labels it shows are safe. -/
theorem echarts_option_clean_iff (module : Value) (visualization : String) (dataSnapshot : Value) :
    (∀ option, echartsOptionForModule module visualization dataSnapshot = some option → CleanChart option) ↔
      ∀ label, ShowsLabel module visualization dataSnapshot label → isSafeChartString label = true :=
  ⟨fun clean _ shown => safe_of_clean shown clean, fun safe _ emitted => clean_of_safe safe emitted⟩

end Emission

section Linked

def linkedLabel : String := "https://example.com/x"

/-- A bar chart with one data row, labelled with an address. -/
def linkedModule : Value := json [("id", .string "trend"), ("visualization", json [("chartRuntime", .string "echarts"),
  ("data", .array [json [("label", .string linkedLabel), ("value", .ofU64 1)]])])]

theorem linked_label_emitted :
    ∃ option, echartsOptionForModule linkedModule "bar-chart" .null = some option ∧ ¬ CleanChart option := by
  have shown : ShowsLabel linkedModule "bar-chart" .null linkedLabel :=
    ⟨by decide, by decide, by decide, by decide⟩
  have rejected : isSafeChartString linkedLabel ≠ true := by decide +kernel
  by_contra unseen
  refine rejected (safe_of_clean shown fun option emitted => ?_)
  by_contra dirty
  exact unseen ⟨option, emitted, dirty⟩

end Linked

end DataMax.StaticPage
