import DataMax.StaticPage.Operations

/-! What an edit of a static page may say. -/

namespace DataMax.StaticPage

open Domain Json Library

def maxOperationCount : Nat := 24

def maxChartOptionsDepth : Nat := 8

def defaultChartRuntime : String := "deterministic"

def advancedChartRuntime : String := "echarts"

def supportedVisualizationTypes : List String :=
  ["headline", "kpi-cards", "bar-chart", "line-chart", "donut-chart", "table", "timeline", "risk-matrix", "text-insight"]

def isSupportedVisualizationType (visualizationType : String) : Bool := supportedVisualizationTypes.contains visualizationType

def isSupportedChartRuntime (chartRuntime : String) : Bool :=
  [defaultChartRuntime, advancedChartRuntime].contains chartRuntime

/-- The members with sample rows. -/
def rowKeys : List String := ["data", "values", "rows", "items", "sampleData", "sample_data"]

section Parts

variable {Item : Type}

/-- An error with the first key that is not known. -/
def requireKnownKeys (object : Map) (known : List String) (message : String) : Except String Unit :=
  match object.entries.find? fun entry => !known.contains entry.1 with
  | some entry => .error (message ++ entry.1)
  | none => .ok ()

/-- Each item checked, up to the first error. -/
def checkEach (items : List Item) (check : Item → Except String Unit) : Except String Unit :=
  items.foldr (fun item rest => do check item; rest) (.ok ())

/-- A value checked if it is there. -/
def checkFound (found : Option Value) (check : Value → Except String Unit) : Except String Unit := match found with
  | some value => check value
  | none => .ok ()

def checkMember (object : Map) (key : String) (check : Value → Except String Unit) : Except String Unit :=
  checkFound (object.get? key) check

def requireThat (condition : Bool) (message : String) : Except String Unit :=
  if condition then .ok () else .error message

end Parts

section Texts

def validateOptionalString (value : Value) (fieldName : String) : Except String Unit := match value with
  | .null => .ok ()
  | .string _ => .ok ()
  | _ => .error (fieldName ++ " must be a string when provided")

def validateSafeText (text fieldName : String) : Except String Unit :=
  if staticPageTextStringIsUnsafe text then .error (fieldName ++ " contains unsafe text") else .ok ()

def validateSafeOptionalString (value : Value) (fieldName : String) : Except String Unit := do
  validateOptionalString value fieldName
  match value.asStr with
  | some text => validateSafeText text fieldName
  | none => return

end Texts

section Charts

def validateChartRuntime (value : Value) (fieldName : String) : Except String (Option String) := match value with
  | .null => .ok none
  | value =>
    match (value.asStr.map trim).filter (· ≠ "") with
    | some runtime =>
      if isSupportedChartRuntime runtime then .ok (some runtime)
      else .error ("unsupported static page chart runtime: " ++ runtime)
    | none => .error (fieldName ++ " must be a supported chart runtime")

mutual

def validateChartJsonValue (depth : Nat) (value : Value) : Except String Unit :=
  if maxChartOptionsDepth < depth then .error "chartOptions nesting is too deep"
  else match value with
    | .string text =>
      if chartStringIsUnsafe text then .error "chartOptions contains unsafe string value" else .ok ()
    | .array items => validateChartItems (depth + 1) items
    | .object entries => validateChartEntries (depth + 1) entries
    | _ => .ok ()

def validateChartItems (depth : Nat) : List Value → Except String Unit
  | [] => .ok ()
  | item :: rest => do
    validateChartJsonValue depth item
    validateChartItems depth rest

def validateChartEntries (depth : Nat) : List (String × Value) → Except String Unit
  | [] => .ok ()
  | (key, item) :: rest =>
    if chartOptionKeyIsUnsafe key then .error ("chartOptions contains unsafe key: " ++ key)
    else do
      validateChartJsonValue depth item
      validateChartEntries depth rest

end

def validateEchartsSeriesItem (item : Value) : Except String Unit := match item.asMap with
  | none => .error "ECharts chartOptions.series items must be objects"
  | some object =>
    match object.get? "type" >>= Value.asStr with
    | none => .error "ECharts series.type is required"
    | some seriesType =>
      requireThat (["bar", "line", "pie", "scatter", "gauge", "radar", "heatmap", "treemap"].contains seriesType)
        ("unsupported ECharts series type: " ++ seriesType)

def validateEchartsSeries (value : Value) : Except String Unit := match value with
  | .array items => checkEach items validateEchartsSeriesItem
  | .object entries => validateEchartsSeriesItem (.object entries)
  | _ => .error "ECharts chartOptions.series must be an object or array"

def echartsKeys : List String :=
  ["animation", "aria", "backgroundColor", "color", "dataset", "grid", "legend", "series", "title", "tooltip", "xAxis",
    "yAxis", "radiusAxis", "angleAxis", "polar", "radar", "visualMap"]

def validateEchartsOptions (object : Map) : Except String Unit :=
  checkEach object.entries fun (key, value) => do
    requireThat (echartsKeys.contains key) ("unsupported ECharts chartOptions field: " ++ key)
    if key = "series" then validateEchartsSeries value else .ok ()

def deterministicKeys : List String :=
  ["showLegend", "showAxis", "valueFormat", "dataKey", "categoryKey", "labelKey", "valueKey", "seriesKey", "chartType"]

def validateChartOptions (chartRuntime : String) (value : Value) : Except String Unit := match value.asMap with
  | none => .error "chartOptions must be an object"
  | some object => do
    validateChartJsonValue 0 value
    if chartRuntime = advancedChartRuntime then validateEchartsOptions object
    else requireKnownKeys object deterministicKeys "unsupported chartOptions field: "

/-- The chart runtime that is given, if one is. -/
def givenChartRuntime (found : Option Value) (fieldName : String) : Except String (Option String) := match found with
  | some value => validateChartRuntime value fieldName
  | none => .ok none

/-- The sample rows, checked the way chart options are. -/
def validateRows (object : Map) : Except String Unit :=
  checkEach rowKeys fun key => checkMember object key (validateChartJsonValue 0)

end Charts

section Objects

def bindingTextKeys : List String := ["type", "label", "sourceId", "fieldPath", "field", "aggregation"]

def validateEvidenceIds (value : Value) : Except String Unit :=
  requireThat value.asArray.isSome "dataBinding.evidenceIds must be an array"

def validateDataBinding (value : Value) : Except String Unit := match value.asMap with
  | none => .error "dataBinding must be an object"
  | some object => do
    requireKnownKeys object (bindingTextKeys ++ ["evidenceIds"]) "unsupported dataBinding field: "
    checkEach bindingTextKeys fun key =>
      checkMember object key fun value => validateSafeOptionalString value ("dataBinding." ++ key)
    checkMember object "evidenceIds" validateEvidenceIds

def validateVisualizationType (value : Value) : Except String Unit := match value.asStr with
  | some visualizationType =>
    requireThat (isSupportedVisualizationType visualizationType)
      ("unsupported static page visualization type: " ++ visualizationType)
  | none => .ok ()

def validateVisualizationPatch (value : Value) : Except String Unit := match value.asMap with
  | none => .error "visualization must be an object"
  | some object => do
    requireKnownKeys object (["type", "label", "chartRuntime", "chartOptions"] ++ rowKeys) "unsupported visualization field: "
    checkMember object "type" validateVisualizationType
    checkMember object "label" fun value => validateSafeOptionalString value "visualization.label"
    let runtime ← givenChartRuntime (object.get? "chartRuntime") "visualization.chartRuntime"
    checkMember object "chartOptions" (validateChartOptions (runtime.getD defaultChartRuntime))
    validateRows object

/-- The runtime that the chart options of a module or a patch are checked for. The one
in the visualization is taken as it is written. -/
def contextChartRuntime (object : Map) (fieldName : String) : Except String String := do
  let runtime ← givenChartRuntime (object.get? "chartRuntime") fieldName
  let inVisualization := object.get? "visualization" >>= (·.get "chartRuntime") >>= Value.asStr
  return (runtime.or inVisualization).getD defaultChartRuntime

def validateModuleContract (value : Value) : Except String Unit := match value.asMap with
  | none => .error "module must be an object"
  | some object => do
    requireKnownKeys object (["id", "role", "title", "content", "dataLabel", "dataBinding", "data_binding", "visualization",
      "chartOptions", "chartRuntime", "layout"] ++ rowKeys) "unsupported module field: "
    checkEach ["id", "role", "title", "content", "dataLabel"] fun key =>
      checkMember object key fun value => validateSafeOptionalString value ("module." ++ key)
    checkFound (object.get? "dataBinding" <|> object.get? "data_binding") validateDataBinding
    checkMember object "visualization" validateVisualizationPatch
    let runtime ← contextChartRuntime object "module.chartRuntime"
    checkMember object "chartOptions" (validateChartOptions runtime)
    validateRows object

def validateUpdateModulePatch (operation : Value) : Except String Unit := do
  let patch ← okOr (operation.get "patch") "update_module must include patch"
  let object ← okOr patch.asMap "update_module patch must be an object"
  requireKnownKeys object ["title", "content", "dataLabel", "dataBinding", "visualization", "chartOptions", "chartRuntime",
    "layout"] "unsupported update_module patch field: "
  checkEach ["title", "content", "dataLabel"] fun key =>
    checkMember object key fun value => validateSafeOptionalString value ("patch." ++ key)
  checkMember object "dataBinding" validateDataBinding
  checkMember object "visualization" validateVisualizationPatch
  let runtime ← contextChartRuntime object "patch.chartRuntime"
  checkMember object "chartOptions" (validateChartOptions runtime)

end Objects

section Operations

/-- The module an operation is about, under one of its two keys. -/
def requireModuleId (operation : Value) : Except String String :=
  match requireNonEmptyString operation "targetModuleId" with
  | .ok moduleId => .ok moduleId
  | .error _ => requireNonEmptyString operation "moduleId"

def validateChangeVisualization (operation : Value) : Except String Unit := do
  let visualization ← requireNonEmptyString operation "visualizationType"
  requireThat (isSupportedVisualizationType visualization) ("unsupported static page visualization type: " ++ visualization)
  let runtime ← givenChartRuntime (operation.get "chartRuntime") "chartRuntime"
  checkFound (operation.get "chartOptions") (validateChartOptions (runtime.getD defaultChartRuntime))

def styleDirections : List String := ["decision-brief", "client-delivery", "data-command"]

/-- The operation is one that its type allows. -/
def validateStaticPageOperation (operation : Value) : OperationType → Except String Unit
  | .updateModule => do
    let _ ← requireModuleId operation
    validateUpdateModulePatch operation
  | .removeModule | .moveModule | .resizeModule => do
    let _ ← requireModuleId operation
  | .changeDataBinding => do
    let _ ← requireModuleId operation
    validateDataBinding (← okOr (operation.get "dataBinding") "change_data_binding must include dataBinding")
  | .changeStyleDirection => do
    let style ← requireNonEmptyString operation "styleDirection"
    requireThat (styleDirections.contains style) ("unsupported static page style direction: " ++ style)
  | .changeVisualization => do
    let _ ← requireModuleId operation
    validateChangeVisualization operation
  | .addModule => do
    validateModuleContract (← okOr (operation.get "module") "add_module must include module")
  | .reorderModules =>
    requireThat ((operation.get "order").bind Value.asArray).isSome "reorder_modules must include order array"
  | .refreshSummary => do
    validateSafeText (← requireNonEmptyString operation "modelSummary") "modelSummary"
  | .updateImageJobStatus => do
    let _ ← requireNonEmptyString operation "status"
  | .queueImageJob | .markPreviewReady | .confirmPreview | .resetImageJob | .resetFinalRender | .requestFinalRender =>
    .ok ()

/-- The checks behind the new spelling of the keys. -/
def checkStaticPageOperation (operation : Value) : Except String OperationType := do
  let name ← okOr (staticPageOperationType operation) "static page operation must include non-empty type"
  let operationType ← okOr (OperationType.ofStr name) ("unsupported static page operation type: " ++ name)
  validateStaticPageOperation operation operationType
  return operationType

def sanitizeStaticPageOperation (operation : Value) : Except String Value := do
  if containsUnsafeKey operation then throw "static page operation contains unsafe key"
  let normalized := normalizeStaticPageOperation operation
  let _ ← checkStaticPageOperation normalized
  return normalized

def sanitizeStaticPageOperations (operations : List Value) : Except String (List Value) :=
  if maxOperationCount < operations.length then .error "static page operation count must be 24 or fewer"
  else operations.mapM sanitizeStaticPageOperation

end Operations

end DataMax.StaticPage
