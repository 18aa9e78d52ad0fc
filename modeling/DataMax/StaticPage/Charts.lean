import DataMax.Domain.Text
import DataMax.Json.Access

/-! The chart option of a module: a default drawn from its data points with the
module's own chart options put over it. -/

namespace DataMax.StaticPage

open Domain Json Library

section Sanitizing

def isAllowedEchartsTopLevelKey (key : String) : Bool :=
  ["animation", "aria", "backgroundColor", "color", "dataset", "grid", "legend", "series", "title", "tooltip", "xAxis",
    "yAxis", "radiusAxis", "angleAxis", "polar", "radar", "visualMap"].contains key

def isAllowedEchartsSeriesType (seriesType : String) : Bool :=
  ["bar", "line", "pie", "scatter", "gauge", "radar", "heatmap", "treemap"].contains seriesType

def isDangerousChartKey (key : String) : Bool :=
  ["__proto__", "prototype", "constructor", "renderItem"].contains key || startsWith (asciiLower key) "on"

def isSafeChartString (value : String) : Bool :=
  let lower := asciiLower value
  !(["<", ">", "javascript:", "data:text/html", "http://", "https://", "@import", "expression("].any (contains lower))

mutual

/-- An object of which nothing is left is dropped. -/
def sanitizeChartJsonValue : Value → Option Value
  | .string text => if isSafeChartString text then some (.string text) else none
  | .array items => some (.array (sanitizeChartItems items))
  | .object entries =>
    let output := sanitizeChartEntries entries
    if output.isEmpty then none else some (.object output)
  | value => some value

def sanitizeChartItems : List Value → List Value
  | [] => []
  | item :: rest => (sanitizeChartJsonValue item).toList ++ sanitizeChartItems rest

def sanitizeChartEntries : List (String × Value) → List (String × Value)
  | [] => []
  | (key, item) :: rest =>
    if isDangerousChartKey key then sanitizeChartEntries rest
    else match sanitizeChartJsonValue item with
      | some sanitized => (key, sanitized) :: sanitizeChartEntries rest
      | none => sanitizeChartEntries rest

end

/-- One object counts as a list of it. -/
def sanitizeEchartsSeries (value : Value) : List Value :=
  (value.asArray.getD [value]).filterMap fun item =>
    if item.isObject then
      (item.get "type" >>= Value.asStr).bind fun seriesType =>
        if isAllowedEchartsSeriesType seriesType then sanitizeChartJsonValue item else none
    else none

def sanitizeEchartsMember (key : String) (item : Value) : Option Value :=
  if !isAllowedEchartsTopLevelKey key then none
  else if key = "series" then
    let series := sanitizeEchartsSeries item
    if series.isEmpty then none else some (.array series)
  else sanitizeChartJsonValue item

def sanitizeEchartsOptions (value : Value) : Map := match value with
  | .object entries => .ofList (entries.filterMap fun (key, item) => (sanitizeEchartsMember key item).map (key, ·))
  | _ => .empty

def echartsOptionHasData (option : Value) : Bool :=
  ((option.get "dataset" >>= (·.get "source") >>= Value.asArray).any (!·.isEmpty)) ||
    (option.get "series" >>= Value.asArray).any fun series =>
      series.any fun item => (item.get "data" >>= Value.asArray).any (!·.isEmpty)

end Sanitizing

section Points

structure ChartPoint where
  label : String
  value : UInt64
  deriving DecidableEq

def chartJsonNumber (value : Value) : Option UInt64 :=
  value.asF64 <|> do
    let text ← (value.asStr.map trim).filter (· ≠ "")
    let unmarked := (text.toList.reverse.dropWhile (· = '%')).reverse
    parseF64 (.ofList (unmarked.filter fun character => character ≠ ',' && character ≠ '，'))

def labelKeys : List String := ["label", "name", "month", "date", "period", "category", "title", "x", "月份", "日期", "分类"]

def valueKeys : List String := ["value", "amount", "count", "score", "rate", "total", "y", "订单金额", "金额", "收入", "数量"]

def numberedLabel (index : Nat) : String := "项" ++ toString (index + 1)

def chartPointFromValue (index : Nat) (value : Value) : Option ChartPoint :=
  match value.asF64 with
  | some number => some ⟨numberedLabel index, number⟩
  | none => match value with
    | .object entries =>
      let label := (labelKeys.findSome? fun key => value.get key >>= Value.asStr).map trim
      let number := (valueKeys.findSome? fun key => value.get key >>= chartJsonNumber) <|>
        entries.findSome? fun entry => chartJsonNumber entry.2
      number.map fun number => ⟨(label.filter (· ≠ "")).getD (numberedLabel index), number⟩
    | _ => none

def chartPointsFromArray (items : List Value) : List ChartPoint :=
  items.zipIdx.filterMap fun (item, index) => chartPointFromValue index item

/-- The first list of points that is not empty. -/
def firstPoints (lists : List (List ChartPoint)) : List ChartPoint := (lists.find? (!·.isEmpty)).getD []

def chartPointsFromValue (value : Value) : List ChartPoint :=
  match value.asArray with
  | some items => chartPointsFromArray items
  | none => firstPoints <| ["values", "data", "rows", "sampleData", "sample_data", "items"].map fun key =>
      ((value.get key >>= Value.asArray).map chartPointsFromArray).getD []

def dataSnapshotModuleBinding (dataSnapshot : Value) (moduleId : String) : Option Value := do
  let bindings ← (dataSnapshot.get "moduleBindings" <|> dataSnapshot.get "module_bindings") >>= Value.asArray
  bindings.find? fun binding =>
    ((binding.get "moduleId" <|> binding.get "module_id") >>= Value.asStr) == some moduleId

def chartPoints (module dataSnapshot : Value) : List ChartPoint :=
  let candidates := [
    module.get "visualization" >>= (·.get "data"),
    module.get "visualization" >>= (·.get "values"),
    module.get "dataBinding" <|> module.get "data_binding",
    module.get "data",
    module.get "id" >>= Value.asStr >>= dataSnapshotModuleBinding dataSnapshot]
  firstPoints <| (candidates.filterMap id).flatMap fun candidate =>
    [chartPointsFromValue candidate,
      ((candidate.get "binding" <|> candidate.get "dataBinding").map chartPointsFromValue).getD []]

end Points

section Options

def moduleChartRuntime (module : Value) : String :=
  let ofVisualization (visualization : Value) : Option Value :=
    visualization.get "chartRuntime" <|> visualization.get "runtime" <|>
      (visualization.get "chartOptions" >>= (·.get "chartRuntime")) <|>
      (visualization.get "chartOptions" >>= (·.get "runtime"))
  let runtime := ((module.get "visualization" >>= ofVisualization) <|> module.get "chartRuntime" <|>
    (module.get "chartOptions" >>= (·.get "chartRuntime"))) >>= Value.asStr
  if runtime.map trim = some "echarts" then "echarts" else "deterministic"

def moduleChartOptions (module : Value) : Option Value :=
  (module.get "visualization" >>= fun visualization => visualization.get "chartOptions" <|> visualization.get "chart_options")
    <|> module.get "chartOptions" <|> module.get "chart_options"

def labels (points : List ChartPoint) : List Value := points.map fun point => .string point.label

def pieSeries (points : List ChartPoint) : Value :=
  json [("type", .string "pie"), ("radius", .array [.string "46%", .string "72%"]),
    ("data", .array (points.map fun point => json [("name", .string point.label), ("value", .ofF64 point.value)]))]

def axisSeries (seriesType : String) (points : List ChartPoint) : Value :=
  json [("type", .string seriesType), ("data", .array (points.map (.ofF64 ·.value)))]

def categoryAxis (points : List ChartPoint) : Value :=
  json [("type", .string "category"), ("data", .array (labels points))]

def chartGrid : Value :=
  json [("left", .ofU64 28), ("right", .ofU64 16), ("top", .ofU64 22), ("bottom", .ofU64 28), ("containLabel", .bool true)]

def donutOption (points : List ChartPoint) : Map :=
  .ofList [("animation", .bool false), ("tooltip", json [("trigger", .string "item")]), ("series", .array [pieSeries points])]

def axisOption (seriesType : String) (points : List ChartPoint) : Map :=
  .ofList [("animation", .bool false), ("tooltip", json [("trigger", .string "axis")]), ("grid", chartGrid),
    ("xAxis", categoryAxis points), ("yAxis", json [("type", .string "value")]),
    ("series", .array [axisSeries seriesType points])]

def defaultEchartsOption (visualization : String) (points : List ChartPoint) : Option Map :=
  if points.isEmpty then none
  else if visualization = "donut-chart" then some (donutOption points)
  else if visualization = "line-chart" then some (axisOption "line" points)
  else if ["bar-chart", "risk-matrix", "kpi-cards", "table", "timeline"].contains visualization then
    some (axisOption "bar" points)
  else none

def mergeObjectValues (target overlay : Value) : Value := match target.asMap, overlay.asMap with
  | some targetMap, some overlayMap => .ofMap (targetMap.insertAll overlayMap.entries)
  | _, _ => target

def echartsOptionForModule (module : Value) (visualization : String) (dataSnapshot : Value) : Option Value :=
  if moduleChartRuntime module ≠ "echarts" then none
  else
    let points := chartPoints module dataSnapshot
    let sanitized := Value.ofMap (((moduleChartOptions module).map sanitizeEchartsOptions).getD .empty)
    let fallback := Value.ofMap ((defaultEchartsOption visualization points).getD (.ofList [("animation", .bool false)]))
    let option := if echartsOptionHasData sanitized then mergeObjectValues fallback sanitized else fallback
    if echartsOptionHasData option then some option else none

end Options

end DataMax.StaticPage
