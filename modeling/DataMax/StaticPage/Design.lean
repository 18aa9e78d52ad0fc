import DataMax.Domain.Hex
import DataMax.Json.Text
import DataMax.StaticPage.Payload

/-! The design contract of a static page: what its payload says about style, layout and
preview, written again after each batch of edits. -/

namespace DataMax.StaticPage

open Domain Json Library

/-- What the payload is written with beside itself: the snapshot made of the data in
scope, how a double is written, and the time. -/
structure DesignSources where
  buildDataSnapshot : Value → Value → Value
  floatText : UInt64 → String
  /-- `Utc::now()` as JSON. -/
  nowJson : String
  /-- `Utc::now().to_rfc3339()`. -/
  nowRfc3339 : String

section Specs

structure VisualStyle where
  styleDirection : String
  background : String
  surface : String
  text : String
  mutedText : String
  accent : String
  chart : String
  density : String
  radius : UInt64
  shadow : String
  decoration : String

def VisualStyle.spec (style : VisualStyle) : Value :=
  json [("version", .ofU64 1), ("styleDirection", .string style.styleDirection),
    ("palette", json [("background", .string style.background), ("surface", .string style.surface),
      ("text", .string style.text), ("mutedText", .string style.mutedText), ("accent", .string style.accent),
      ("chart", .string style.chart)]),
    ("typography", json [("headingFamily", .string "Aptos Display, ui-sans-serif, system-ui"),
      ("bodyFamily", .string "Aptos, ui-sans-serif, system-ui"), ("density", .string style.density)]),
    ("surface", json [("radius", .ofU64 style.radius), ("shadow", .string style.shadow),
      ("decoration", .string style.decoration)])]

def decisionBrief : VisualStyle where
  styleDirection := "decision-brief"
  background := "#0f172a"
  surface := "rgba(255,255,255,0.08)"
  text := "#f8fafc"
  mutedText := "#cbd5e1"
  accent := "#93c5fd"
  chart := "#38bdf8"
  density := "compact"
  radius := 26
  shadow := "deep"
  decoration := "subtle-gradient"

def dataCommand : VisualStyle where
  styleDirection := "data-command"
  background := "#064e3b"
  surface := "rgba(255,255,255,0.09)"
  text := "#ecfeff"
  mutedText := "#cbd5e1"
  accent := "#5eead4"
  chart := "#22d3ee"
  density := "dense"
  radius := 22
  shadow := "glow"
  decoration := "command-gradient"

def clientDelivery : VisualStyle where
  styleDirection := "client-delivery"
  background := "#f7f8fb"
  surface := "rgba(255,255,255,0.76)"
  text := "#101827"
  mutedText := "#475569"
  accent := "#2563eb"
  chart := "#0ea5e9"
  density := "balanced"
  radius := 26
  shadow := "soft"
  decoration := "warm-gradient"

def buildStaticPageVisualSpec (styleDirection : String) : Value :=
  if styleDirection = "decision-brief" then decisionBrief.spec
  else if styleDirection = "data-command" then dataCommand.spec
  else clientDelivery.spec

def strings (texts : List String) : Value := .array (texts.map .string)

def buildStaticPageReportTimeRangeContract : Value :=
  json [("required", .bool true), ("selector", .string "time_range"), ("default_granularity", .string "month"),
    ("default_preset", .string "latest_available_month"), ("operating_report_default", .string "month"),
    ("supported_granularities", strings ["month", "quarter", "year", "custom_range"]),
    ("field_hints", strings ["month", "stat_month", "biz_month", "period_month", "date", "stat_date", "txdate",
      "created_at", "updated_at"]),
    ("fallback_policy", .string "when only daily dates are available, aggregate or label operating reports by month while preserving custom range selection")]

def chartRuntimePolicy : Value :=
  json [("default", .string "deterministic"), ("advanced", .string "echarts"),
    ("allowedRuntimes", strings ["deterministic", "echarts"]),
    ("advancedOptions", .string "plain-json-echarts-option-only"),
    ("finalRendererFallback", .string "ECharts modules must still have dataSnapshot sampleData so the final renderer can fall back to deterministic DOM/SVG output."),
    ("advancedHydration", .string "Final HTML preserves safe ECharts JSON option islands; if an approved ECharts bundle is present, the page can hydrate charts without losing deterministic fallback.")]

def dynamicData : Value :=
  json [("dataFile", .string "data.json"), ("sourceSnapshotFile", .string "data-snapshot.json"),
    ("clientRefresh", json [("enabled", .bool true), ("intervalSeconds", .ofU64 60),
      ("changeDetectionFields", strings ["snapshotVersion", "updatedAt", "snapshot_version", "updated_at"])]),
    ("defaultControls", strings ["time_range", "primary_partition", "manual_refresh", "auto_refresh"]),
    ("reportTimeRange", buildStaticPageReportTimeRangeContract),
    ("updateContract", .string "When datasets or source documents change, regenerate or replace data.json and let the final HTML re-render from the latest snapshot.")]

def buildStaticPageRenderSpec : Value :=
  json [("renderer", .string "static-page-renderer-v1"), ("layoutEngine", .string "css-grid-12"),
    ("desktopGrid", json [("columns", .ofU64 12), ("rowHeight", .ofU64 96)]),
    ("mobileLayout", .string "single-column-sortable"), ("componentModel", .string "dom-text-svg-chart"),
    ("chartRuntime", .string "deterministic-with-echarts-advanced"), ("chartRuntimePolicy", chartRuntimePolicy),
    ("dynamicData", dynamicData),
    ("editableContent",
      strings ["title", "content", "dataBinding", "visualization", "chartRuntime", "chartOptions", "layout"]),
    ("generationGuardrails", strings ["可视化必须服从模块网格布局和移动端顺序", "正文、指标、图表在最终静态页中必须是真 DOM 或 SVG，不允许只烘焙进图片",
      "复杂背景、纹理、装饰可以作为图片资产，核心数据表达必须可重新渲染", "ECharts 只允许纯 JSON 配置，不允许函数、HTML、远程 URL 或事件处理器字段",
      "避免 3D 透视、真实摄影 UI、不可复刻字体效果和过度复杂玻璃反射"])]

end Specs

section Fields

/-- The first of the keys the payload has. -/
def payloadValue (payload : Value) (keys : List String) : Option Value := keys.findSome? payload.get

/-- The first of the keys with a text that is not blank. -/
def payloadString (payload : Value) (keys : List String) : Option String := keys.findSome? (nonEmptyString payload)

/-- `Value::String` of a text, trimmed, if anything is left. -/
def trimmedId (value : Value) : Option String := (value.asStr.map trim).filter (· ≠ "")

/-- The items of the list that were not seen before, each once. -/
def firstOccurrences (seen : List String) : List String → List String
  | [] => []
  | id :: rest => if seen.contains id then firstOccurrences seen rest else id :: firstOccurrences (id :: seen) rest

/-- The requested order, as far as there are such modules, with the other modules behind it. -/
def payloadMobileOrder (payload : Value) (modules : List Value) : Value :=
  let moduleIds := modules.filterMap fun module => module.get "id" >>= trimmedId
  let requested := (payloadValue payload ["mobileOrder", "mobile_order"] >>= Value.asArray).getD []
  let wanted := (requested.filterMap trimmedId).filter moduleIds.contains
  strings (firstOccurrences [] (wanted ++ moduleIds))

end Fields

section Preview

variable (sources : DesignSources)

def hexDigits (width value : Nat) : String :=
  let digits := Nat.toDigits 16 value
  .ofList (List.replicate (width - digits.length) '0' ++ digits)

def designFingerprint (value : Value) : String :=
  let hash := (utf8 (value.text sources.floatText)).foldl (fun (hash : UInt32) byte => hash * 31 + byte.toUInt32) 0
  "design-" ++ hexDigits 8 hash.toNat

def previewContractStatus (contract : Value) : Option String := contract.get "status" >>= trimmedId

def approvedStatuses : List String := ["queued", "running", "preview_ready", "confirmed", "rendering", "rendered"]

def previewContractIsStale (previousContract : Value) (nextFingerprint : String) : Bool :=
  match (previousContract.get "draftFingerprint" <|> previousContract.get "draft_fingerprint") >>= trimmedId with
  | none => false
  | some previousFingerprint =>
    previousFingerprint ≠ nextFingerprint &&
      ((previousContract.get "status" >>= Value.asStr).map trim).any approvedStatuses.contains

def markPreviewContractStale (contract : Value) (reason : String) : Value :=
  let cleared := ["imageJobId", "assetKey", "confirmedAt"].foldl (fun contract key => setPayloadValue contract key .null)
    (setPayloadString contract "status" "stale")
  setPayloadString (setPayloadString cleared "staleReason" reason) "staleAt" sources.nowRfc3339

/-- What a preview is made for. -/
structure DesignState where
  styleDirection : String
  modules : List Value
  renderSpec : Value
  mobileOrder : Value

def DesignState.contractSource (design : DesignState) : Value :=
  json [("style_direction", .string design.styleDirection), ("modules", .array design.modules),
    ("render_spec", design.renderSpec), ("mobile_order", design.mobileOrder)]

def buildStaticPagePreviewContract (design : DesignState) (patch : Option Value) : Value :=
  let nextFingerprint := designFingerprint sources design.contractSource
  let contract := json [("version", .ofU64 1), ("kind", .string "static-page-preview-contract"),
    ("status", .string "not_requested"), ("draftFingerprint", .string nextFingerprint), ("imageJobId", .null),
    ("assetKey", .null), ("confirmedAt", .null),
    ("renderExpectation", .string "final HTML/CSS/SVG should reproduce the generated preview without baking editable text or charts into the image")]
  match patch with
  | none => contract
  | some previousContract =>
    let merged := setPayloadString (mergeJsonValue contract previousContract) "draftFingerprint" nextFingerprint
    if previewContractIsStale previousContract nextFingerprint then
      markPreviewContractStale sources merged "draft design changed after the preview was requested or confirmed"
    else merged

end Preview

section Refresh

variable (sources : DesignSources)

/-- The status of an image job, if there is one. -/
def staleImageJob (object : Map) (key : String) : Map := editObject object key (·.insert "status" (.string "stale"))

def markPayloadPreviewStale (payload : Value) : Value :=
  let cleared := ["previewImage", "preview_image", "finalPage", "final_page"].foldl SortedMap.erase (ensureJsonObject payload)
  .ofMap (staleImageJob (staleImageJob (cleared.insert "status" (.string "planning")) "imageJob") "image_job")

/-- Each value is written under both spellings of its key. -/
def setBoth (payload : Value) (camel snake : String) (value : Value) : Value :=
  setPayloadValue (setPayloadValue payload camel value) snake value

def payloadDesign (payload : Value) : DesignState where
  styleDirection := (payloadString payload ["styleDirection", "style_direction"]).getD "client-delivery"
  modules := payloadModules payload
  renderSpec := (payloadValue payload ["renderSpec", "render_spec"]).getD buildStaticPageRenderSpec
  mobileOrder := payloadMobileOrder payload (payloadModules payload)

def refreshDesignContract (payload : Value) : Value :=
  let payload := Value.ofMap (ensureJsonObject payload)
  let design := payloadDesign payload
  let visualSpec := buildStaticPageVisualSpec design.styleDirection
  let selectedScope := ((payload.get "assistant_context" >>= (·.get "selected_scope")) <|> payload.get "selected_scope").getD .null
  let dataSnapshot := sources.buildDataSnapshot payload selectedScope
  let previousContract := payloadValue payload ["previewContract", "preview_contract"]
  let previewContract := buildStaticPagePreviewContract sources design previousContract
  let marked := if previewContractStatus previewContract = some "stale" then markPayloadPreviewStale payload else payload
  let styled := setBoth marked "styleDirection" "style_direction" (.string design.styleDirection)
  let drawn := setBoth styled "visualSpec" "visual_spec" visualSpec
  let rendered := setBoth drawn "renderSpec" "render_spec" design.renderSpec
  let ordered := setBoth rendered "mobileOrder" "mobile_order" design.mobileOrder
  let filled := setBoth ordered "dataSnapshot" "data_snapshot" dataSnapshot
  setBoth filled "previewContract" "preview_contract" previewContract

theorem payloadModules_setBoth (payload : Value) {camel snake : String} (first : camel ≠ "modules") (second : snake ≠ "modules")
    (value : Value) : payloadModules (setBoth payload camel snake value) = payloadModules payload := by
  rw [setBoth, payloadModules_setPayloadValue _ second, payloadModules_setPayloadValue _ first]

end Refresh

end DataMax.StaticPage
