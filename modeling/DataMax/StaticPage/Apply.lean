import DataMax.StaticPage.Design
import DataMax.StaticPage.Validation

/-! Edits applied to the payload of a static page. -/

namespace DataMax.StaticPage

open Domain Json Library

variable (sources : DesignSources)

section Parts

def staticPageOperationModuleId (operation : Value) : Option String :=
  (operation.get "targetModuleId" <|> operation.get "moduleId") >>= trimmedId

/-- A value put under the key, if one is given. -/
def setFound (payload : Value) (key : String) (found : Option Value) : Value := match found with
  | some value => setPayloadValue payload key value
  | none => payload

/-- The visualization that an operation changes a module to. -/
def changedVisualization (operation : Value) (visualizationType : String) : Value :=
  let running := setFound (json [("type", .string visualizationType)]) "chartRuntime" (operation.get "chartRuntime")
  setFound running "chartOptions" (operation.get "chartOptions")

/-- The member of an operation, or null. -/
def orNull (operation : Value) (key : String) : Value := (operation.get key).getD .null

def queuedImageJob (operation : Value) : Value :=
  json [("id", orNull operation "jobId"), ("status", .string "queued"), ("queuePosition", orNull operation "queuePosition"),
    ("queueMessage", .string ((operation.get "queueMessage" >>= Value.asStr).getD "资源正在排队，可以联系商务开通高级用户跳过等待。"))]

def queuedPreviewContract (operation : Value) : Value :=
  json [("status", .string "queued"), ("imageJobId", orNull operation "jobId"), ("assetKey", .null),
    ("queuePosition", orNull operation "queuePosition"), ("confirmedAt", .null)]

def readyPreviewContract (preview : Value) : Value :=
  json [("status", .string "preview_ready"), ("imageJobId", orNull preview "imageJobId"),
    ("assetKey", orNull preview "assetKey"), ("queuePosition", .null)]

def confirmedPreviewContract (preview : Value) : Value :=
  json [("status", .string "confirmed"), ("imageJobId", orNull preview "imageJobId"),
    ("assetKey", orNull preview "assetKey"), ("queuePosition", .null), ("confirmedAt", .string sources.nowJson)]

def idleImageJob : Value :=
  json [("id", .null), ("status", .string "idle"), ("queuePosition", .null), ("queueMessage", .string "")]

def clearedPreviewContract : Value :=
  json [("status", .string "not_requested"), ("imageJobId", .null), ("assetKey", .null), ("queuePosition", .null),
    ("confirmedAt", .null)]

def restoredPreviewContract (assetKey : Value) : Value :=
  json [("status", .string "confirmed"), ("assetKey", assetKey), ("queuePosition", .null)]

/-- A preview image shown with the contract it brings. -/
def showPreview (payload operation : Value) (contract : Value → Value) : Value := match operation.get "previewImage" with
  | some preview => setPayloadValue (setPayloadValue payload "previewImage" preview) "previewContract" (contract preview)
  | none => payload

end Parts

/-- A module merged with what the operation says about it, if it names one. -/
def mergeNamedModule (payload operation : Value) (patch : Option Value) : Value :=
  match staticPageOperationModuleId operation, patch with
  | some moduleId, some patch => mergeStaticPageModule payload moduleId patch
  | _, _ => payload

def applyOperationOf (payload operation : Value) : OperationType → Value
  | .changeStyleDirection =>
    match (operation.get "styleDirection" <|> operation.get "style_direction") >>= Value.asStr with
    | some style => setBoth payload "styleDirection" "style_direction" (.string style)
    | none => payload
  | .refreshSummary =>
    match (operation.get "modelSummary" <|> operation.get "model_summary") >>= Value.asStr with
    | some summary => setBoth payload "modelSummary" "model_summary" (.string summary)
    | none => payload
  | .updateModule => mergeNamedModule payload operation (operation.get "patch")
  | .changeVisualization =>
    mergeNamedModule payload operation <| (operation.get "visualizationType" >>= Value.asStr).map fun visualizationType =>
      json [("visualization", changedVisualization operation visualizationType)]
  | .changeDataBinding =>
    mergeNamedModule payload operation <| (operation.get "dataBinding").map fun dataBinding =>
      json [("dataBinding", dataBinding)]
  | .addModule =>
    match operation.get "module" with
    | some module => pushStaticPageModule payload module
    | none => payload
  | .removeModule =>
    match staticPageOperationModuleId operation with
    | some moduleId => removeStaticPageModule payload moduleId
    | none => payload
  | .moveModule | .resizeModule =>
    mergeNamedModule payload operation <| (operation.get "layout" <|> operation.get "patch").map fun layout =>
      json [("layout", layout)]
  | .reorderModules =>
    match operation.get "order" >>= Value.asArray with
    | some order => setBoth payload "mobileOrder" "mobile_order" (.array order)
    | none => payload
  | .queueImageJob =>
    setPayloadValue
      (setPayloadValue (setPayloadString payload "status" "queued") "imageJob" (queuedImageJob operation))
      "previewContract" (queuedPreviewContract operation)
  | .markPreviewReady => showPreview (setPayloadString payload "status" "preview_ready") operation readyPreviewContract
  | .confirmPreview =>
    showPreview (setPayloadString payload "status" "effect_confirmed") operation (confirmedPreviewContract sources)
  | .resetImageJob =>
    let idle := setPayloadValue (setPayloadString payload "status" "planning") "imageJob" idleImageJob
    setPayloadValue (setPayloadValue (setPayloadValue idle "previewImage" .null) "finalPage" .null) "previewContract"
      clearedPreviewContract
  | .resetFinalRender =>
    let reset := setPayloadValue (setPayloadString payload "status" "effect_confirmed") "finalPage" .null
    let assetKey := (reset.get "previewImage" >>= (·.get "assetKey")).getD .null
    setPayloadValue reset "previewContract" (restoredPreviewContract assetKey)
  | .requestFinalRender =>
    let rendering := setPayloadString payload "status" "rendering"
    setFound rendering "finalPage" (operation.get "finalPage" <|> operation.get "payload")
  | .updateImageJobStatus => payload

def applyStaticPageOperation (payload operation : Value) : Value :=
  match staticPageOperationType operation >>= OperationType.ofStr with
  | some operationType => applyOperationOf sources payload operation operationType
  | none => payload

/-- The payload after the operations, before its contract is written again. -/
def applyEach (payload : Value) (operations : List Value) : Value :=
  operations.foldl (applyStaticPageOperation sources) (.ofMap (ensureJsonObject payload))

def applyStaticPageOperations (payload : Value) (operations : List Value) (summary : Option String) : Value :=
  let applied := applyEach sources payload operations
  let summarized := match summary.filter fun text => trim text ≠ "" with
    | some text => setBoth applied "modelSummary" "model_summary" (.string text)
    | none => applied
  refreshDesignContract sources summarized

end DataMax.StaticPage
