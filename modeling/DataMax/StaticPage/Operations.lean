import DataMax.Domain.Text
import DataMax.Json.Access
import DataMax.Library.Outcome

/-! Edits of a static page: their types, and the spelling of their keys. -/

namespace DataMax.StaticPage

open Domain Json Library

inductive OperationType where
  | updateModule
  | addModule
  | removeModule
  | moveModule
  | resizeModule
  | changeVisualization
  | changeDataBinding
  | reorderModules
  | changeStyleDirection
  | refreshSummary
  | queueImageJob
  | updateImageJobStatus
  | markPreviewReady
  | confirmPreview
  | resetImageJob
  | resetFinalRender
  | requestFinalRender
  deriving DecidableEq

namespace OperationType

def asStr : OperationType → String
  | updateModule => "update_module"
  | addModule => "add_module"
  | removeModule => "remove_module"
  | moveModule => "move_module"
  | resizeModule => "resize_module"
  | changeVisualization => "change_visualization"
  | changeDataBinding => "change_data_binding"
  | reorderModules => "reorder_modules"
  | changeStyleDirection => "change_style_direction"
  | refreshSummary => "refresh_summary"
  | queueImageJob => "queue_image_job"
  | updateImageJobStatus => "update_image_job_status"
  | markPreviewReady => "mark_preview_ready"
  | confirmPreview => "confirm_preview"
  | resetImageJob => "reset_image_job"
  | resetFinalRender => "reset_final_render"
  | requestFinalRender => "request_final_render"

def all : List OperationType :=
  [updateModule, addModule, removeModule, moveModule, resizeModule, changeVisualization, changeDataBinding, reorderModules,
    changeStyleDirection, refreshSummary, queueImageJob, updateImageJobStatus, markPreviewReady, confirmPreview,
    resetImageJob, resetFinalRender, requestFinalRender]

/-- The supported type of a name. -/
def ofStr (name : String) : Option OperationType := all.find? (·.asStr = name)

theorem mem_all (operationType : OperationType) : operationType ∈ all := by
  cases operationType <;> decide

theorem ofStr_eq_some {name : String} {operationType : OperationType} (found : ofStr name = some operationType) :
    operationType.asStr = name := by
  simpa using List.find?_some found

theorem ofStr_asStr (operationType : OperationType) : ofStr operationType.asStr = some operationType := by
  cases operationType <;> decide

theorem asStr_injective {first second : OperationType} (same : first.asStr = second.asStr) : first = second := by
  have read := ofStr_asStr first
  rw [same, ofStr_asStr, Option.some.injEq] at read
  exact read.symm

end OperationType

section Keys

def renameKey (object : Map) (source target : String) : Map :=
  if (object.get? target).isSome then object
  else match object.get? source with
    | some value => (object.erase source).insert target value
    | none => object

/-- Keys renamed one after the other. -/
def renameKeys (names : List (String × String)) (object : Map) : Map :=
  names.foldl (fun object name => renameKey object name.1 name.2) object

/-- `get_mut` of a member that is an object. -/
def editObject (object : Map) (key : String) (edit : Map → Map) : Map :=
  match object.get? key >>= Value.asMap with
  | some inner => object.insert key (.ofMap (edit inner))
  | none => object

def operationNames : List (String × String) :=
  [("target_module_id", "targetModuleId"), ("module_id", "moduleId"), ("style_direction", "styleDirection"),
    ("visualization_type", "visualizationType"), ("data_binding", "dataBinding"), ("chart_options", "chartOptions"),
    ("chart_runtime", "chartRuntime"), ("runtime", "chartRuntime"), ("model_summary", "modelSummary"),
    ("queue_position", "queuePosition"), ("queue_message", "queueMessage"), ("preview_image", "previewImage"),
    ("final_page", "finalPage")]

def moduleNames : List (String × String) :=
  [("data_label", "dataLabel"), ("data_binding", "dataBinding"), ("chart_options", "chartOptions"),
    ("chart_runtime", "chartRuntime"), ("runtime", "chartRuntime")]

def visualizationNames : List (String × String) :=
  [("chart_options", "chartOptions"), ("chart_runtime", "chartRuntime"), ("runtime", "chartRuntime")]

def dataBindingNames : List (String × String) :=
  [("source_id", "sourceId"), ("field_path", "fieldPath"), ("evidence_ids", "evidenceIds")]

def normalizeDataBindingObject (object : Map) : Map := renameKeys dataBindingNames object

/-- What the patch and the module of an operation have in common. -/
def normalizeModuleObject (object : Map) : Map :=
  editObject (editObject (renameKeys moduleNames object) "dataBinding" normalizeDataBindingObject) "visualization"
    (renameKeys visualizationNames)

def normalizeOperationObject (object : Map) : Map :=
  let patched := editObject (renameKeys operationNames object) "patch" normalizeModuleObject
  editObject (editObject patched "dataBinding" normalizeDataBindingObject) "module" normalizeModuleObject

def normalizeStaticPageOperation (operation : Value) : Value := match operation.asMap with
  | some object => .ofMap (normalizeOperationObject object)
  | none => operation

end Keys

section Fields

def staticPageOperationType (operation : Value) : Option String :=
  ((operation.get "type" >>= Value.asStr).map trim).filter (· ≠ "")

/-- The text under a key, as it is and trimmed, if anything is left of it. -/
def nonEmptyString (operation : Value) (key : String) : Option String :=
  ((operation.get key >>= Value.asStr).map trim).filter (· ≠ "")

def requireNonEmptyString (operation : Value) (key : String) : Except String String :=
  okOr (nonEmptyString operation key) ("operation field " ++ key ++ " is required")

end Fields

section Unsafe

mutual

def containsUnsafeKey : Value → Bool
  | .object entries => entriesContainUnsafeKey entries
  | .array items => itemsContainUnsafeKey items
  | _ => false

def itemsContainUnsafeKey : List Value → Bool
  | [] => false
  | item :: rest => containsUnsafeKey item || itemsContainUnsafeKey rest

def entriesContainUnsafeKey : List (String × Value) → Bool
  | [] => false
  | (key, value) :: rest =>
    ["__proto__", "constructor", "prototype"].contains key || containsUnsafeKey value || entriesContainUnsafeKey rest

end

/-- The letter behind an opened tag, with blanks and one slash before it. -/
def tagLetters (text : List Char) : List Char :=
  let closing := text.dropWhile isWhitespace
  (if closing.head? = some '/' then closing.drop 1 else closing).dropWhile isWhitespace

def containsHtmlLikeTag (value : String) : Bool :=
  value.toList.tails.any fun
    | '<' :: rest => (tagLetters rest).head?.any Char.isAlpha && (tagLetters rest).contains '>'
    | _ => false

def chartStringIsUnsafe (value : String) : Bool :=
  let lower := asciiLower value
  ["javascript:", "data:text/html", "http://", "https://", "@import", "expression(", "onerror=", "onclick=",
    "onload="].any (contains lower) || containsHtmlLikeTag lower

def tagMarkers : List String :=
  ["<script", "</script", "<iframe", "<style", "<link", "<img", "<svg", "<object", "<embed", "<meta", "<base", "<form"]

def staticPageTextStringIsUnsafe (value : String) : Bool :=
  let lower := asciiLower value
  (["javascript:", "data:text/html", "@import", "expression(", "onerror=", "onclick=", "onload="] ++ tagMarkers).any
    (contains lower)

def chartOptionKeyIsUnsafe (key : String) : Bool :=
  let lower := asciiLower key
  ["__proto__", "prototype", "constructor", "renderitem"].contains lower || startsWith lower "on"

end Unsafe

end DataMax.StaticPage
