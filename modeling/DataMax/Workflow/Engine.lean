import DataMax.Domain.Identifier
import DataMax.Json.Value

/-! The vocabulary of the workflow engine: kinds, statuses, signals, the state
of a run in memory and what one accepted signal produces. -/

namespace DataMax.Workflow

open Domain Json

inductive WorkflowKind where
  | chatSession
  | datasetOutput
  | memoryDirectory
  | uploadIngest
  | reportPlan
  | reportRender
  | staticPageImageGeneration
  | staticPageRender
  | codexHostTask
  | videoExtraction
  | assistantRunModelCompletion
  | externalSourceSync
  | externalActionDispatch
  deriving DecidableEq

def WorkflowKind.asStr : WorkflowKind → String
  | .chatSession => "chat_session_workflow"
  | .datasetOutput => "dataset_output_workflow"
  | .memoryDirectory => "memory_directory_workflow"
  | .uploadIngest => "upload_ingest_workflow"
  | .reportPlan => "report_plan_workflow"
  | .reportRender => "report_render_workflow"
  | .staticPageImageGeneration => "static_page_image_generation_workflow"
  | .staticPageRender => "static_page_render_workflow"
  | .codexHostTask => "codex_host_task_workflow"
  | .videoExtraction => "video_extraction_workflow"
  | .assistantRunModelCompletion => "assistant_run_model_completion_workflow"
  | .externalSourceSync => "external_source_sync_workflow"
  | .externalActionDispatch => "external_action_dispatch_workflow"

inductive WorkflowStatus where
  | pending
  | running
  | succeeded
  | failed
  | cancelled
  | deadLettered
  deriving DecidableEq

/-- The derived `Debug` text, as the rejection messages print it. -/
def WorkflowStatus.debug : WorkflowStatus → String
  | .pending => "Pending"
  | .running => "Running"
  | .succeeded => "Succeeded"
  | .failed => "Failed"
  | .cancelled => "Cancelled"
  | .deadLettered => "DeadLettered"

inductive WorkflowSignal where
  | start
  | stepCompleted (taskKey : String) (output : Option Value)
  | stepFailed (taskKey : String) (error : String)
  | retryRequested (reason : String)
  | cancelRequested (reason : String)
  | publishRequested (note : Option String)

structure WorkflowRuntimeState where
  executionId : WorkflowExecutionId
  kind : WorkflowKind
  version : String
  stage : String
  status : WorkflowStatus
  retriesRemaining : UInt32
  context : Map
  updatedAt : DateTime

structure WorkflowEvent where
  name : String
  detail : Value
  occurredAt : DateTime

structure WorkflowTaskRequest where
  queue : String
  taskKey : String
  payload : Value

structure WorkflowTransition where
  nextState : WorkflowRuntimeState
  persistedEvent : WorkflowEvent
  enqueuedTasks : List WorkflowTaskRequest

inductive WorkflowTransitionError where
  | unsupportedSignal
  | invalidTransition (message : String)

abbrev TransitionResult := Except WorkflowTransitionError WorkflowTransition

end DataMax.Workflow
