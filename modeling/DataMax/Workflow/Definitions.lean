import DataMax.Workflow.Engine

/-! The registered workflow definitions: eleven linear ones, the external
source sync and the video extraction, each with its own transition function. -/

namespace DataMax.Workflow

open Domain Json Library

def workflowEvent (name : String) (detail : Value) (occurredAt : DateTime) : WorkflowEvent :=
  { name, detail, occurredAt }

/-- The last arm of every transition: the signal does not fit the status. -/
def unexpectedSignal (kind : WorkflowKind) (state : WorkflowRuntimeState) : TransitionResult :=
  .error (.invalidTransition
    s!"workflow={kind.asStr} stage={state.stage} status={state.status.debug}")

def unexpectedTask (kind : WorkflowKind) (stage taskKey : String) : WorkflowTransitionError :=
  .invalidTransition s!"workflow={kind.asStr} stage={stage} task_key={taskKey}"

def recordOutput (context : Map) : Option Value → Map
  | some output => context.insert "last_output" output
  | none => context

def recordFailure (context : Map) (taskKey error : String) : Map :=
  (context.insert "last_error" (.string error)).insert "failed_task_key" (.string taskKey)

/-- The arm all three definitions share for a retry with nothing left. -/
def deadLetter (state : WorkflowRuntimeState) (reason : String) (now : DateTime) : WorkflowTransition where
  nextState := { state with stage := "dead_lettered", status := .deadLettered, updatedAt := now }
  persistedEvent := workflowEvent "workflow.dead_lettered" (json [("reason", .string reason)]) now
  enqueuedTasks := []

/-- A granted retry from the given state. The caller supplies the state that
is queued again and has already lowered its retries. -/
def requeue (queued : WorkflowRuntimeState) (reason : String) (now : DateTime) : WorkflowTransition where
  nextState := { queued with context := queued.context.insert "retry_reason" (.string reason) }
  persistedEvent := workflowEvent "workflow.retry_requested" (json [("reason", .string reason)]) now
  enqueuedTasks := []

/-- The arm all three definitions share for a cancellation, in any status. -/
def cancel (state : WorkflowRuntimeState) (reason : String) (now : DateTime) : WorkflowTransition where
  nextState := { state with
    stage := "cancelled", status := .cancelled, updatedAt := now
    context := state.context.insert "cancel_reason" (.string reason) }
  persistedEvent := workflowEvent "workflow.cancel_requested" (json [("reason", .string reason)]) now
  enqueuedTasks := []

structure WorkflowStepSpec where
  queue : String
  taskKey : String

structure LinearWorkflowDefinition where
  kind : WorkflowKind
  summary : String
  queue : String
  taskKey : String
  successStage : String
  nextStep : Option WorkflowStepSpec

namespace LinearWorkflowDefinition

def pendingState (self : LinearWorkflowDefinition) (executionId : WorkflowExecutionId)
    (now : DateTime) : WorkflowRuntimeState where
  executionId := executionId
  kind := self.kind
  version := "0.1.0"
  stage := "queued"
  status := .pending
  retriesRemaining := 3
  context := (SortedMap.empty.insert "queue" (.string self.queue)).insert "task_key" (.string self.taskKey)
  updatedAt := now

def taskRequest (self : LinearWorkflowDefinition) (state : WorkflowRuntimeState)
    (queue taskKey : String) : WorkflowTaskRequest where
  queue := queue
  taskKey := taskKey
  payload := json [("execution_id", .string state.executionId.text), ("kind", .string self.kind.asStr)]

def transition (self : LinearWorkflowDefinition) (state : WorkflowRuntimeState)
    (signal : WorkflowSignal) (now : DateTime) : TransitionResult :=
  match signal with
  | .start =>
    if state.status = .pending then
      .ok {
        nextState := { state with stage := self.taskKey, status := .running, updatedAt := now }
        persistedEvent := workflowEvent "workflow.started"
          (json [("task_key", .string self.taskKey), ("queue", .string self.queue)]) now
        enqueuedTasks := [self.taskRequest state self.queue self.taskKey] }
    else unexpectedSignal self.kind state
  | .stepCompleted taskKey output =>
    if state.status = .running then
      if state.stage = self.taskKey ∧ taskKey = self.taskKey then
        let event := workflowEvent "workflow.step_completed" (json [("task_key", .string taskKey)]) now
        match self.nextStep with
        | some nextStep => .ok {
            nextState := { state with
              stage := nextStep.taskKey, status := .running, updatedAt := now
              context := recordOutput state.context output }
            persistedEvent := event
            enqueuedTasks := [self.taskRequest state nextStep.queue nextStep.taskKey] }
        | none => .ok {
            nextState := { state with
              stage := self.successStage, status := .succeeded, updatedAt := now
              context := recordOutput state.context output }
            persistedEvent := event
            enqueuedTasks := [] }
      else if self.nextStep.any fun step => state.stage = step.taskKey ∧ taskKey = step.taskKey then
        .ok {
          nextState := { state with
            stage := self.successStage, status := .succeeded, updatedAt := now
            context := recordOutput state.context output }
          persistedEvent := workflowEvent "workflow.step_completed" (json [("task_key", .string taskKey)]) now
          enqueuedTasks := [] }
      else .error (unexpectedTask self.kind state.stage taskKey)
    else unexpectedSignal self.kind state
  | .stepFailed taskKey error =>
    if state.status = .running then
      .ok {
        nextState := { state with
          stage := s!"{taskKey}:failed", status := .failed, updatedAt := now
          context := state.context.insert "last_error" (.string error) }
        persistedEvent := workflowEvent "workflow.step_failed"
          (json [("task_key", .string taskKey), ("error", .string error)]) now
        enqueuedTasks := [] }
    else unexpectedSignal self.kind state
  | .retryRequested reason =>
    if state.status = .failed then
      if state.retriesRemaining = 0 then .ok (deadLetter state reason now)
      else .ok (requeue { state with
        stage := "queued", status := .pending, retriesRemaining := state.retriesRemaining - 1
        updatedAt := now } reason now)
    else unexpectedSignal self.kind state
  | .cancelRequested reason => .ok (cancel state reason now)
  | .publishRequested _ => .error .unsupportedSignal

end LinearWorkflowDefinition

structure ExternalSourceSyncStep where
  stage : String
  queue : String
  taskKey : String

inductive ExternalSourceSyncStageOutcome where
  | next (step : ExternalSourceSyncStep)
  | completed

namespace ExternalSourceSyncWorkflowDefinition

def firstStep : ExternalSourceSyncStep := ⟨"sync_users", "external_source", "sync_external_users"⟩

/-- The ACL snapshot is fetched before any content, and the index comes last. -/
def steps : List ExternalSourceSyncStep := [
  firstStep,
  ⟨"sync_acl", "external_source", "sync_external_acl"⟩,
  ⟨"sync_metadata", "external_source", "sync_external_metadata"⟩,
  ⟨"fetch_content", "external_source", "fetch_external_content"⟩,
  ⟨"ingest", "ingest", "ingest_external_content"⟩,
  ⟨"index", "retrieval", "index_external_retrieval"⟩]

def pendingState (executionId : WorkflowExecutionId) (now : DateTime) : WorkflowRuntimeState where
  executionId := executionId
  kind := .externalSourceSync
  version := "0.1.0"
  stage := "queued"
  status := .pending
  retriesRemaining := 3
  context := .ofList [
    ("queue", .string firstStep.queue),
    ("task_key", .string firstStep.taskKey),
    ("states", .array (["sync_users", "sync_acl", "sync_metadata", "fetch_content", "ingest",
      "index", "completed", "failed"].map .string)),
    ("permission_boundary", .string "attach_external_acl_snapshot_before_index")]
  updatedAt := now

def stageAfterCompletedTask (currentStage taskKey : String) :
    Except WorkflowTransitionError ExternalSourceSyncStageOutcome :=
  match steps.findIdx? fun step => step.stage = currentStage ∧ step.taskKey = taskKey with
  | none => .error (unexpectedTask .externalSourceSync currentStage taskKey)
  | some index => match steps[index + 1]? with
    | some nextStep => .ok (.next nextStep)
    | none => .ok .completed

/-- The context keys a task payload repeats when the context has them. -/
def carriedKeys : List String := ["source_id", "external_sync_run_id", "sync_kind", "dataset_id",
  "connector_kind", "sync_mode", "permission_mode"]

def taskRequest (state : WorkflowRuntimeState) (step : ExternalSourceSyncStep) : WorkflowTaskRequest where
  queue := step.queue
  taskKey := step.taskKey
  payload := .ofMap (carriedKeys.foldl
    (fun payload key => match state.context.get? key with
      | some value => payload.insert key value
      | none => payload)
    (.ofList [
      ("execution_id", .string state.executionId.text),
      ("kind", .string WorkflowKind.externalSourceSync.asStr),
      ("stage", .string step.stage)]))

def transition (state : WorkflowRuntimeState) (signal : WorkflowSignal) (now : DateTime) :
    TransitionResult :=
  match signal with
  | .start =>
    if state.status = .pending then
      .ok {
        nextState := { state with stage := firstStep.stage, status := .running, updatedAt := now }
        persistedEvent := workflowEvent "workflow.started"
          (json [("task_key", .string firstStep.taskKey), ("queue", .string firstStep.queue)]) now
        enqueuedTasks := [taskRequest state firstStep] }
    else unexpectedSignal .externalSourceSync state
  | .stepCompleted taskKey output =>
    if state.status = .running then
      match stageAfterCompletedTask state.stage taskKey with
      | .error error => .error error
      | .ok (.next nextStep) => .ok {
          nextState := { state with
            stage := nextStep.stage, status := .running, updatedAt := now
            context := recordOutput state.context output }
          persistedEvent := workflowEvent "workflow.step_completed"
            (json [("task_key", .string taskKey), ("next_stage", .string nextStep.stage)]) now
          enqueuedTasks := [taskRequest state nextStep] }
      | .ok .completed => .ok {
          nextState := { state with
            stage := "completed", status := .succeeded, updatedAt := now
            context := recordOutput state.context output }
          persistedEvent := workflowEvent "workflow.completed" (json [("task_key", .string taskKey)]) now
          enqueuedTasks := [] }
    else unexpectedSignal .externalSourceSync state
  | .stepFailed taskKey error =>
    if state.status = .running then
      .ok {
        nextState := { state with
          stage := "failed", status := .failed, updatedAt := now
          context := recordFailure state.context taskKey error }
        persistedEvent := workflowEvent "workflow.step_failed"
          (json [("task_key", .string taskKey), ("error", .string error)]) now
        enqueuedTasks := [] }
    else unexpectedSignal .externalSourceSync state
  | .retryRequested reason =>
    if state.status = .failed then
      if state.retriesRemaining = 0 then .ok (deadLetter state reason now)
      else .ok (requeue { state with
        stage := "queued", status := .pending, retriesRemaining := state.retriesRemaining - 1
        updatedAt := now } reason now)
    else unexpectedSignal .externalSourceSync state
  | .cancelRequested reason => .ok (cancel state reason now)
  | .publishRequested _ => .error .unsupportedSignal

end ExternalSourceSyncWorkflowDefinition

inductive VideoExtractionStageOutcome where
  | next (stage : String)
  | completed
  | unsupportedSource

def videoExtractionOutputIsUnsupported (output : Option Value) : Bool :=
  output.any fun value =>
    ((value.get "status").bind Value.asStr).any (· == "unsupported_source") ||
    ((value.get "reason").bind Value.asStr).any (· == "unsupported_source") ||
    ((value.get "unsupported_source").bind Value.asBool).getD false

namespace VideoExtractionWorkflowDefinition

def pendingState (executionId : WorkflowExecutionId) (now : DateTime) : WorkflowRuntimeState where
  executionId := executionId
  kind := .videoExtraction
  version := "0.1.0"
  stage := "queued"
  status := .pending
  retriesRemaining := 3
  context := .ofList [
    ("queue", .string "media"),
    ("task_key", .string "resolve_video_source"),
    ("states", .array (["resolving_source", "registered", "parsing", "extracting_ppt", "completed",
      "failed", "unsupported_source"].map .string))]
  updatedAt := now

def nextTaskForStage (stage : String) : Option WorkflowStepSpec :=
  if stage = "registered" then some ⟨"media", "register_video_asset"⟩
  else if stage = "parsing" then some ⟨"ingest", "parse_video_media"⟩
  else if stage = "extracting_ppt" then some ⟨"media", "extract_video_ppt"⟩
  else none

/-- An unsupported output ends the run whatever the stage and the key are. -/
def stageAfterCompletedTask (currentStage taskKey : String) (output : Option Value) :
    Except WorkflowTransitionError VideoExtractionStageOutcome :=
  if videoExtractionOutputIsUnsupported output then .ok .unsupportedSource
  else if currentStage = "resolving_source" ∧ taskKey = "resolve_video_source" then
    .ok (.next "registered")
  else if currentStage = "registered" ∧ taskKey = "register_video_asset" then .ok (.next "parsing")
  else if currentStage = "parsing" ∧ taskKey = "parse_video_media" then .ok (.next "extracting_ppt")
  else if currentStage = "extracting_ppt" ∧ taskKey = "extract_video_ppt" then .ok .completed
  else .error (unexpectedTask .videoExtraction currentStage taskKey)

def taskRequest (state : WorkflowRuntimeState) (queue taskKey stage : String) : WorkflowTaskRequest where
  queue := queue
  taskKey := taskKey
  payload := json [
    ("execution_id", .string state.executionId.text),
    ("kind", .string WorkflowKind.videoExtraction.asStr),
    ("stage", .string stage)]

def transition (state : WorkflowRuntimeState) (signal : WorkflowSignal) (now : DateTime) :
    TransitionResult :=
  match signal with
  | .start =>
    if state.status = .pending then
      .ok {
        nextState := { state with stage := "resolving_source", status := .running, updatedAt := now }
        persistedEvent := workflowEvent "workflow.started"
          (json [("task_key", .string "resolve_video_source"), ("queue", .string "media")]) now
        enqueuedTasks := [taskRequest state "media" "resolve_video_source" "resolving_source"] }
    else unexpectedSignal .videoExtraction state
  | .stepCompleted taskKey output =>
    if state.status = .running then
      match stageAfterCompletedTask state.stage taskKey output with
      | .error error => .error error
      | .ok (.next nextStage) => match nextTaskForStage nextStage with
        | none => .error (.invalidTransition s!"missing video extraction task for stage {nextStage}")
        | some nextTask => .ok {
            nextState := { state with
              stage := nextStage, status := .running, updatedAt := now
              context := recordOutput state.context output }
            persistedEvent := workflowEvent "workflow.step_completed"
              (json [("task_key", .string taskKey), ("next_stage", .string nextStage)]) now
            enqueuedTasks := [taskRequest state nextTask.queue nextTask.taskKey nextStage] }
      | .ok .completed => .ok {
          nextState := { state with
            stage := "completed", status := .succeeded, updatedAt := now
            context := recordOutput state.context output }
          persistedEvent := workflowEvent "workflow.completed" (json [("task_key", .string taskKey)]) now
          enqueuedTasks := [] }
      | .ok .unsupportedSource => .ok {
          nextState := { state with
            stage := "unsupported_source", status := .failed, updatedAt := now
            context := recordOutput state.context output }
          persistedEvent := workflowEvent "workflow.unsupported_source"
            (json [("task_key", .string taskKey)]) now
          enqueuedTasks := [] }
    else unexpectedSignal .videoExtraction state
  | .stepFailed taskKey error =>
    if state.status = .running then
      .ok {
        nextState := { state with
          stage := if error = "unsupported_source" then "unsupported_source" else "failed"
          status := .failed, updatedAt := now
          context := recordFailure state.context taskKey error }
        persistedEvent := workflowEvent "workflow.step_failed"
          (json [("task_key", .string taskKey), ("error", .string error)]) now
        enqueuedTasks := [] }
    else unexpectedSignal .videoExtraction state
  | .retryRequested reason =>
    if state.status = .failed then
      if state.retriesRemaining = 0 then .ok (deadLetter state reason now)
      else .ok (requeue { pendingState state.executionId now with
        retriesRemaining := state.retriesRemaining - 1 } reason now)
    else unexpectedSignal .videoExtraction state
  | .cancelRequested reason => .ok (cancel state reason now)
  | .publishRequested _ => .error .unsupportedSignal

end VideoExtractionWorkflowDefinition

inductive DynWorkflowDefinition where
  | linear (definition : LinearWorkflowDefinition)
  | externalSourceSync
  | videoExtraction

namespace DynWorkflowDefinition

def kind : DynWorkflowDefinition → WorkflowKind
  | .linear definition => definition.kind
  | .externalSourceSync => .externalSourceSync
  | .videoExtraction => .videoExtraction

def version (_ : DynWorkflowDefinition) : String := "0.1.0"

def summary : DynWorkflowDefinition → String
  | .linear definition => definition.summary
  | .externalSourceSync =>
    "Sync third-party users, ACLs, metadata, content, ingest output, and retrieval indexes."
  | .videoExtraction =>
    "Resolve video sources, parse media evidence, and extract PPT/transcript deliverables."

def initialState (definition : DynWorkflowDefinition) (executionId : WorkflowExecutionId)
    (now : DateTime) : WorkflowRuntimeState :=
  match definition with
  | .linear definition => definition.pendingState executionId now
  | .externalSourceSync => ExternalSourceSyncWorkflowDefinition.pendingState executionId now
  | .videoExtraction => VideoExtractionWorkflowDefinition.pendingState executionId now

def transition (definition : DynWorkflowDefinition) (state : WorkflowRuntimeState)
    (signal : WorkflowSignal) (now : DateTime) : TransitionResult :=
  match definition with
  | .linear definition => definition.transition state signal now
  | .externalSourceSync => ExternalSourceSyncWorkflowDefinition.transition state signal now
  | .videoExtraction => VideoExtractionWorkflowDefinition.transition state signal now

end DynWorkflowDefinition

def registry : List DynWorkflowDefinition := [
  .linear {
    kind := .chatSession
    summary := "Drive multi-turn chat session orchestration with tool traces and scoped recall."
    queue := "chat_session"
    taskKey := "orchestrate_chat_session"
    successStage := "chat_session_completed"
    nextStep := none },
  .linear {
    kind := .datasetOutput
    summary := "Produce dataset-scoped output artifacts and persistent conversation answers."
    queue := "dataset_output"
    taskKey := "produce_dataset_output"
    successStage := "dataset_output_completed"
    nextStep := none },
  .linear {
    kind := .memoryDirectory
    summary := "Refresh long-term memory directories and evidence indices."
    queue := "memory"
    taskKey := "refresh_memory_directory"
    successStage := "memory_directory_completed"
    nextStep := none },
  .linear {
    kind := .uploadIngest
    summary := "Receive documents, extract structure, chunk content, and attach scope bindings."
    queue := "ingest"
    taskKey := "ingest_uploaded_document"
    successStage := "upload_ingest_completed"
    nextStep := some ⟨"retrieval", "index_retrieval_artifacts"⟩ },
  .linear {
    kind := .reportPlan
    summary := "Produce report plan AST and editable module graph drafts from dataset context."
    queue := "report"
    taskKey := "plan_report_ast"
    successStage := "report_plan_completed"
    nextStep := none },
  .linear {
    kind := .reportRender
    summary := "Render report plans into publishable PC and mobile assets."
    queue := "report"
    taskKey := "render_report_plan"
    successStage := "report_render_completed"
    nextStep := none },
  .linear {
    kind := .staticPageImageGeneration
    summary := "Generate static-page visual preview images through the Codex orchestrator."
    queue := "static_page"
    taskKey := "generate_static_page_image"
    successStage := "static_page_image_generated"
    nextStep := none },
  .linear {
    kind := .staticPageRender
    summary := "Render confirmed static-page drafts into durable HTML and asset manifests."
    queue := "static_page"
    taskKey := "render_static_page"
    successStage := "static_page_render_completed"
    nextStep := none },
  .linear {
    kind := .codexHostTask
    summary := "Queue a DataMax-audited external Codex Host task with isolated task memory."
    queue := "codex_host"
    taskKey := "run_codex_host_task"
    successStage := "codex_host_task_completed"
    nextStep := none },
  .linear {
    kind := .assistantRunModelCompletion
    summary := "Consume queued AssistantRun model-completion turn dispatch requests."
    queue := "assistant_run"
    taskKey := "consume_model_completion_turn"
    successStage := "assistant_run_model_completion_consumed"
    nextStep := none },
  .linear {
    kind := .externalActionDispatch
    summary := "Dispatch validated external action runs through a retryable worker queue."
    queue := "external_action"
    taskKey := "dispatch_external_action"
    successStage := "external_action_dispatched"
    nextStep := none },
  .externalSourceSync,
  .videoExtraction]

end DataMax.Workflow
