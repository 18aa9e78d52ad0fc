import DataMax.Workflow.Progress

/-! Stored executions: how a runtime state is written to a row, read back from
it, and advanced by one signal in between. -/

namespace DataMax.Workflow

open Domain Json Library

inductive StatusCode where
  | badRequest
  | internalServerError
  deriving DecidableEq

structure ApiError where
  status : StatusCode
  code : String
  message : String
  deriving DecidableEq

def ApiError.internal (code message : String) : ApiError := ⟨.internalServerError, code, message⟩

def ApiError.fromTransition : WorkflowTransitionError → ApiError
  | .unsupportedSignal =>
    ⟨.badRequest, "unsupported_signal", "the requested workflow signal is not supported"⟩
  | .invalidTransition message => ⟨.badRequest, "invalid_transition", message⟩

structure WorkflowExecution where
  id : WorkflowExecutionId
  tenantId : TenantId
  datasetId : Option DatasetId
  reportPlanId : Option ReportPlanId
  kind : WorkflowKind
  version : String
  stage : String
  status : WorkflowStatus
  attempt : UInt32
  context : Value
  createdAt : DateTime
  updatedAt : DateTime

structure NewWorkflowTask where
  queue : String
  taskKey : String
  payload : Value
  availableAt : DateTime
  maxAttempts : UInt32

def extractContextObject : Value → Except ApiError Map
  | .null => .ok .empty
  | value => match value.asMap with
    | some map => .ok map
    | none => .error (.internal "invalid_execution_context"
        "workflow execution context must be a JSON object")

def workflowRuntimeStateFromExecution (execution : WorkflowExecution) :
    Except ApiError WorkflowRuntimeState :=
  match extractContextObject execution.context with
  | .error error => .error error
  | .ok context => .ok {
      executionId := execution.id
      kind := execution.kind
      version := execution.version
      stage := execution.stage
      status := execution.status
      retriesRemaining := (((context.get? "retries_remaining").bind Value.asU64).getD 3).toUInt32
      context := context.erase "retries_remaining"
      updatedAt := execution.updatedAt }

def nextAttempt (previousStatus : WorkflowStatus) (previousAttempt : UInt32)
    (nextStatus : WorkflowStatus) : UInt32 :=
  if previousStatus = .pending ∧ nextStatus = .running then previousAttempt + 1 else previousAttempt

def workflowExecutionFromTransition (previous : WorkflowExecution) (nextState : WorkflowRuntimeState) :
    WorkflowExecution where
  id := previous.id
  tenantId := previous.tenantId
  datasetId := previous.datasetId
  reportPlanId := previous.reportPlanId
  kind := nextState.kind
  version := nextState.version
  stage := nextState.stage
  status := nextState.status
  attempt := nextAttempt previous.status previous.attempt nextState.status
  context := .ofMap (nextState.context.insert "retries_remaining" (.ofU32 nextState.retriesRemaining))
  createdAt := previous.createdAt
  updatedAt := nextState.updatedAt

def workflowInitialContextWithRetries (runtimeState : WorkflowRuntimeState) : Map :=
  runtimeState.context.insert "retries_remaining" (.ofU32 runtimeState.retriesRemaining)

/-- The row a new workflow is stored with. -/
def workflowInitialExecution (definition : DynWorkflowDefinition) (executionId : WorkflowExecutionId)
    (tenantId : TenantId) (datasetId : Option DatasetId) (reportPlanId : Option ReportPlanId)
    (now : DateTime) : WorkflowExecution :=
  let runtimeState := definition.initialState executionId now
  { id := executionId, tenantId, datasetId, reportPlanId
    kind := definition.kind
    version := runtimeState.version
    stage := runtimeState.stage
    status := runtimeState.status
    attempt := 0
    context := .ofMap (workflowInitialContextWithRetries runtimeState)
    createdAt := now
    updatedAt := now }

def findDefinition (kind : WorkflowKind) : Option DynWorkflowDefinition :=
  registry.find? fun definition => definition.kind = kind

/-- What one signal prepares for the database: the next row, the event and the
tasks that are persisted with it. -/
structure PreparedAdvance where
  execution : WorkflowExecution
  event : WorkflowEvent
  tasks : List NewWorkflowTask

def newWorkflowTask (event : WorkflowEvent) (task : WorkflowTaskRequest) : NewWorkflowTask where
  queue := task.queue
  taskKey := task.taskKey
  payload := task.payload
  availableAt := event.occurredAt
  maxAttempts := 3

def prepareWorkflowSignal (execution : WorkflowExecution) (signal : WorkflowSignal) (now : DateTime) :
    Except ApiError PreparedAdvance :=
  match findDefinition execution.kind with
  | none => .error (.internal "workflow_definition_missing"
      s!"workflow definition {execution.kind.asStr} is not registered")
  | some definition => match workflowRuntimeStateFromExecution execution with
    | .error error => .error error
    | .ok runtimeState => match definition.transition runtimeState signal now with
      | .error error => .error (.fromTransition error)
      | .ok transition => .ok {
          execution := workflowExecutionFromTransition execution transition.nextState
          event := transition.persistedEvent
          tasks := transition.enqueuedTasks.map (newWorkflowTask transition.persistedEvent) }

theorem findDefinition_registered (registered : definition ∈ registry) :
    findDefinition definition.kind = some definition := by
  simp only [registry, List.mem_cons, List.not_mem_nil, or_false] at registered
  rcases registered with rfl | rfl | rfl | rfl | rfl | rfl | rfl | rfl | rfl | rfl | rfl | rfl | rfl <;> rfl

@[simp] theorem extractContextObject_ofMap (map : Map) : extractContextObject (.ofMap map) = .ok map := by
  have object := Value.asMap_ofMap map
  simp only [extractContextObject, Value.ofMap] at object ⊢
  rw [object]

/-- What a stored row has in common with the runtime state it was written from. -/
structure Mirrors (execution : WorkflowExecution) (state : WorkflowRuntimeState) : Prop where
  id : execution.id = state.executionId
  kind : execution.kind = state.kind
  version : execution.version = state.version
  stage : execution.stage = state.stage
  status : execution.status = state.status
  updatedAt : execution.updatedAt = state.updatedAt
  context : execution.context =
    .ofMap (state.context.insert "retries_remaining" (.ofU32 state.retriesRemaining))

/-- Reading a row back gives the state it was written from, as long as the
context leaves alone the key that carries the retries. -/
theorem Mirrors.reload (mirrors : Mirrors execution state)
    (absent : state.context.get? "retries_remaining" = none) :
    workflowRuntimeStateFromExecution execution = .ok state := by
  obtain ⟨id, kind, version, stage, status, updatedAt, context⟩ := mirrors
  simp [workflowRuntimeStateFromExecution, context, SortedMap.erase_insert _ _ _ absent, id, kind, version,
    stage, status, updatedAt]

/-- The key of a stored context that carries the retries. -/
def FreeOfRetries (context : Map) : Prop := context.get? "retries_remaining" = none

theorem FreeOfRetries.insert (free : FreeOfRetries context) (value : Value)
    (other : key ≠ "retries_remaining") : FreeOfRetries (context.insert key value) := by
  rw [FreeOfRetries, SortedMap.get?_insert_other _ _ (Ne.symm other)]
  exact free

theorem FreeOfRetries.recordOutput (free : FreeOfRetries context) (output : Option Value) :
    FreeOfRetries (recordOutput context output) := by
  cases output with
  | none => exact free
  | some value => exact free.insert value (by decide)

theorem FreeOfRetries.failureContext (free : FreeOfRetries context) (definition : DynWorkflowDefinition)
    (taskKey error : String) : FreeOfRetries (definition.failureContext context taskKey error) := by
  cases definition with
  | linear definition => exact free.insert _ (by decide)
  | _ => exact (free.insert _ (by decide)).insert _ (by decide)

theorem freeOfRetries_initial (definition : DynWorkflowDefinition) (executionId : WorkflowExecutionId)
    (now : DateTime) : FreeOfRetries (definition.initialState executionId now).context := by
  cases definition with
  | linear definition =>
    have empty : FreeOfRetries .empty := rfl
    exact (empty.insert _ (by decide)).insert _ (by decide)
  | _ => rfl

/-- No signal writes the key that carries the retries. -/
theorem Move.freeOfRetries (move : Move definition state now signal next keys)
    (free : FreeOfRetries state.context) : FreeOfRetries next.context := by
  cases move with
  | start pending first => exact free
  | advance running plain current here later => exact free.recordOutput _
  | finish running plain current here last => exact free.recordOutput _
  | unsupported running ends => exact free.recordOutput _
  | fail running => exact free.failureContext definition _ _
  | exhaust failed spent => exact free
  | requeue failed left =>
    have queued : FreeOfRetries (definition.queuedAgain state now).context := by
      cases definition with
      | videoExtraction => exact freeOfRetries_initial .videoExtraction state.executionId now
      | _ => exact free
    exact queued.insert _ (by decide)
  | cancel => exact free.insert _ (by decide)

theorem Move.executionId (move : Move definition state now signal next keys) :
    next.executionId = state.executionId := by
  cases move with
  | requeue failed left => cases definition <;> rfl
  | _ => rfl

theorem Move.kind (move : Move definition state now signal next keys)
    (same : state.kind = definition.kind) : next.kind = definition.kind := by
  cases move with
  | requeue failed left => cases definition <;> first | exact same | rfl
  | _ => exact same

/-- How the attempts a row has counted and the retries it has left add up. A
cancelled row keeps whatever sum it was cancelled with. -/
structure AttemptsAccounted (execution : WorkflowExecution) (state : WorkflowRuntimeState) : Prop where
  waiting : state.status = .pending → execution.attempt.toNat + state.retriesRemaining.toNat = 3
  begun : state.status ≠ .pending → state.status ≠ .cancelled →
    execution.attempt.toNat + state.retriesRemaining.toNat = 4

theorem AttemptsAccounted.step (accounted : AttemptsAccounted execution state)
    (same : execution.status = state.status) (move : Move definition state now signal next keys) :
    AttemptsAccounted (workflowExecutionFromTransition execution next) next := by
  obtain ⟨waiting, begun⟩ := accounted
  cases move with
  | start pending first =>
    have sum := waiting pending
    have bumped : (execution.attempt + 1).toNat = execution.attempt.toNat + 1 := by
      rw [UInt32.toNat_add, UInt32.toNat_one]
      omega
    constructor
    · intro impossible
      cases impossible
    · intro _ _
      simp only [workflowExecutionFromTransition, nextAttempt, same, pending, true_and, if_true, bumped]
      omega
  | advance running | finish running | unsupported running | fail running =>
    have sum := begun (by simp [running]) (by simp [running])
    refine ⟨by simp, fun _ _ => ?_⟩
    simpa [workflowExecutionFromTransition, nextAttempt, same, running] using sum
  | exhaust failed spent =>
    have sum := begun (by simp [failed]) (by simp [failed])
    refine ⟨by simp, fun _ _ => ?_⟩
    simpa [workflowExecutionFromTransition, nextAttempt, same, failed] using sum
  | requeue failed left =>
    have sum := begun (by simp [failed]) (by simp [failed])
    have lowered := queuedAgain_retries definition now left
    refine ⟨fun _ => ?_, fun waits => False.elim (waits (queuedAgain_status definition state now))⟩
    simp only [workflowExecutionFromTransition, nextAttempt, same, failed, reduceCtorEq, false_and, if_false]
    omega
  | cancel => exact ⟨by simp, by simp⟩

/-- A stored row of a definition stands for a runtime state of its runs. -/
structure Stores (definition : DynWorkflowDefinition) (execution : WorkflowExecution)
    (state : WorkflowRuntimeState) : Prop where
  mirrors : Mirrors execution state
  kind : state.kind = definition.kind
  free : FreeOfRetries state.context
  attempts : AttemptsAccounted execution state

theorem stores_initial (definition : DynWorkflowDefinition) (executionId : WorkflowExecutionId)
    (tenantId : TenantId) (datasetId : Option DatasetId) (reportPlanId : Option ReportPlanId)
    (now : DateTime) : Stores definition
      (workflowInitialExecution definition executionId tenantId datasetId reportPlanId now)
      (definition.initialState executionId now) := by
  have kind : (definition.initialState executionId now).kind = definition.kind := by
    cases definition <;> rfl
  refine ⟨⟨?_, kind.symm, rfl, rfl, rfl, ?_, rfl⟩, kind,
    freeOfRetries_initial definition executionId now, ?_, ?_⟩
  all_goals cases definition <;> simp [workflowInitialExecution, DynWorkflowDefinition.initialState,
    LinearWorkflowDefinition.pendingState, ExternalSourceSyncWorkflowDefinition.pendingState,
    VideoExtractionWorkflowDefinition.pendingState]

theorem Stores.reload (stores : Stores definition execution state) :
    workflowRuntimeStateFromExecution execution = .ok state :=
  stores.mirrors.reload stores.free

/-- A signal to a stored row has the outcome it has on the state in memory. -/
def SameOutcome : TransitionResult → Except ApiError PreparedAdvance → Prop
  | .ok transition, .ok prepared => prepared.event = transition.persistedEvent ∧
      prepared.tasks = transition.enqueuedTasks.map (newWorkflowTask transition.persistedEvent) ∧
      workflowRuntimeStateFromExecution prepared.execution = .ok transition.nextState
  | .error rejected, .error error => error = .fromTransition rejected
  | _, _ => False

theorem Stores.prepare (stores : Stores definition execution state) (registered : definition ∈ registry)
    (signal : WorkflowSignal) (now : DateTime) :
    prepareWorkflowSignal execution signal now = match definition.transition state signal now with
      | .error error => .error (.fromTransition error)
      | .ok transition => .ok {
          execution := workflowExecutionFromTransition execution transition.nextState
          event := transition.persistedEvent
          tasks := transition.enqueuedTasks.map (newWorkflowTask transition.persistedEvent) } := by
  have found : findDefinition execution.kind = some definition := by
    rw [stores.mirrors.kind, stores.kind]
    exact findDefinition_registered registered
  simp only [prepareWorkflowSignal, found, stores.reload]

/-- Writing the next state of an accepted signal to the row keeps the row and
the state together. -/
theorem Stores.step (stores : Stores definition execution state)
    (accepted : definition.transition state signal now = .ok result) :
    Stores definition (workflowExecutionFromTransition execution result.nextState) result.nextState := by
  have move := DynWorkflowDefinition.move_of_accepted accepted
  exact ⟨⟨stores.mirrors.id.trans move.executionId.symm, rfl, rfl, rfl, rfl, rfl, rfl⟩, move.kind stores.kind,
    move.freeOfRetries stores.free, stores.attempts.step stores.mirrors.status move⟩

theorem Stores.sameOutcome (stores : Stores definition execution state) (registered : definition ∈ registry)
    (signal : WorkflowSignal) (now : DateTime) :
    SameOutcome (definition.transition state signal now) (prepareWorkflowSignal execution signal now) := by
  rw [stores.prepare registered]
  cases accepted : definition.transition state signal now with
  | error error => rfl
  | ok result => exact ⟨rfl, rfl, (stores.step accepted).reload⟩

/-- A rejected signal leaves the row as it is. -/
def storedDeliver (execution : WorkflowExecution) (sent : SentSignal) : WorkflowExecution :=
  match prepareWorkflowSignal execution sent.signal sent.now with
  | .ok prepared => prepared.execution
  | .error _ => execution

theorem Stores.deliver (stores : Stores definition execution state) (registered : definition ∈ registry)
    (sent : SentSignal) : Stores definition (storedDeliver execution sent) (definition.deliver state sent) := by
  simp only [storedDeliver, DynWorkflowDefinition.deliver, stores.prepare registered]
  cases accepted : definition.transition state sent.signal sent.now with
  | error error => exact stores
  | ok result => exact stores.step accepted

theorem Stores.deliverAll (stores : Stores definition execution state) (registered : definition ∈ registry)
    (sent : List SentSignal) :
    Stores definition (sent.foldl storedDeliver execution) (definition.deliverAll state sent) := by
  induction sent generalizing execution state with
  | nil => exact stores
  | cons first rest ih => exact ih (stores.deliver registered first)

/-- Storing the state after every signal and reading it back before the next
one changes nothing about a run, and the attempts of the row are the retries
that the state has used. -/
theorem stored_run_refines (registered : definition ∈ registry) (executionId : WorkflowExecutionId)
    (tenantId : TenantId) (datasetId : Option DatasetId) (reportPlanId : Option ReportPlanId)
    (now : DateTime) (sent : List SentSignal) :
    let execution := sent.foldl storedDeliver
      (workflowInitialExecution definition executionId tenantId datasetId reportPlanId now)
    let state := definition.deliverAll (definition.initialState executionId now) sent
    workflowRuntimeStateFromExecution execution = .ok state ∧
    (∀ signal instant, SameOutcome (definition.transition state signal instant)
      (prepareWorkflowSignal execution signal instant)) ∧
    (execution.status = .pending → execution.attempt.toNat + state.retriesRemaining.toNat = 3) ∧
    (execution.status = .running ∨ execution.status = .succeeded →
      execution.attempt.toNat + state.retriesRemaining.toNat = 4) := by
  intro execution state
  have stores : Stores definition execution state :=
    (stores_initial definition executionId tenantId datasetId reportPlanId now).deliverAll registered sent
  refine ⟨stores.reload, stores.sameOutcome registered, ?_, ?_⟩
  · intro pending
    exact stores.attempts.waiting (stores.mirrors.status.symm.trans pending)
  · intro begun
    rw [stores.mirrors.status] at begun
    exact stores.attempts.begun (by rcases begun with same | same <;> simp [same])
      (by rcases begun with same | same <;> simp [same])

theorem stored_run_refines_video :
    let sent : List SentSignal := [⟨.start, 1⟩, ⟨.stepFailed "resolve_video_source" "timeout", 2⟩,
      ⟨.retryRequested "timeout", 3⟩]
    workflowRuntimeStateFromExecution (sent.foldl storedDeliver
        (workflowInitialExecution .videoExtraction ⟨"execution"⟩ ⟨"tenant"⟩ none none 0)) =
      .ok (DynWorkflowDefinition.videoExtraction.deliverAll
        (DynWorkflowDefinition.videoExtraction.initialState ⟨"execution"⟩ 0) sent) :=
  (stored_run_refines (by simp [registry]) ⟨"execution"⟩ ⟨"tenant"⟩ none none 0 _).1

end DataMax.Workflow
