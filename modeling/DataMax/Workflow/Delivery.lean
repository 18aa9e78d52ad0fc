import DataMax.Library.Delivery
import DataMax.Workflow.Store
import Mathlib.Data.List.Permutation

/-! Deliveries of signals to stored executions: each reads a row, computes the
next one and persists it in a transaction of its own. -/

namespace DataMax.Workflow

open Domain Json Library

structure WorkflowEventRecord where
  id : WorkflowEventId
  executionId : WorkflowExecutionId
  sequenceNo : Int
  eventName : String
  payload : Value
  createdAt : DateTime

inductive WorkflowTaskStatus where
  | queued
  | claimed
  | succeeded
  | failed
  | cancelled
  | deadLettered
  deriving DecidableEq

structure WorkflowTask where
  id : WorkflowTaskId
  tenantId : TenantId
  executionId : WorkflowExecutionId
  queue : String
  taskKey : String
  payload : Value
  status : WorkflowTaskStatus
  attempt : UInt32
  maxAttempts : UInt32
  availableAt : DateTime
  claimedAt : Option DateTime
  finishedAt : Option DateTime
  error : Option String
  createdAt : DateTime
  updatedAt : DateTime

/-- The three tables that one advance writes to. -/
structure WorkflowStore where
  executions : List WorkflowExecution
  events : List WorkflowEventRecord
  tasks : List WorkflowTask

/-- A signal on its way to a stored execution, with the clock reading and the
new identifiers its delivery uses. -/
structure Delivery where
  tenantId : TenantId
  executionId : WorkflowExecutionId
  signal : WorkflowSignal
  now : DateTime
  eventId : WorkflowEventId
  taskId : Nat → WorkflowTaskId

namespace WorkflowStore

def getById (store : WorkflowStore) (tenantId : TenantId) (executionId : WorkflowExecutionId) :
    Option WorkflowExecution :=
  store.executions.find? fun row => row.tenantId = tenantId ∧ row.id = executionId

def nextSequence (store : WorkflowStore) (executionId : WorkflowExecutionId) : Int :=
  (((store.events.filter fun event => event.executionId = executionId).map
    WorkflowEventRecord.sequenceNo).max?).getD 0 + 1

/-- The update compares the identifier and the tenant of a row, nothing else. -/
def updateExecution (store : WorkflowStore) (execution : WorkflowExecution) : List WorkflowExecution :=
  store.executions.map fun row =>
    if row.id = execution.id ∧ row.tenantId = execution.tenantId then
      { row with
        version := execution.version
        stage := execution.stage
        status := execution.status
        attempt := execution.attempt
        context := execution.context
        updatedAt := execution.updatedAt }
    else row

def insertedTask (execution : WorkflowExecution) (createdAt : DateTime) (id : WorkflowTaskId)
    (task : NewWorkflowTask) : WorkflowTask where
  id := id
  tenantId := execution.tenantId
  executionId := execution.id
  queue := task.queue
  taskKey := task.taskKey
  payload := task.payload
  status := .queued
  attempt := 0
  maxAttempts := task.maxAttempts
  availableAt := task.availableAt
  claimedAt := none
  finishedAt := none
  error := none
  createdAt := createdAt
  updatedAt := createdAt

def advanceWithTasks (store : WorkflowStore) (prepared : PreparedAdvance) (eventId : WorkflowEventId)
    (taskId : Nat → WorkflowTaskId) : WorkflowStore where
  executions := store.updateExecution prepared.execution
  events := store.events ++ [{
    id := eventId
    executionId := prepared.execution.id
    sequenceNo := store.nextSequence prepared.execution.id
    eventName := prepared.event.name
    payload := prepared.event.detail
    createdAt := prepared.event.occurredAt }]
  tasks := store.tasks ++ prepared.tasks.mapIdx fun index task =>
    insertedTask prepared.execution prepared.event.occurredAt (taskId index) task

end WorkflowStore

/-- A delivery holds on to the row it has read until it persists the next one.
It gives up when the row is missing or the signal is rejected. -/
def signalDelivery : Protocol WorkflowStore Delivery (Option WorkflowExecution) where
  read store delivery := store.getById delivery.tenantId delivery.executionId
  commit store delivery snapshot := match snapshot with
    | none => none
    | some execution => match prepareWorkflowSignal execution delivery.signal delivery.now with
      | .error _ => none
      | .ok prepared => some (store.advanceWithTasks prepared delivery.eventId delivery.taskId)

/-- An accepted delivery persists only while the stored row is the one it read. -/
def RowStillRead (session : Session WorkflowStore Delivery (Option WorkflowExecution)) :
    Action Delivery → Prop
  | .read _ _ => True
  | .commit slot => ∀ delivery execution prepared, session.held slot = some (delivery, some execution) →
      prepareWorkflowSignal execution delivery.signal delivery.now = .ok prepared →
      session.store.getById delivery.tenantId delivery.executionId = some execution

theorem fresh_of_rowStillRead (session : Session WorkflowStore Delivery (Option WorkflowExecution))
    (action : Action Delivery) (still : RowStillRead session action) :
    signalDelivery.Fresh session action := by
  cases action with
  | read slot delivery => trivial
  | commit slot =>
    intro delivery snapshot holding effective
    cases snapshot with
    | none => simp [signalDelivery] at effective
    | some execution =>
      cases outcome : prepareWorkflowSignal execution delivery.signal delivery.now with
      | error error => simp [signalDelivery, outcome] at effective
      | ok prepared => exact still delivery execution prepared holding outcome

/-- The store is what the accepted signals lead to when they are delivered one
after the other in some order, each of them accepted again. -/
def Serialized (store : WorkflowStore) (session : Session WorkflowStore Delivery (Option WorkflowExecution)) :
    Prop :=
  ∃ order : List Delivery, order.Perm session.committed ∧
    order.foldlM signalDelivery.perform store = some session.store

/-- However the reads and the writes of any deliveries are interleaved, if
every accepted delivery persists while the stored row is still the one it read,
the executions, the events and the tasks are those of delivering the accepted
signals one after the other. -/
theorem fresh_deliveries_serial (store : WorkflowStore) (actions : List (Action Delivery))
    (still : Guarded signalDelivery.act RowStillRead (Protocol.start store) actions) :
    Serialized store (actions.foldl signalDelivery.act (Protocol.start store)) := by
  refine ⟨_, List.Perm.refl _, signalDelivery.fresh_serial store actions ?_⟩
  intro earlier action before
  exact fresh_of_rowStillRead _ action (still earlier action before)

/-- A started chat session and nothing else. -/
def sessionStore : WorkflowStore where
  executions := [storedDeliver
    (workflowInitialExecution registry[0] ⟨"execution"⟩ ⟨"tenant"⟩ none none 0) ⟨.start, 1⟩]
  events := []
  tasks := []

def cancelDelivery : Delivery :=
  ⟨⟨"tenant"⟩, ⟨"execution"⟩, .cancelRequested "stop", 2, ⟨"first event"⟩, fun _ => ⟨"task"⟩⟩

def completionDelivery : Delivery :=
  ⟨⟨"tenant"⟩, ⟨"execution"⟩, .stepCompleted "orchestrate_chat_session" none, 3, ⟨"second event"⟩,
    fun _ => ⟨"task"⟩⟩

theorem fresh_deliveries_serial_session : Serialized sessionStore
    ([.read 0 cancelDelivery, .commit 0].foldl signalDelivery.act (Protocol.start sessionStore)) := by
  refine fresh_deliveries_serial sessionStore _ ((guarded_concat _ _ _ [_] _).mpr
    ⟨(guarded_concat _ _ _ [] _).mpr ⟨guarded_nil _ _ _, trivial⟩, ?_⟩)
  intro delivery execution prepared holding _
  cases holding
  rfl

/-- A completion computed before a cancellation and persisted after it undoes
the cancellation, which no order of the two signals does. -/
theorem cancellation_undone : ¬ Serialized sessionStore
    ([.read 0 completionDelivery, .read 1 cancelDelivery, .commit 1, .commit 0].foldl signalDelivery.act
      (Protocol.start sessionStore)) := by
  rintro ⟨order, permuted, same⟩
  have statuses := congrArg (fun store => store.map fun store =>
    store.executions.map WorkflowExecution.status) same
  revert statuses
  rcases List.perm_pair.mp permuted with rfl | rfl <;> decide

end DataMax.Workflow
