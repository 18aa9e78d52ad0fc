import DataMax.Workflow.Progress

/-! What a caller puts into the context of an execution, and what a retry leaves of it. -/

namespace DataMax.Workflow

open Domain Json Library

namespace DynWorkflowDefinition

/-- The context keys that a definition writes by itself. -/
def ownKeys : DynWorkflowDefinition → List String
  | .linear _ => ["queue", "task_key", "last_output", "last_error", "retry_reason", "cancel_reason"]
  | .externalSourceSync => ["queue", "task_key", "states", "permission_boundary", "last_output", "last_error",
      "failed_task_key", "retry_reason", "cancel_reason"]
  | .videoExtraction => ["queue", "task_key", "states", "last_output", "last_error", "failed_task_key",
      "retry_reason", "cancel_reason"]

/-- The retry makes a new initial state instead of changing the failed one. -/
def restarts : DynWorkflowDefinition → Bool
  | .videoExtraction => true
  | _ => false

/-- An execution as it is created, with the context that the caller gives it. -/
def created (definition : DynWorkflowDefinition) (given : Map) (executionId : WorkflowExecutionId) (now : DateTime) :
    WorkflowRuntimeState :=
  { definition.initialState executionId now with context := given }

/-- The caller's entries of the first context are in the second one. -/
def CarriesOver (definition : DynWorkflowDefinition) (before after : Map) : Prop :=
  ∀ key, key ∉ definition.ownKeys → ∀ value, before.get? key = some value → after.get? key = some value

/-- Every accepted retry of a failed execution with retries left carries the caller's entries over. -/
def RetriesKeepContext (definition : DynWorkflowDefinition) (given : Map) (executionId : WorkflowExecutionId)
    (start : DateTime) : Prop :=
  ∀ log state, Run definition.Accepting (definition.created given executionId start) log state →
    state.status = .failed → state.retriesRemaining ≠ 0 → ∀ reason now transition,
    definition.transition state (.retryRequested reason) now = .ok transition →
      definition.CarriesOver state.context transition.nextState.context

end DynWorkflowDefinition

variable {definition : DynWorkflowDefinition} {state next : WorkflowRuntimeState}

section OwnKeys

variable {key : String} (foreign : key ∉ definition.ownKeys) (context : Map)

include foreign

theorem get?_recordOutput (output : Option Value) : (recordOutput context output).get? key = context.get? key := by
  cases output with
  | none => rfl
  | some value =>
    apply SortedMap.get?_insert_other
    rintro rfl
    cases definition <;> simp [DynWorkflowDefinition.ownKeys] at foreign

theorem get?_failureContext (taskKey error : String) :
    (definition.failureContext context taskKey error).get? key = context.get? key := by
  cases definition with
  | linear _ =>
    apply SortedMap.get?_insert_other
    rintro rfl
    simp [DynWorkflowDefinition.ownKeys] at foreign
  | _ =>
    simp only [DynWorkflowDefinition.ownKeys, List.mem_cons, List.not_mem_nil, or_false, not_or] at foreign
    rw [DynWorkflowDefinition.failureContext, recordFailure, SortedMap.get?_insert_other, SortedMap.get?_insert_other]
    all_goals simp [foreign]

theorem get?_reason (name : String) (written : name ∈ ["retry_reason", "cancel_reason"]) (reason : String) :
    (context.insert name (.string reason)).get? key = context.get? key := by
  apply SortedMap.get?_insert_other
  rintro rfl
  cases definition <;> simp_all [DynWorkflowDefinition.ownKeys]

theorem get?_queuedAgain (now : DateTime) : (definition.queuedAgain state now).context.get? key =
    if definition.restarts then none else state.context.get? key := by
  cases definition with
  | videoExtraction =>
    change (VideoExtractionWorkflowDefinition.pendingState state.executionId now).context.get? key = none
    cases found : (VideoExtractionWorkflowDefinition.pendingState state.executionId now).context.get? key with
    | none => rfl
    | some value =>
      have listed := SortedMap.mem_of_get?_ofList found
      simp only [List.mem_cons, List.not_mem_nil, or_false, Prod.mk.injEq] at listed
      rcases listed with ⟨rfl, -⟩ | ⟨rfl, -⟩ | ⟨rfl, -⟩ <;> simp [DynWorkflowDefinition.ownKeys] at foreign
  | _ => rfl

end OwnKeys

def WorkflowSignal.requeues (signal : WorkflowSignal) (status : WorkflowStatus) : Bool := match signal with
  | .retryRequested _ => status = .pending
  | _ => false

theorem AcceptedSignal.isRequeue_eq (accepted : AcceptedSignal) :
    accepted.isRequeue = accepted.signal.requeues accepted.transition.nextState.status := by
  obtain ⟨signal, now, transition⟩ := accepted
  cases signal <;> rfl

/-- An accepted signal leaves the caller's entries alone, unless it restarts the execution. -/
theorem Move.foreign (move : Move definition state now signal next taskKeys) {key : String}
    (foreign : key ∉ definition.ownKeys) : next.context.get? key =
      if definition.restarts && signal.requeues next.status then none else state.context.get? key := by
  cases move with
  | start => simp [WorkflowSignal.requeues]
  | advance => simp [WorkflowSignal.requeues, get?_recordOutput foreign]
  | finish => simp [WorkflowSignal.requeues, get?_recordOutput foreign]
  | unsupported => simp [WorkflowSignal.requeues, get?_recordOutput foreign]
  | fail => simp [WorkflowSignal.requeues, get?_failureContext foreign]
  | exhaust => simp [WorkflowSignal.requeues]
  | cancel => simp [WorkflowSignal.requeues, get?_reason foreign]
  | requeue failed left =>
    rw [get?_reason foreign _ _ (by simp), get?_queuedAgain foreign]
    simp [WorkflowSignal.requeues, queuedAgain_status]

theorem Move.queued (move : Move definition state now (.retryRequested reason) next taskKeys)
    (left : state.retriesRemaining ≠ 0) : next.status = .pending := by
  cases move with
  | exhaust _ spent => exact absurd spent left
  | requeue => exact queuedAgain_status definition state now

/-- The caller's entries are those of the beginning until the execution is restarted, and then they are gone. -/
theorem foreign_of_run {given : Map} {executionId : WorkflowExecutionId} {start : DateTime}
    (run : Run definition.Accepting (definition.created given executionId start) log state) {key : String}
    (foreign : key ∉ definition.ownKeys) : state.context.get? key =
      if definition.restarts && log.any AcceptedSignal.isRequeue then none else given.get? key := by
  induction run with
  | nil => simp [DynWorkflowDefinition.created]
  | snoc earlier taken ih =>
    rename_i accepted _
    obtain ⟨granted, rfl⟩ := taken
    rw [(DynWorkflowDefinition.move_of_accepted granted).foreign foreign, ih, ← accepted.isRequeue_eq]
    simp only [List.any_append, List.any_cons, List.any_nil, Bool.or_false]
    cases definition.restarts with
    | false => simp only [Bool.false_and, Bool.false_eq_true, if_false]
    | true =>
      cases accepted.isRequeue with
      | false => simp only [Bool.and_false, Bool.or_false, Bool.false_eq_true, if_false]
      | true => simp only [Bool.and_true, Bool.or_true, if_true]

/-- A retry loses what the caller gave exactly when it restarts an execution that still has it. -/
theorem carriesOver_iff {given : Map} {executionId : WorkflowExecutionId} {start now : DateTime}
    {log : List AcceptedSignal} {reason : String} {transition : WorkflowTransition}
    (run : Run definition.Accepting (definition.created given executionId start) log state)
    (left : state.retriesRemaining ≠ 0)
    (accepted : definition.transition state (.retryRequested reason) now = .ok transition) :
    definition.CarriesOver state.context transition.nextState.context ↔
      definition.restarts = false ∨ log.any AcceptedSignal.isRequeue = true ∨
        ∀ key, key ∉ definition.ownKeys → given.get? key = none := by
  have queued := (DynWorkflowDefinition.move_of_accepted accepted).queued left
  have after : ∀ key, key ∉ definition.ownKeys → transition.nextState.context.get? key =
      if definition.restarts then none else state.context.get? key := by
    intro key foreign
    rw [(DynWorkflowDefinition.move_of_accepted accepted).foreign foreign, queued]
    simp [WorkflowSignal.requeues]
  cases restarts : definition.restarts with
  | false =>
    simp only [true_or, iff_true]
    intro key foreign value found
    rw [after key foreign, restarts]
    exact found
  | true =>
    have before : ∀ key, key ∉ definition.ownKeys → state.context.get? key =
        if log.any AcceptedSignal.isRequeue then none else given.get? key := by
      intro key foreign
      rw [foreign_of_run run foreign, restarts, Bool.true_and]
    constructor
    · intro carries
      right
      cases requeued : log.any AcceptedSignal.isRequeue with
      | true => exact .inl rfl
      | false =>
        right
        intro key foreign
        cases found : given.get? key with
        | none => rfl
        | some value =>
          have kept := carries key foreign value (by rw [before key foreign, requeued]; exact found)
          rw [after key foreign, restarts] at kept
          cases kept
    · intro absent key foreign value found
      have gone : state.context.get? key = none := by
        rw [before key foreign]
        rcases absent with never | requeued | nothing
        · cases never
        · rw [requeued]
          rfl
        · rw [nothing key foreign]
          split <;> rfl
      rw [gone] at found
      cases found

/-- The first step of a video extraction has failed. -/
def failedExtraction : List SentSignal := [⟨.start, 1⟩, ⟨.stepFailed "resolve_video_source" "timeout", 2⟩]

theorem run_failedExtraction (given : Map) (executionId : WorkflowExecutionId) (start : DateTime) :
    Run DynWorkflowDefinition.videoExtraction.Accepting
      (DynWorkflowDefinition.videoExtraction.created given executionId start)
      ([] ++ DynWorkflowDefinition.videoExtraction.acceptedLog
        (DynWorkflowDefinition.videoExtraction.created given executionId start) failedExtraction)
      (DynWorkflowDefinition.videoExtraction.deliverAll
        (DynWorkflowDefinition.videoExtraction.created given executionId start) failedExtraction) :=
  DynWorkflowDefinition.run_deliverAll .nil failedExtraction

/-- Retries keep what the caller gave unless they are those of a video extraction that was given something. -/
theorem retries_keep_context_iff (definition : DynWorkflowDefinition) (given : Map) (executionId : WorkflowExecutionId)
    (start : DateTime) : definition.RetriesKeepContext given executionId start ↔
      definition.restarts = false ∨ ∀ key, key ∉ definition.ownKeys → given.get? key = none := by
  constructor
  · intro keeps
    cases definition with
    | videoExtraction =>
      right
      have run := run_failedExtraction given executionId start
      have left : (3 : UInt32) ≠ 0 := by decide
      have carries := keeps _ _ run rfl left "again" 3 _ rfl
      rcases (carriesOver_iff run left rfl).mp carries with never | requeued | nothing
      · cases never
      · cases requeued
      · exact nothing
    | _ => exact .inl rfl
  · intro condition log state run failed left reason now transition accepted
    rw [carriesOver_iff run left accepted]
    rcases condition with never | nothing
    · exact .inl never
    · exact .inr (.inr nothing)

theorem video_retry_loses_document : ¬ DynWorkflowDefinition.videoExtraction.RetriesKeepContext
    (SortedMap.empty.insert "document_id" (.string "7d444840-9dc0-11d1-b245-5ffdce74fad2"))
    ⟨"00000000-0000-0000-0000-000000000001"⟩ 0 := by
  intro keeps
  have run := run_failedExtraction (SortedMap.empty.insert "document_id"
    (.string "7d444840-9dc0-11d1-b245-5ffdce74fad2")) ⟨"00000000-0000-0000-0000-000000000001"⟩ 0
  have carried := keeps _ _ run rfl (by decide) "again" 3 _ rfl "document_id" (by decide) _ rfl
  cases carried

end DataMax.Workflow
