import DataMax.Workflow.Progress

/-! What a workflow in a terminal status still does with the signals it is sent. -/

namespace DataMax.Workflow

open Domain Json Library

def WorkflowStatus.isTerminal : WorkflowStatus → Bool
  | .succeeded | .deadLettered | .cancelled => true
  | _ => false

def WorkflowSignal.isCancel : WorkflowSignal → Bool
  | .cancelRequested _ => true
  | _ => false

variable {definition : DynWorkflowDefinition} {ended state after : WorkflowRuntimeState}

/-- The only move left in a terminal status is the cancellation. -/
theorem Move.terminal (move : Move definition state now signal next keys)
    (terminal : state.status.isTerminal = true) : signal.isCancel = true ∧ keys = [] := by
  cases move with
  | start status | advance status | finish status | unsupported status | fail status
  | exhaust status | requeue status => simp [status, WorkflowStatus.isTerminal] at terminal
  | cancel => exact ⟨rfl, rfl⟩

theorem rejected_of_terminal (definition : DynWorkflowDefinition)
    (terminal : state.status.isTerminal = true) (signal : WorkflowSignal)
    (now : DateTime) (other : signal.isCancel = false) :
    ∃ error, definition.transition state signal now = .error error := by
  cases outcome : definition.transition state signal now with
  | error error => exact ⟨error, rfl⟩
  | ok result =>
    have cancels := ((DynWorkflowDefinition.move_of_accepted outcome).terminal terminal).1
    rw [other] at cancels
    cases cancels

theorem idle_of_terminal (terminal : state.status.isTerminal = true)
    (accepted : definition.transition state signal now = .ok result) : result.enqueuedTasks = [] := by
  have keys := ((DynWorkflowDefinition.move_of_accepted accepted).terminal terminal).2
  simpa [WorkflowTransition.taskKeys] using keys

def WorkflowRuntimeState.cancelledBy (state : WorkflowRuntimeState) (reason : String) (now : DateTime) :
    WorkflowRuntimeState :=
  { state with
    stage := "cancelled", status := .cancelled, updatedAt := now
    context := state.context.insert "cancel_reason" (.string reason) }

theorem deliver_cancel (definition : DynWorkflowDefinition) (state : WorkflowRuntimeState)
    (reason : String) (now : DateTime) :
    definition.deliver state ⟨.cancelRequested reason, now⟩ = state.cancelledBy reason now := by
  cases definition <;> rfl

theorem deliver_terminal (definition : DynWorkflowDefinition)
    (terminal : state.status.isTerminal = true) (sent : SentSignal)
    (other : sent.signal.isCancel = false) : definition.deliver state sent = state := by
  obtain ⟨error, rejected⟩ := rejected_of_terminal definition terminal sent.signal sent.now other
  simp [DynWorkflowDefinition.deliver, rejected]

/-- How a state reached from a terminal one differs from it, given whether a
cancellation was among the signals sent in between. -/
structure Settled (definition : DynWorkflowDefinition) (ended after : WorkflowRuntimeState)
    (cancelled : Bool) : Prop where
  terminal : after.status.isTerminal = true
  status : after.status = if cancelled then .cancelled else ended.status
  stage : after.stage = if cancelled then "cancelled" else ended.stage
  retries : after.retriesRemaining = ended.retriesRemaining
  context : ∀ key, key ≠ "cancel_reason" → after.context.get? key = ended.context.get? key
  unchanged : cancelled = false → after = ended
  rejects : ∀ signal now, signal.isCancel = false →
    ∃ error, definition.transition after signal now = .error error
  cancels : ∀ reason now, ∃ result,
    definition.transition after (.cancelRequested reason) now = .ok result ∧
      result.nextState = after.cancelledBy reason now
  idle : ∀ signal now result, definition.transition after signal now = .ok result →
    result.enqueuedTasks = []

theorem settled_refl (definition : DynWorkflowDefinition) (terminal : ended.status.isTerminal = true) :
    Settled definition ended ended false where
  terminal := terminal
  status := rfl
  stage := rfl
  retries := rfl
  context := fun _ _ => rfl
  unchanged := fun _ => rfl
  rejects := rejected_of_terminal definition terminal
  cancels := fun _ _ =>
    let ⟨result, accepted, same, _⟩ := DynWorkflowDefinition.accepts_cancel
    ⟨result, accepted, same⟩
  idle := fun _ _ _ accepted => idle_of_terminal terminal accepted

/-- A cancellation first leaves the same as one at any later point. -/
theorem Settled.after_cancel (settled : Settled definition (ended.cancelledBy reason now) after cancelled) :
    Settled definition ended after true where
  terminal := settled.terminal
  status := by simpa [WorkflowRuntimeState.cancelledBy] using settled.status
  stage := by simpa [WorkflowRuntimeState.cancelledBy] using settled.stage
  retries := settled.retries
  context := by
    intro key other
    rw [settled.context key other]
    exact SortedMap.get?_insert_other _ _ other
  unchanged := by simp
  rejects := settled.rejects
  cancels := settled.cancels
  idle := settled.idle

theorem settled_deliverAll (definition : DynWorkflowDefinition)
    (terminal : ended.status.isTerminal = true) (later : List SentSignal) :
    Settled definition ended (definition.deliverAll ended later)
      (later.any fun sent => sent.signal.isCancel) := by
  induction later generalizing ended with
  | nil => exact settled_refl definition terminal
  | cons sent rest ih =>
    obtain ⟨signal, now⟩ := sent
    cases cancels : signal.isCancel with
    | false =>
      have kept := deliver_terminal definition terminal ⟨signal, now⟩ cancels
      simpa [DynWorkflowDefinition.deliverAll, kept, cancels] using ih terminal
    | true =>
      cases signal with
      | cancelRequested reason =>
        have cancelled : (ended.cancelledBy reason now).status.isTerminal = true := rfl
        have rest := (ih cancelled).after_cancel
        simpa [DynWorkflowDefinition.deliverAll, deliver_cancel, WorkflowSignal.isCancel] using rest
      | _ => cases cancels

/-- Once a run of any definition is in a terminal status, only a cancellation
is still accepted, and all it does is to relabel the run as cancelled. -/
theorem terminal_settled (definition : DynWorkflowDefinition) (executionId : WorkflowExecutionId)
    (now : DateTime) (earlier later : List SentSignal)
    (terminal : (definition.deliverAll (definition.initialState executionId now) earlier).status.isTerminal =
      true) :
    Settled definition (definition.deliverAll (definition.initialState executionId now) earlier)
      (definition.deliverAll (definition.initialState executionId now) (earlier ++ later))
      (later.any fun sent => sent.signal.isCancel) := by
  have settled := settled_deliverAll definition terminal later
  simpa [DynWorkflowDefinition.deliverAll] using settled

def finishedSession : List SentSignal :=
  [⟨.start, 1⟩, ⟨.stepCompleted "orchestrate_chat_session" none, 2⟩]

theorem terminal_settled_session :
    (registry[0].deliverAll (registry[0].initialState ⟨"execution"⟩ 0) finishedSession).status.isTerminal =
      true ∧
    Settled registry[0] (registry[0].deliverAll (registry[0].initialState ⟨"execution"⟩ 0) finishedSession)
      (registry[0].deliverAll (registry[0].initialState ⟨"execution"⟩ 0)
        (finishedSession ++ [⟨.retryRequested "again", 3⟩])) false :=
  ⟨by decide, terminal_settled registry[0] ⟨"execution"⟩ 0 finishedSession
    [⟨.retryRequested "again", 3⟩] (by decide)⟩

/-- A succeeded run accepts a cancellation and gives up its status and stage. -/
theorem succeeded_session_cancelled :
    ¬ ∀ definition ∈ registry, ∀ executionId now earlier (sent : SentSignal),
      (definition.deliverAll (definition.initialState executionId now) earlier).status.isTerminal = true →
      definition.deliver (definition.deliverAll (definition.initialState executionId now) earlier) sent =
        definition.deliverAll (definition.initialState executionId now) earlier := by
  intro absorbing
  have same := absorbing registry[0] (List.getElem_mem _) ⟨"execution"⟩ 0 finishedSession
    ⟨.cancelRequested "too late", 3⟩ (by decide)
  have status := congrArg WorkflowRuntimeState.status same
  revert status
  decide

end DataMax.Workflow
