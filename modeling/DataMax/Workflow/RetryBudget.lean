import DataMax.Workflow.Progress

/-! The retries of a workflow: how often it starts, how much work it hands out
and when it is given up. -/

namespace DataMax.Workflow

open Domain Json Library

variable {definition : DynWorkflowDefinition} {state next : WorkflowRuntimeState}

/-- A workflow is given up only by a retry with nothing left to retry with. -/
theorem Move.dead_lettered (move : Move definition state now signal next keys)
    (given : next.status = .deadLettered) : (∃ reason, signal = .retryRequested reason) ∧
      state.status = .failed ∧ state.retriesRemaining = 0 := by
  cases move with
  | exhaust failed spent => exact ⟨⟨_, rfl⟩, failed, spent⟩
  | requeue failed left => simp [queuedAgain_status] at given
  | _ => cases given

/-- A retry that queues the workflow again takes exactly one retry. -/
theorem Move.requeued (move : Move definition state now (.retryRequested reason) next keys)
    (queued : next.status = .pending) :
    next.retriesRemaining.toNat + 1 = state.retriesRemaining.toNat := by
  cases move with
  | exhaust failed spent => cases queued
  | requeue failed left => exact queuedAgain_retries definition now left

/-- The retries granted and the retries left always make three; so a workflow
starts at most four times, works through its plan at most four times, and is
given up only after the third retry has failed too. -/
theorem retry_budget (registered : definition ∈ registry)
    (run : definition.AcceptedRun executionId now log state) :
    log.countP AcceptedSignal.isRequeue + state.retriesRemaining.toNat = 3 ∧
    log.countP AcceptedSignal.isStart ≤ 4 ∧
    (enqueuedKeys log).length ≤ 4 * definition.plannedSteps.length ∧
    (∀ signal instant result, definition.transition state signal instant = .ok result →
      result.nextState.status = .deadLettered → (∃ reason, signal = .retryRequested reason) ∧
        state.status = .failed ∧ log.countP AcceptedSignal.isRequeue = 3) ∧
    (∀ reason instant result, definition.transition state (.retryRequested reason) instant = .ok result →
      result.nextState.status = .pending →
      result.nextState.retriesRemaining.toNat + 1 = state.retriesRemaining.toNat) := by
  have wellFormed := DynWorkflowDefinition.wellFormed_of_registered registered
  obtain ⟨progress, accounted, tracks⟩ := run.accounted wellFormed
  have budget : log.countP AcceptedSignal.isRequeue + state.retriesRemaining.toNat = 3 := by
    rw [← requeues_event, tracks.retries]
    exact accounted.retries
  refine ⟨budget, ?_, ?_, ?_, ?_⟩
  · rw [← starts_event]
    exact accounted.starts_bound
  · rw [← run.issued_event, show definition.plannedSteps.length = definition.plan.length by
      simp [DynWorkflowDefinition.plan]]
    exact accounted.issued_bound
  · intro signal instant result accepted given
    obtain ⟨retry, failed, spent⟩ := (DynWorkflowDefinition.move_of_accepted accepted).dead_lettered given
    exact ⟨retry, failed, by simpa [spent] using budget⟩
  · intro reason instant result accepted queued
    exact (DynWorkflowDefinition.move_of_accepted accepted).requeued queued

theorem retry_budget_session :
    let session := registry[0]
    let initial := session.initialState ⟨"execution"⟩ 0
    let sent : List SentSignal := [⟨.start, 1⟩, ⟨.stepFailed "orchestrate_chat_session" "timeout", 2⟩,
      ⟨.retryRequested "timeout", 3⟩, ⟨.start, 4⟩]
    (session.acceptedLog initial sent).countP AcceptedSignal.isRequeue +
      (session.deliverAll initial sent).retriesRemaining.toNat = 3 :=
  (retry_budget (List.getElem_mem _) (DynWorkflowDefinition.acceptedRun ..)).1

end DataMax.Workflow
