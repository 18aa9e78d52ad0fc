import DataMax.Workflow.Reports

/-! The last enqueued task is the outstanding one, and the order of the plan is
the order in which tasks are reported completed before a later one is enqueued. -/

namespace DataMax.Workflow

open Domain Json Library

variable {definition : DynWorkflowDefinition} {state next : WorkflowRuntimeState}

theorem Move.keys_length (move : Move definition state now signal next keys) : keys.length ≤ 1 := by
  cases move <;> simp

theorem DynWorkflowDefinition.AcceptedRun.tasks_length (run : definition.AcceptedRun executionId now log state) :
    ∀ accepted ∈ log, accepted.transition.enqueuedTasks.length ≤ 1 := by
  induction run with
  | nil => simp
  | snoc earlier taken ih =>
    have single := (DynWorkflowDefinition.move_of_accepted taken.1).keys_length
    intro accepted member
    rcases List.mem_append.mp member with before | last
    · exact ih accepted before
    · rw [List.mem_singleton.mp last]
      simpa [WorkflowTransition.taskKeys] using single

/-- A running workflow waits for the task it enqueued last. -/
theorem DynWorkflowDefinition.AcceptedRun.outstanding (run : definition.AcceptedRun executionId now log state)
    (wellFormed : definition.WellFormed) (running : state.status = .running) :
    ∃ last, (enqueuedKeys log).getLast? = some last ∧ definition.outstandingKey state = some last := by
  obtain ⟨progress, accounted, tracks⟩ := run.accounted wellFormed
  obtain ⟨position, active⟩ := phaseStatus_running.mp (tracks.status.symm.trans running)
  obtain ⟨step, current, here⟩ := Option.map_eq_some_iff.mp (tracks.stage position active)
  refine ⟨step.taskKey, ?_, outstandingKey_of_current wellFormed running current here.symm⟩
  rw [← run.issued_event, accounted.current position active, plan_getElem?, current]
  rfl

/-- Without outputs that end the run, every accepted completion counts. -/
theorem DynWorkflowDefinition.AcceptedRun.completed_event (run : definition.AcceptedRun executionId now log state)
    (plain : ∀ output, definition.endsOn output = false) :
    Retry.completedSinceStart (log.map AcceptedSignal.event) = reportedSinceStart log := by
  induction run with
  | nil => rfl
  | @snoc log before accepted after earlier taken ih =>
    have move := DynWorkflowDefinition.move_of_accepted taken.1
    obtain ⟨signal, now, transition⟩ := accepted
    generalize same : transition.nextState = next at move
    generalize issued : transition.taskKeys = keys at move
    simp only [reportedSinceStart, List.foldl_append, List.foldl_cons, List.foldl_nil, List.map_append,
      List.map_cons, List.map_nil, Retry.completedSinceStart, AcceptedSignal.event, same] at ih ⊢
    rw [ih]
    cases move with
    | unsupported running ends => rw [plain] at ends; cases ends
    | requeue failed left => simp [planEvent, queuedAgain_status]
    | _ => simp [planEvent]

/-- When a task is enqueued, exactly the tasks before it in the plan have been
reported completed since the latest start, in the order of the plan. -/
theorem DynWorkflowDefinition.AcceptedRun.reported_before (run : definition.AcceptedRun executionId now log state)
    (wellFormed : definition.WellFormed) (plain : ∀ output, definition.endsOn output = false)
    (accepted : definition.transition state signal instant = .ok result) (member : key ∈ result.taskKeys)
    {place : Nat} (located : definition.plan[place]? = some key) :
    reportedSinceStart (log ++ [⟨signal, instant, result⟩]) = definition.plan.take place := by
  obtain ⟨progress, accounted, tracks⟩ := run.accounted wellFormed
  have move := DynWorkflowDefinition.move_of_accepted accepted
  obtain ⟨after, taken, _⟩ := move.step wellFormed tracks
  rw [← DynWorkflowDefinition.AcceptedRun.completed_event (run.snoc ⟨accepted, rfl⟩) plain, List.map_append]
  exact accounted.completed_before wellFormed.keys taken (move.issued.symm ▸ member) located

/-- A registered workflow has at most one task outstanding, the one enqueued
last, and takes a plain completion of that task only; the external content is
indexed only after the ACL snapshot and everything else it depends on. -/
theorem one_outstanding_task (registered : definition ∈ registry)
    (run : definition.AcceptedRun executionId now log state) :
    (∀ accepted ∈ log, accepted.transition.enqueuedTasks.length ≤ 1) ∧
    (state.status = .running → ∃ last, (enqueuedKeys log).getLast? = some last ∧
      ∀ taskKey output instant, videoExtractionOutputIsUnsupported output = false →
        ((∃ result, definition.transition state (.stepCompleted taskKey output) instant = .ok result) ↔
          taskKey = last)) ∧
    (state.status ≠ .running → ∀ taskKey output instant,
      ∃ error, definition.transition state (.stepCompleted taskKey output) instant = .error error) ∧
    (definition = .externalSourceSync → ∀ signal instant result,
      definition.transition state signal instant = .ok result →
      "index_external_retrieval" ∈ result.taskKeys →
      reportedSinceStart (log ++ [⟨signal, instant, result⟩]) = ["sync_external_users", "sync_external_acl",
        "sync_external_metadata", "fetch_external_content", "ingest_external_content"]) := by
  have wellFormed := DynWorkflowDefinition.wellFormed_of_registered registered
  refine ⟨run.tasks_length, ?_, ?_, ?_⟩
  · intro running
    obtain ⟨last, issued, outstanding⟩ := run.outstanding wellFormed running
    refine ⟨last, issued, fun taskKey output instant plain => ?_⟩
    rw [completion_accepted_iff wellFormed state taskKey output instant (endsOn_false.mpr fun _ => plain),
      outstanding, Option.some.injEq, eq_comm]
  · intro idle taskKey output instant
    exact (not_running_rejects idle ⟨.stepCompleted taskKey output, instant⟩ rfl).1
  · rintro rfl signal instant result accepted member
    exact run.reported_before wellFormed (fun _ => rfl) accepted member
      (show DynWorkflowDefinition.externalSourceSync.plan[5]? = some "index_external_retrieval" from rfl)

theorem one_outstanding_task_sync :
    let sync := registry[11]
    let initial := sync.initialState ⟨"execution"⟩ 0
    let sent : List SentSignal := [⟨.start, 1⟩, ⟨.stepCompleted "sync_external_users" none, 2⟩]
    ∃ last, (enqueuedKeys (sync.acceptedLog initial sent)).getLast? = some last ∧
      ∀ taskKey output instant, videoExtractionOutputIsUnsupported output = false →
        ((∃ result, sync.transition (sync.deliverAll initial sent) (.stepCompleted taskKey output) instant =
          .ok result) ↔ taskKey = last) :=
  (one_outstanding_task (List.getElem_mem _) (DynWorkflowDefinition.acceptedRun ..)).2.1 (by decide)

end DataMax.Workflow
