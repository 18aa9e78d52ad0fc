import DataMax.Workflow.Progress

/-! Which reports of finished or failed tasks a workflow takes. The outstanding
task is not stored: the stage of a running workflow stands for it. -/

namespace DataMax.Workflow

open Domain Json Library

/-- The key of the task the state waits for. -/
def DynWorkflowDefinition.outstandingKey (definition : DynWorkflowDefinition)
    (state : WorkflowRuntimeState) : Option String :=
  if state.status = .running then
    (definition.plannedSteps.find? fun step => step.stage = state.stage).map PlannedStep.taskKey
  else none

/-- The task key of a report, for the signals that are one. -/
def WorkflowSignal.reportedKey : WorkflowSignal → Option String
  | .stepCompleted taskKey _ => some taskKey
  | .stepFailed taskKey _ => some taskKey
  | _ => none

variable {definition : DynWorkflowDefinition} {state : WorkflowRuntimeState}

theorem outstandingKey_of_current (wellFormed : definition.WellFormed) (running : state.status = .running)
    {position : Nat} {step : PlannedStep} (current : definition.plannedSteps[position]? = some step)
    (here : state.stage = step.stage) : definition.outstandingKey state = some step.taskKey := by
  have matched : (decide (step.stage = state.stage)) = true := by simp [here]
  cases found : definition.plannedSteps.find? fun step => step.stage = state.stage with
  | none =>
    have missing := List.find?_eq_none.mp found step (List.mem_of_getElem? current)
    exact False.elim (missing matched)
  | some other =>
    obtain ⟨place, located⟩ := List.mem_iff_getElem?.mp (List.mem_of_find?_eq_some found)
    have same : other.stage = state.stage := by simpa using List.find?_some found
    rw [← wellFormed.position_unique current located (here.symm.trans same.symm)] at located
    simp [DynWorkflowDefinition.outstandingKey, running, found, Option.some.inj (located.symm.trans current)]

/-- A report is checked against the outstanding task only if it is a
completion, and for the video extraction only if its output is a plain one. -/
def DynWorkflowDefinition.ChecksReport (definition : DynWorkflowDefinition) (state : WorkflowRuntimeState)
    (signal : WorkflowSignal) : Prop :=
  state.status ≠ .running ∨ ∃ taskKey output, signal = .stepCompleted taskKey output ∧
    (definition = .videoExtraction → videoExtractionOutputIsUnsupported output = false)

theorem endsOn_false {output : Option Value} : definition.endsOn output = false ↔
    (definition = .videoExtraction → videoExtractionOutputIsUnsupported output = false) := by
  cases definition <;> simp [DynWorkflowDefinition.endsOn]

/-- A plain completion is accepted for the outstanding task and for no other. -/
theorem completion_accepted_iff (wellFormed : definition.WellFormed) (state : WorkflowRuntimeState)
    (taskKey : String) (output : Option Value) (now : DateTime) (plain : definition.endsOn output = false) :
    (∃ result, definition.transition state (.stepCompleted taskKey output) now = .ok result) ↔
      definition.outstandingKey state = some taskKey := by
  constructor
  · rintro ⟨result, accepted⟩
    generalize sent : WorkflowSignal.stepCompleted taskKey output = signal at accepted
    have move := DynWorkflowDefinition.move_of_accepted accepted
    generalize result.nextState = next at move
    generalize result.taskKeys = keys at move
    cases move with
    | advance running ends current here later =>
      cases sent
      exact outstandingKey_of_current wellFormed running current here
    | finish running ends current here last =>
      cases sent
      exact outstandingKey_of_current wellFormed running current here
    | unsupported running ends =>
      cases sent
      simp [plain] at ends
    | _ => cases sent
  · intro outstanding
    unfold DynWorkflowDefinition.outstandingKey at outstanding
    split at outstanding
    · rename_i running
      obtain ⟨step, found, rfl⟩ := Option.map_eq_some_iff.mp outstanding
      have here : step.stage = state.stage := by simpa using List.find?_some found
      obtain ⟨position, current⟩ := List.mem_iff_getElem?.mp (List.mem_of_find?_eq_some found)
      cases following : definition.plannedSteps[position + 1]? with
      | some later =>
        obtain ⟨result, accepted, _⟩ :=
          DynWorkflowDefinition.accepts_advance wellFormed running plain current here.symm following
        exact ⟨result, accepted⟩
      | none =>
        obtain ⟨result, accepted, _⟩ :=
          DynWorkflowDefinition.accepts_finish wellFormed running plain current here.symm following
        exact ⟨result, accepted⟩
    · cases outstanding

/-- A late report names a task the state does not wait for. -/
def DynWorkflowDefinition.IsLate (definition : DynWorkflowDefinition) (state : WorkflowRuntimeState)
    (signal : WorkflowSignal) : Prop :=
  ∃ taskKey, signal.reportedKey = some taskKey ∧ definition.outstandingKey state ≠ some taskKey

/-- Rejected with an error, so that the state is left as it is. -/
def DynWorkflowDefinition.Rejects (definition : DynWorkflowDefinition) (state : WorkflowRuntimeState)
    (sent : SentSignal) : Prop :=
  (∃ error, definition.transition state sent.signal sent.now = .error error) ∧
    definition.deliver state sent = state

theorem rejects_iff {sent : SentSignal} : definition.Rejects state sent ↔
    ¬ ∃ result, definition.transition state sent.signal sent.now = .ok result := by
  cases outcome : definition.transition state sent.signal sent.now with
  | ok result => simp [DynWorkflowDefinition.Rejects, outcome]
  | error error => simp [DynWorkflowDefinition.Rejects, DynWorkflowDefinition.deliver, outcome]

theorem not_running_rejects (idle : state.status ≠ .running) (sent : SentSignal)
    (report : sent.signal.reportedKey = some taskKey) : definition.Rejects state sent := by
  rw [rejects_iff]
  rintro ⟨result, accepted⟩
  have move := DynWorkflowDefinition.move_of_accepted accepted
  generalize sent.signal = signal at move report
  generalize result.nextState = next at move
  generalize result.taskKeys = keys at move
  cases move with
  | advance running | finish running | unsupported running | fail running => exact idle running
  | _ => cases report

/-- A late report is rejected exactly when the code checks it. -/
theorem late_rejected_iff (wellFormed : definition.WellFormed) {sent : SentSignal}
    (late : definition.IsLate state sent.signal) :
    definition.Rejects state sent ↔ definition.ChecksReport state sent.signal := by
  obtain ⟨signal, now⟩ := sent
  obtain ⟨taskKey, report, mismatch⟩ := late
  by_cases running : state.status = .running
  · cases signal with
    | stepCompleted reported output =>
      cases report
      rw [rejects_iff]
      cases ends : definition.endsOn output with
      | false =>
        rw [completion_accepted_iff wellFormed state taskKey output now ends]
        exact ⟨fun _ => .inr ⟨taskKey, output, rfl, endsOn_false.mp ends⟩, fun _ => mismatch⟩
      | true =>
        obtain ⟨result, accepted, _⟩ :=
          DynWorkflowDefinition.accepts_unsupported taskKey now running ends
        refine ⟨fun refused => False.elim (refused ⟨result, accepted⟩), ?_⟩
        rintro (idle | ⟨other, same, matched, plain⟩)
        · exact False.elim (idle running)
        · cases matched
          rw [endsOn_false.mpr plain] at ends
          cases ends
    | stepFailed reported error =>
      obtain ⟨result, accepted, _⟩ :=
        @DynWorkflowDefinition.accepts_fail state definition reported error now running
      rw [rejects_iff]
      refine ⟨fun refused => False.elim (refused ⟨result, accepted⟩), ?_⟩
      rintro (idle | ⟨other, same, matched, _⟩)
      · exact False.elim (idle running)
      · cases matched
    | _ => cases report
  · exact ⟨fun _ => .inl running, fun _ => not_running_rejects running _ report⟩

/-- Over any signals sent to a registered workflow, every late report is
rejected exactly when every late report meets a check. -/
theorem late_reports_rejected_iff (registered : definition ∈ registry) (executionId : WorkflowExecutionId)
    (now : DateTime) (signals : List SentSignal) :
    Guarded definition.deliver (fun state sent => definition.IsLate state sent.signal →
        definition.Rejects state sent) (definition.initialState executionId now) signals ↔
      Guarded definition.deliver (fun state sent => definition.IsLate state sent.signal →
        definition.ChecksReport state sent.signal) (definition.initialState executionId now) signals := by
  have wellFormed := DynWorkflowDefinition.wellFormed_of_registered registered
  constructor
  · intro rejected earlier sent before late
    exact (late_rejected_iff wellFormed late).mp (rejected earlier sent before late)
  · intro checked earlier sent before late
    exact (late_rejected_iff wellFormed late).mpr (checked earlier sent before late)

theorem late_reports_rejected_session :
    Guarded registry[0].deliver (fun state sent => registry[0].IsLate state sent.signal →
        registry[0].Rejects state sent) (registry[0].initialState ⟨"execution"⟩ 0)
        [⟨.stepFailed "orchestrate_chat_session" "early", 1⟩] ↔
      Guarded registry[0].deliver (fun state sent => registry[0].IsLate state sent.signal →
        registry[0].ChecksReport state sent.signal) (registry[0].initialState ⟨"execution"⟩ 0)
        [⟨.stepFailed "orchestrate_chat_session" "early", 1⟩] :=
  late_reports_rejected_iff (List.getElem_mem _) ⟨"execution"⟩ 0 _

/-- A failure report for a task of no definition fails a running session, and
a late completion with an unsupported output fails a running video extraction. -/
theorem stray_reports_taken :
    (let session := registry[0].deliverAll (registry[0].initialState ⟨"execution"⟩ 0) [⟨.start, 1⟩]
      let failed : SentSignal := ⟨.stepFailed "no_such_task" "timeout", 2⟩
      registry[0].IsLate session failed.signal ∧ ¬ registry[0].Rejects session failed ∧
        (registry[0].deliver session failed).status = .failed) ∧
    (let video := registry[12].deliverAll (registry[12].initialState ⟨"execution"⟩ 0)
        [⟨.start, 1⟩, ⟨.stepCompleted "resolve_video_source" none, 2⟩]
      let repeated : SentSignal := ⟨.stepCompleted "resolve_video_source"
        (some (json [("status", .string "unsupported_source")])), 3⟩
      registry[12].IsLate video repeated.signal ∧ ¬ registry[12].Rejects video repeated ∧
        (registry[12].deliver video repeated).status = .failed) := by
  refine ⟨⟨⟨"no_such_task", rfl, by decide⟩, ?_, by decide⟩, ⟨"resolve_video_source", rfl, by decide⟩, ?_,
    by decide⟩
  · rintro ⟨_, kept⟩
    have status := congrArg WorkflowRuntimeState.status kept
    revert status
    decide
  · rintro ⟨_, kept⟩
    have status := congrArg WorkflowRuntimeState.status kept
    revert status
    decide

end DataMax.Workflow
