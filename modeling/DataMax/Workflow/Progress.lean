import DataMax.Library.Retry
import DataMax.Workflow.Moves

/-! Runs of accepted signals, seen as progress through a plan with retries. -/

namespace DataMax.Workflow

open Domain Json Library

structure AcceptedSignal where
  signal : WorkflowSignal
  now : DateTime
  transition : WorkflowTransition

namespace DynWorkflowDefinition

def Accepting (definition : DynWorkflowDefinition) (state : WorkflowRuntimeState)
    (accepted : AcceptedSignal) (next : WorkflowRuntimeState) : Prop :=
  definition.transition state accepted.signal accepted.now = .ok accepted.transition ∧
    accepted.transition.nextState = next

/-- The log of signals accepted since the initial state, and the state they lead to. -/
abbrev AcceptedRun (definition : DynWorkflowDefinition) (executionId : WorkflowExecutionId) (now : DateTime)
    (log : List AcceptedSignal) (state : WorkflowRuntimeState) : Prop :=
  Run definition.Accepting (definition.initialState executionId now) log state

end DynWorkflowDefinition

structure SentSignal where
  signal : WorkflowSignal
  now : DateTime

namespace DynWorkflowDefinition

/-- A rejected signal leaves the state as it is. -/
def deliver (definition : DynWorkflowDefinition) (state : WorkflowRuntimeState) (sent : SentSignal) :
    WorkflowRuntimeState :=
  match definition.transition state sent.signal sent.now with
  | .ok transition => transition.nextState
  | .error _ => state

def deliverAll (definition : DynWorkflowDefinition) (state : WorkflowRuntimeState)
    (sent : List SentSignal) : WorkflowRuntimeState :=
  sent.foldl definition.deliver state

end DynWorkflowDefinition

namespace DynWorkflowDefinition

/-- The signals of the list that are accepted on the way, with what they produce. -/
def acceptedLog (definition : DynWorkflowDefinition) (state : WorkflowRuntimeState) :
    List SentSignal → List AcceptedSignal
  | [] => []
  | sent :: rest => match definition.transition state sent.signal sent.now with
    | .ok transition =>
      ⟨sent.signal, sent.now, transition⟩ :: definition.acceptedLog transition.nextState rest
    | .error _ => definition.acceptedLog state rest

theorem run_deliverAll {definition : DynWorkflowDefinition} (run : Run definition.Accepting start log state)
    (sent : List SentSignal) : Run definition.Accepting start (log ++ definition.acceptedLog state sent)
      (definition.deliverAll state sent) := by
  induction sent generalizing log state with
  | nil => simpa [acceptedLog, deliverAll] using run
  | cons first rest ih =>
    cases outcome : definition.transition state first.signal first.now with
    | ok result =>
      have longer : Run definition.Accepting start (log ++ [⟨first.signal, first.now, result⟩])
          result.nextState := run.snoc ⟨outcome, rfl⟩
      simpa [acceptedLog, deliverAll, deliver, outcome] using ih longer
    | error error => simpa [acceptedLog, deliverAll, deliver, outcome] using ih run

/-- Whatever is sent, the accepted signals make a run. -/
theorem acceptedRun (definition : DynWorkflowDefinition) (executionId : WorkflowExecutionId)
    (now : DateTime) (sent : List SentSignal) :
    definition.AcceptedRun executionId now
      (definition.acceptedLog (definition.initialState executionId now) sent)
      (definition.deliverAll (definition.initialState executionId now) sent) :=
  run_deliverAll .nil sent

end DynWorkflowDefinition

/-- The event of an accepted signal in the plan, read off the signal, the
status it leads to and the keys it enqueues. -/
def planEvent (signal : WorkflowSignal) (status : WorkflowStatus) (keys : List String) :
    Retry.Event String :=
  match signal with
  | .start => .started (keys.headD "")
  | .stepCompleted taskKey _ => if status = .failed then .aborted else .completed taskKey keys.head?
  | .stepFailed _ _ => .aborted
  | .retryRequested _ => if status = .pending then .requeued else .exhausted
  | .cancelRequested _ => .cancelled
  | .publishRequested _ => .aborted

def phaseStatus : Retry.Phase → WorkflowStatus
  | .queued => .pending
  | .active _ => .running
  | .stopped => .failed
  | .finished => .succeeded
  | .cancelled => .cancelled
  | .exhausted => .deadLettered

@[simp] theorem phaseStatus_pending {phase : Retry.Phase} :
    phaseStatus phase = .pending ↔ phase = .queued := by
  cases phase <;> simp [phaseStatus]

@[simp] theorem phaseStatus_running {phase : Retry.Phase} :
    phaseStatus phase = .running ↔ ∃ position, phase = .active position := by
  cases phase <;> simp [phaseStatus]

@[simp] theorem phaseStatus_failed {phase : Retry.Phase} :
    phaseStatus phase = .failed ↔ phase = .stopped := by
  cases phase <;> simp [phaseStatus]

/-- The progress a runtime state stands for. The stage says how far a running
workflow has come. -/
structure Tracks (definition : DynWorkflowDefinition) (state : WorkflowRuntimeState)
    (progress : Retry.Progress) : Prop where
  status : state.status = phaseStatus progress.phase
  retries : state.retriesRemaining.toNat = progress.retries
  stage : ∀ position, progress.phase = .active position →
    definition.plannedSteps[position]?.map PlannedStep.stage = some state.stage

variable {definition : DynWorkflowDefinition} {state next : WorkflowRuntimeState}
  {progress : Retry.Progress}

theorem tracks_initial (definition : DynWorkflowDefinition) (executionId : WorkflowExecutionId)
    (now : DateTime) : Tracks definition (definition.initialState executionId now) ⟨.queued, 3⟩ := by
  cases definition <;> exact ⟨rfl, rfl, by simp⟩

theorem plan_getElem? (definition : DynWorkflowDefinition) (position : Nat) :
    definition.plan[position]? = definition.plannedSteps[position]?.map PlannedStep.taskKey := by
  simp [DynWorkflowDefinition.plan]

/-- A running state stands at the only planned step with its stage. -/
theorem Tracks.active (tracks : Tracks definition state progress) (wellFormed : definition.WellFormed)
    (running : state.status = .running) {position : Nat} {step : PlannedStep}
    (current : definition.plannedSteps[position]? = some step) (here : state.stage = step.stage) :
    progress.phase = .active position := by
  obtain ⟨reached, active⟩ := phaseStatus_running.mp (tracks.status.symm.trans running)
  obtain ⟨other, located, same⟩ := Option.map_eq_some_iff.mp (tracks.stage reached active)
  rw [active, wellFormed.position_unique located current (same.trans here)]

theorem queuedAgain_status (definition : DynWorkflowDefinition) (state : WorkflowRuntimeState)
    (now : DateTime) : (definition.queuedAgain state now).status = .pending := by
  cases definition <;> rfl

/-- A granted retry is taken off without wrapping around. -/
theorem queuedAgain_retries (definition : DynWorkflowDefinition) (now : DateTime)
    (left : state.retriesRemaining ≠ 0) :
    (definition.queuedAgain state now).retriesRemaining.toNat + 1 = state.retriesRemaining.toNat := by
  have lowered : (definition.queuedAgain state now).retriesRemaining = state.retriesRemaining - 1 := by
    cases definition <;> rfl
  have positive : state.retriesRemaining.toNat ≠ 0 := fun zero => left (UInt32.toNat_inj.mp zero)
  have enough : (1 : UInt32) ≤ state.retriesRemaining := UInt32.le_iff_toNat_le.mpr (by simp; omega)
  rw [lowered, UInt32.toNat_sub_of_le _ _ enough, UInt32.toNat_one]
  omega

/-- Every move is a step through the plan. -/
theorem Move.step (move : Move definition state now signal next keys) (wellFormed : definition.WellFormed)
    (tracks : Tracks definition state progress) :
    ∃ after, Retry.Step definition.plan progress (planEvent signal next.status keys) after ∧
      Tracks definition next after := by
  obtain ⟨phase, retries⟩ := progress
  obtain ⟨status, same, stage⟩ := id tracks
  cases move with
  | @start step pending first =>
    obtain rfl := phaseStatus_pending.mp (status.symm.trans pending)
    refine ⟨⟨.active 0, retries⟩, .start ?_, rfl, same, ?_⟩
    · simp [plan_getElem?, first]
    · rintro position active
      cases active
      simp [first]
  | @advance output position step following running plain current here later =>
    obtain rfl := tracks.active wellFormed running current here
    refine ⟨⟨.active (position + 1), retries⟩, .advance ?_ ?_, rfl, same, ?_⟩
    · simp [plan_getElem?, current]
    · simp [plan_getElem?, later]
    · rintro reached active
      cases active
      simp [later]
  | finish running plain current here last =>
    obtain rfl := tracks.active wellFormed running current here
    refine ⟨⟨.finished, retries⟩, .finish ?_ ?_, rfl, same, by simp⟩
    · simp [plan_getElem?, current]
    · simp [plan_getElem?, last]
  | unsupported running ends =>
    obtain ⟨position, rfl⟩ := phaseStatus_running.mp (status.symm.trans running)
    exact ⟨⟨.stopped, retries⟩, .abort, rfl, same, by simp⟩
  | fail running =>
    obtain ⟨position, rfl⟩ := phaseStatus_running.mp (status.symm.trans running)
    exact ⟨⟨.stopped, retries⟩, .abort, rfl, same, by simp⟩
  | exhaust failed spent =>
    obtain rfl := phaseStatus_failed.mp (status.symm.trans failed)
    obtain rfl : retries = 0 := by simpa [spent] using same.symm
    exact ⟨⟨.exhausted, 0⟩, .exhaust, rfl, same, by simp⟩
  | requeue failed left =>
    obtain rfl := phaseStatus_failed.mp (status.symm.trans failed)
    have lowered := queuedAgain_retries definition now left
    simp only at same
    obtain rfl : retries = (definition.queuedAgain state now).retriesRemaining.toNat + 1 := by omega
    refine ⟨⟨.queued, (definition.queuedAgain state now).retriesRemaining.toNat⟩, ?_, ?_, rfl, by simp⟩
    · simp only [planEvent, queuedAgain_status, if_true]
      exact .requeue
    · exact queuedAgain_status definition state now
  | cancel => exact ⟨⟨.cancelled, retries⟩, .cancel, rfl, same, by simp⟩

def AcceptedSignal.event (accepted : AcceptedSignal) : Retry.Event String :=
  planEvent accepted.signal accepted.transition.nextState.status accepted.transition.taskKeys

/-- Every accepted run is a run through the plan with three retries. -/
theorem DynWorkflowDefinition.AcceptedRun.tracks (run : definition.AcceptedRun executionId now log state)
    (wellFormed : definition.WellFormed) :
    ∃ progress, Run (Retry.Step definition.plan) ⟨.queued, 3⟩ (log.map AcceptedSignal.event) progress ∧
      Tracks definition state progress := by
  refine run.simulate (tracks_initial definition executionId now) ?_
  rintro state accepted next progress ⟨granted, rfl⟩ tracks
  exact (DynWorkflowDefinition.move_of_accepted granted).step wellFormed tracks

/-- The plan's account of the log of an accepted run. -/
theorem DynWorkflowDefinition.AcceptedRun.accounted (run : definition.AcceptedRun executionId now log state)
    (wellFormed : definition.WellFormed) :
    ∃ progress, Retry.Accounted definition.plan 3 (log.map AcceptedSignal.event) progress ∧
      Tracks definition state progress := by
  obtain ⟨progress, walked, tracks⟩ := run.tracks wellFormed
  exact ⟨progress, .run walked, tracks⟩

def AcceptedSignal.isStart (accepted : AcceptedSignal) : Bool :=
  match accepted.signal with
  | .start => true
  | _ => false

/-- An accepted retry that queues the workflow again instead of giving it up. -/
def AcceptedSignal.isRequeue (accepted : AcceptedSignal) : Bool :=
  match accepted.signal with
  | .retryRequested _ => accepted.transition.nextState.status = .pending
  | _ => false

/-- The keys of all tasks enqueued by the accepted signals, oldest first. -/
def enqueuedKeys (log : List AcceptedSignal) : List String :=
  log.flatMap fun accepted => accepted.transition.taskKeys

/-- The task keys reported completed since the latest accepted start. -/
def reportedSinceStart (log : List AcceptedSignal) : List String :=
  log.foldl (fun reported accepted => match accepted.signal with
    | .start => []
    | .stepCompleted taskKey _ => reported ++ [taskKey]
    | _ => reported) []

theorem Move.issued (move : Move definition state now signal next keys) :
    (planEvent signal next.status keys).issued = keys := by
  cases move with
  | requeue failed left => simp [planEvent, queuedAgain_status, Retry.Event.issued]
  | _ => simp [planEvent, Retry.Event.issued]

theorem event_isStarted (accepted : AcceptedSignal) : accepted.event.isStarted = accepted.isStart := by
  obtain ⟨signal, now, transition⟩ := accepted
  cases signal with
  | stepCompleted taskKey output =>
    by_cases ended : transition.nextState.status = .failed <;>
      simp [AcceptedSignal.event, AcceptedSignal.isStart, planEvent, Retry.Event.isStarted, ended]
  | retryRequested reason =>
    by_cases queued : transition.nextState.status = .pending <;>
      simp [AcceptedSignal.event, AcceptedSignal.isStart, planEvent, Retry.Event.isStarted, queued]
  | _ => rfl

theorem event_isRequeued (accepted : AcceptedSignal) :
    accepted.event.isRequeued = accepted.isRequeue := by
  obtain ⟨signal, now, transition⟩ := accepted
  cases signal with
  | stepCompleted taskKey output =>
    by_cases ended : transition.nextState.status = .failed <;>
      simp [AcceptedSignal.event, AcceptedSignal.isRequeue, planEvent, Retry.Event.isRequeued, ended]
  | retryRequested reason =>
    by_cases queued : transition.nextState.status = .pending <;>
      simp [AcceptedSignal.event, AcceptedSignal.isRequeue, planEvent, Retry.Event.isRequeued, queued]
  | _ => rfl

theorem starts_event (log : List AcceptedSignal) :
    Retry.starts (log.map AcceptedSignal.event) = log.countP AcceptedSignal.isStart := by
  rw [Retry.starts, List.countP_map]
  exact congrArg (log.countP ·) (funext event_isStarted)

theorem requeues_event (log : List AcceptedSignal) :
    Retry.requeues (log.map AcceptedSignal.event) = log.countP AcceptedSignal.isRequeue := by
  rw [Retry.requeues, List.countP_map]
  exact congrArg (log.countP ·) (funext event_isRequeued)

theorem DynWorkflowDefinition.AcceptedRun.issued_event (run : definition.AcceptedRun executionId now log state) :
    Retry.issuedKeys (log.map AcceptedSignal.event) = enqueuedKeys log := by
  induction run with
  | nil => rfl
  | snoc earlier taken ih =>
    have issued := (DynWorkflowDefinition.move_of_accepted taken.1).issued
    simp only [List.map_append, List.map_cons, List.map_nil, Retry.issuedKeys_concat, ih]
    simp [enqueuedKeys, AcceptedSignal.event, issued]

end DataMax.Workflow
