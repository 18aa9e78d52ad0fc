import DataMax.Workflow.Definitions
import Mathlib.Data.List.Nodup

/-! Every accepted signal is one of eight moves. The three transition functions
make the same moves; they differ only in their planned steps and in what they
write on a failure or a retry. -/

namespace DataMax.Workflow

open Domain Json Library

/-- The stage a step runs in and the key of the task it waits for. -/
structure PlannedStep where
  stage : String
  taskKey : String
  deriving DecidableEq

namespace DynWorkflowDefinition

def plannedSteps : DynWorkflowDefinition → List PlannedStep
  | .linear definition => ⟨definition.taskKey, definition.taskKey⟩ ::
      (definition.nextStep.map fun step => ⟨step.taskKey, step.taskKey⟩).toList
  | .externalSourceSync =>
    ExternalSourceSyncWorkflowDefinition.steps.map fun step => ⟨step.stage, step.taskKey⟩
  | .videoExtraction => [
      ⟨"resolving_source", "resolve_video_source"⟩,
      ⟨"registered", "register_video_asset"⟩,
      ⟨"parsing", "parse_video_media"⟩,
      ⟨"extracting_ppt", "extract_video_ppt"⟩]

def plan (definition : DynWorkflowDefinition) : List String :=
  definition.plannedSteps.map PlannedStep.taskKey

def successStage : DynWorkflowDefinition → String
  | .linear definition => definition.successStage
  | _ => "completed"

def failureStage (definition : DynWorkflowDefinition) (taskKey error : String) : String :=
  match definition with
  | .linear _ => s!"{taskKey}:failed"
  | .externalSourceSync => "failed"
  | .videoExtraction => if error = "unsupported_source" then "unsupported_source" else "failed"

def failureContext (definition : DynWorkflowDefinition) (context : Map) (taskKey error : String) : Map :=
  match definition with
  | .linear _ => context.insert "last_error" (.string error)
  | _ => recordFailure context taskKey error

/-- The state a granted retry queues, before the reason is written to it. The
video extraction starts over from its initial state. -/
def queuedAgain (definition : DynWorkflowDefinition) (state : WorkflowRuntimeState) (now : DateTime) :
    WorkflowRuntimeState :=
  match definition with
  | .videoExtraction => { VideoExtractionWorkflowDefinition.pendingState state.executionId now with
      retriesRemaining := state.retriesRemaining - 1 }
  | _ => { state with
      stage := "queued", status := .pending, retriesRemaining := state.retriesRemaining - 1
      updatedAt := now }

/-- Whether a completion's output ends the run instead of moving it forward. -/
def endsOn (definition : DynWorkflowDefinition) (output : Option Value) : Bool :=
  match definition with
  | .videoExtraction => videoExtractionOutputIsUnsupported output
  | _ => false

/-- The registered definitions have distinct stages and distinct task keys. -/
structure WellFormed (definition : DynWorkflowDefinition) : Prop where
  stages : (definition.plannedSteps.map PlannedStep.stage).Nodup
  keys : definition.plan.Nodup
  starts : 0 < definition.plan.length

instance (definition : DynWorkflowDefinition) : Decidable definition.WellFormed :=
  decidable_of_iff ((definition.plannedSteps.map PlannedStep.stage).Nodup ∧ definition.plan.Nodup ∧
      0 < definition.plan.length)
    ⟨fun ⟨stages, keys, starts⟩ => ⟨stages, keys, starts⟩,
      fun ⟨stages, keys, starts⟩ => ⟨stages, keys, starts⟩⟩

theorem wellFormed_of_registered (registered : definition ∈ registry) : definition.WellFormed := by
  have all : ∀ definition ∈ registry, definition.WellFormed := by decide
  exact all definition registered

end DynWorkflowDefinition

/-- What one accepted signal does to the state, with the keys it enqueues. -/
inductive Move (definition : DynWorkflowDefinition) (state : WorkflowRuntimeState) (now : DateTime) :
    WorkflowSignal → WorkflowRuntimeState → List String → Prop where
  | start {step : PlannedStep} (pending : state.status = .pending)
      (first : definition.plannedSteps[0]? = some step) :
      Move definition state now .start
        { state with stage := step.stage, status := .running, updatedAt := now } [step.taskKey]
  | advance {step following : PlannedStep} (running : state.status = .running)
      (plain : definition.endsOn output = false)
      (current : definition.plannedSteps[position]? = some step) (here : state.stage = step.stage)
      (later : definition.plannedSteps[position + 1]? = some following) :
      Move definition state now (.stepCompleted step.taskKey output)
        { state with
          stage := following.stage, status := .running, updatedAt := now
          context := recordOutput state.context output } [following.taskKey]
  | finish {step : PlannedStep} (running : state.status = .running)
      (plain : definition.endsOn output = false)
      (current : definition.plannedSteps[position]? = some step) (here : state.stage = step.stage)
      (last : definition.plannedSteps[position + 1]? = none) :
      Move definition state now (.stepCompleted step.taskKey output)
        { state with
          stage := definition.successStage, status := .succeeded, updatedAt := now
          context := recordOutput state.context output } []
  | unsupported (running : state.status = .running) (ends : definition.endsOn output = true) :
      Move definition state now (.stepCompleted taskKey output)
        { state with
          stage := "unsupported_source", status := .failed, updatedAt := now
          context := recordOutput state.context output } []
  | fail (running : state.status = .running) :
      Move definition state now (.stepFailed taskKey error)
        { state with
          stage := definition.failureStage taskKey error, status := .failed, updatedAt := now
          context := definition.failureContext state.context taskKey error } []
  | exhaust (failed : state.status = .failed) (spent : state.retriesRemaining = 0) :
      Move definition state now (.retryRequested reason)
        { state with stage := "dead_lettered", status := .deadLettered, updatedAt := now } []
  | requeue (failed : state.status = .failed) (left : state.retriesRemaining ≠ 0) :
      Move definition state now (.retryRequested reason)
        { definition.queuedAgain state now with
          context := (definition.queuedAgain state now).context.insert "retry_reason" (.string reason) } []
  | cancel : Move definition state now (.cancelRequested reason)
      { state with
        stage := "cancelled", status := .cancelled, updatedAt := now
        context := state.context.insert "cancel_reason" (.string reason) } []

def WorkflowTransition.taskKeys (transition : WorkflowTransition) : List String :=
  transition.enqueuedTasks.map WorkflowTaskRequest.taskKey

/-- The transition accepts the signal with the given next state and keys. -/
def DynWorkflowDefinition.Accepts (definition : DynWorkflowDefinition) (state : WorkflowRuntimeState)
    (now : DateTime) (signal : WorkflowSignal) (next : WorkflowRuntimeState) (keys : List String) : Prop :=
  ∃ transition, definition.transition state signal now = .ok transition ∧
    transition.nextState = next ∧ transition.taskKeys = keys

/-- An arm guarded by a status accepts only in that status. -/
private theorem granted {outcome : TransitionResult} {status : WorkflowStatus}
    (accepted : (if state.status = status then outcome else unexpectedSignal kind state) = .ok result) :
    state.status = status ∧ outcome = .ok result := by
  split at accepted
  · rename_i inStatus
    exact ⟨inStatus, accepted⟩
  · cases accepted

/-- The retry arm of every definition, up to the state it queues again. -/
private theorem retry_move (definition : DynWorkflowDefinition)
    (accepted : (if state.status = .failed then
      if state.retriesRemaining = 0 then .ok (deadLetter state reason now)
      else .ok (requeue (definition.queuedAgain state now) reason now)
      else unexpectedSignal kind state) = .ok result) :
    Move definition state now (.retryRequested reason) result.nextState result.taskKeys := by
  obtain ⟨failed, same⟩ := granted accepted
  split at same
  · rename_i spent
    cases same
    exact .exhaust failed spent
  · rename_i left
    cases same
    exact .requeue failed left

theorem plannedSteps_linear (definition : LinearWorkflowDefinition) :
    (DynWorkflowDefinition.linear definition).plannedSteps[0]? =
      some ⟨definition.taskKey, definition.taskKey⟩ := rfl

theorem plannedSteps_nextStep {definition : LinearWorkflowDefinition}
    (found : definition.nextStep = some nextStep) :
    (DynWorkflowDefinition.linear definition).plannedSteps[1]? =
      some ⟨nextStep.taskKey, nextStep.taskKey⟩ := by
  simp [DynWorkflowDefinition.plannedSteps, found]

theorem linear_move {definition : LinearWorkflowDefinition}
    (accepted : definition.transition state signal now = .ok result) :
    Move (.linear definition) state now signal result.nextState result.taskKeys := by
  cases signal with
  | start =>
    obtain ⟨pending, same⟩ := granted accepted
    cases same
    exact .start pending (plannedSteps_linear definition)
  | stepCompleted taskKey output =>
    obtain ⟨running, same⟩ := granted accepted
    split at same
    · rename_i first
      obtain ⟨here, rfl⟩ := first
      split at same
      · rename_i nextStep found
        cases same
        exact .advance running rfl (plannedSteps_linear definition) here (plannedSteps_nextStep found)
      · rename_i absent
        cases same
        exact .finish running rfl (plannedSteps_linear definition) here
          (by simp [DynWorkflowDefinition.plannedSteps, absent])
    · split at same
      · rename_i second
        obtain ⟨nextStep, found, matched⟩ := (Option.any_eq_true ..).mp second
        obtain ⟨here, rfl⟩ := of_decide_eq_true matched
        cases same
        exact .finish running rfl (plannedSteps_nextStep found) here
          (by simp [DynWorkflowDefinition.plannedSteps, found])
      · cases same
  | stepFailed taskKey error =>
    obtain ⟨running, same⟩ := granted accepted
    cases same
    exact .fail running
  | retryRequested reason => exact retry_move (.linear definition) accepted
  | cancelRequested reason =>
    cases accepted
    exact .cancel
  | publishRequested note => cases accepted

section ExternalSourceSync

open ExternalSourceSyncWorkflowDefinition DynWorkflowDefinition

private theorem externalSourceSync_step (position : Nat) :
    externalSourceSync.plannedSteps[position]? =
      steps[position]?.map fun step => ⟨step.stage, step.taskKey⟩ := by
  simp [plannedSteps]

/-- A completion moves past the reported step, to the step after it if there is one. -/
theorem externalSourceSync_outcome (reported : stageAfterCompletedTask stage taskKey = .ok outcome) :
    ∃ position, ∃ step : PlannedStep, externalSourceSync.plannedSteps[position]? = some step ∧
      stage = step.stage ∧ taskKey = step.taskKey ∧ outcome = match steps[position + 1]? with
        | some nextStep => .next nextStep
        | none => .completed := by
  unfold stageAfterCompletedTask at reported
  split at reported
  · cases reported
  · rename_i position located
    obtain ⟨inside, matched, _⟩ := List.findIdx?_eq_some_iff_getElem.mp located
    obtain ⟨atStage, atKey⟩ := of_decide_eq_true matched
    refine ⟨position, ⟨steps[position].stage, steps[position].taskKey⟩, ?_, atStage.symm, atKey.symm, ?_⟩
    · rw [externalSourceSync_step, List.getElem?_eq_getElem inside]
      rfl
    · split at reported <;> cases reported <;> simp [*]

theorem externalSourceSync_move
    (accepted : externalSourceSync.transition state signal now = .ok result) :
    Move externalSourceSync state now signal result.nextState result.taskKeys := by
  cases signal with
  | start =>
    obtain ⟨pending, same⟩ := granted accepted
    cases same
    exact .start pending (externalSourceSync_step 0)
  | stepCompleted taskKey output =>
    obtain ⟨running, same⟩ := granted accepted
    cases reported : stageAfterCompletedTask state.stage taskKey with
    | error error => simp [reported] at same
    | ok outcome =>
      obtain ⟨position, step, current, here, rfl, rest⟩ := externalSourceSync_outcome reported
      cases following : steps[position + 1]? with
      | some nextStep =>
        simp only [reported, rest, following] at same
        cases same
        have later := externalSourceSync_step (position + 1)
        rw [following] at later
        exact .advance running rfl current here later
      | none =>
        simp only [reported, rest, following] at same
        cases same
        exact .finish running rfl current here (by rw [externalSourceSync_step, following]; rfl)
  | stepFailed taskKey error =>
    obtain ⟨running, same⟩ := granted accepted
    cases same
    exact .fail running
  | retryRequested reason => exact retry_move externalSourceSync accepted
  | cancelRequested reason =>
    cases accepted
    exact .cancel
  | publishRequested note => cases accepted

end ExternalSourceSync

section VideoExtraction

open VideoExtractionWorkflowDefinition DynWorkflowDefinition

private theorem videoExtraction_first :
    videoExtraction.plannedSteps[0]? = some ⟨"resolving_source", "resolve_video_source"⟩ := rfl

/-- A completion that does not end the run moves past the reported step, to
the stage and the task of the step after it if there is one. -/
theorem videoExtraction_outcome (plain : videoExtractionOutputIsUnsupported output = false)
    (reported : stageAfterCompletedTask stage taskKey output = .ok outcome) :
    ∃ position, ∃ step : PlannedStep, videoExtraction.plannedSteps[position]? = some step ∧
      stage = step.stage ∧ taskKey = step.taskKey ∧ match videoExtraction.plannedSteps[position + 1]? with
        | some following => outcome = .next following.stage ∧
            ∃ queue, nextTaskForStage following.stage = some ⟨queue, following.taskKey⟩
        | none => outcome = .completed := by
  unfold stageAfterCompletedTask at reported
  simp only [plain, Bool.false_eq_true, if_false] at reported
  split_ifs at reported with first second third fourth
  · cases reported
    exact ⟨0, _, rfl, first.1, first.2, rfl, _, rfl⟩
  · cases reported
    exact ⟨1, _, rfl, second.1, second.2, rfl, _, rfl⟩
  · cases reported
    exact ⟨2, _, rfl, third.1, third.2, rfl, _, rfl⟩
  · cases reported
    exact ⟨3, _, rfl, fourth.1, fourth.2, rfl⟩

theorem videoExtraction_move
    (accepted : videoExtraction.transition state signal now = .ok result) :
    Move videoExtraction state now signal result.nextState result.taskKeys := by
  cases signal with
  | start =>
    obtain ⟨pending, same⟩ := granted accepted
    cases same
    exact .start pending videoExtraction_first
  | stepCompleted taskKey output =>
    obtain ⟨running, same⟩ := granted accepted
    cases ends : videoExtractionOutputIsUnsupported output with
    | true =>
      simp only [stageAfterCompletedTask, ends, if_true] at same
      cases same
      exact .unsupported running ends
    | false =>
      cases reported : stageAfterCompletedTask state.stage taskKey output with
      | error error => simp [reported] at same
      | ok outcome =>
        obtain ⟨position, step, current, here, rfl, rest⟩ := videoExtraction_outcome ends reported
        cases following : videoExtraction.plannedSteps[position + 1]? with
        | some nextStep =>
          simp only [following] at rest
          obtain ⟨rfl, queue, found⟩ := rest
          simp only [reported, found] at same
          cases same
          exact .advance running ends current here following
        | none =>
          simp only [following] at rest
          simp only [reported, rest] at same
          cases same
          exact .finish running ends current here following
  | stepFailed taskKey error =>
    obtain ⟨running, same⟩ := granted accepted
    cases same
    exact .fail running
  | retryRequested reason => exact retry_move videoExtraction accepted
  | cancelRequested reason =>
    cases accepted
    exact .cancel
  | publishRequested note => cases accepted

end VideoExtraction

namespace DynWorkflowDefinition

/-- Every accepted signal is a move. -/
theorem move_of_accepted {definition : DynWorkflowDefinition}
    (accepted : definition.transition state signal now = .ok result) :
    Move definition state now signal result.nextState result.taskKeys := by
  cases definition with
  | linear definition => exact linear_move accepted
  | externalSourceSync => exact externalSourceSync_move accepted
  | videoExtraction => exact videoExtraction_move accepted

theorem accepts_start {definition : DynWorkflowDefinition} {step : PlannedStep}
    (pending : state.status = .pending) (first : definition.plannedSteps[0]? = some step) :
    definition.Accepts state now .start
      { state with stage := step.stage, status := .running, updatedAt := now } [step.taskKey] := by
  cases definition with
  | linear definition =>
    cases first
    exact ⟨_, if_pos pending, rfl, rfl⟩
  | externalSourceSync =>
    cases first
    exact ⟨_, if_pos pending, rfl, rfl⟩
  | videoExtraction =>
    cases first
    exact ⟨_, if_pos pending, rfl, rfl⟩

theorem accepts_fail {definition : DynWorkflowDefinition} (taskKey error : String) (now : DateTime)
    (running : state.status = .running) :
    definition.Accepts state now (.stepFailed taskKey error)
      { state with
        stage := definition.failureStage taskKey error, status := .failed, updatedAt := now
        context := definition.failureContext state.context taskKey error } [] := by
  cases definition with
  | _ => exact ⟨_, if_pos running, rfl, rfl⟩

theorem accepts_exhaust {definition : DynWorkflowDefinition} (failed : state.status = .failed)
    (spent : state.retriesRemaining = 0) :
    definition.Accepts state now (.retryRequested reason)
      { state with stage := "dead_lettered", status := .deadLettered, updatedAt := now } [] := by
  cases definition with
  | _ => exact ⟨_, (if_pos failed).trans (if_pos spent), rfl, rfl⟩

theorem accepts_requeue {definition : DynWorkflowDefinition} (failed : state.status = .failed)
    (left : state.retriesRemaining ≠ 0) :
    definition.Accepts state now (.retryRequested reason)
      { definition.queuedAgain state now with
        context := (definition.queuedAgain state now).context.insert "retry_reason" (.string reason) }
      [] := by
  cases definition with
  | _ => exact ⟨_, (if_pos failed).trans (if_neg left), rfl, rfl⟩

theorem accepts_cancel {definition : DynWorkflowDefinition} :
    definition.Accepts state now (.cancelRequested reason)
      { state with
        stage := "cancelled", status := .cancelled, updatedAt := now
        context := state.context.insert "cancel_reason" (.string reason) } [] := by
  cases definition with
  | _ => exact ⟨_, rfl, rfl, rfl⟩

/-- A stage stands at one position of the planned steps. -/
theorem WellFormed.position_unique {definition : DynWorkflowDefinition} {left right : Nat}
    {step other : PlannedStep} (wellFormed : definition.WellFormed)
    (first : definition.plannedSteps[left]? = some step)
    (second : definition.plannedSteps[right]? = some other) (same : step.stage = other.stage) :
    left = right := by
  obtain ⟨inside, _⟩ := List.getElem?_eq_some_iff.mp first
  refine (List.getElem?_inj (by simpa using inside) wellFormed.stages).mp ?_
  simp [first, second, same]

section Completions

variable {definition : DynWorkflowDefinition} {state : WorkflowRuntimeState} {step : PlannedStep}
  {position : Nat} {output : Option Value}

theorem externalSourceSync_reported (current : externalSourceSync.plannedSteps[position]? = some step) :
    ExternalSourceSyncWorkflowDefinition.stageAfterCompletedTask step.stage step.taskKey =
      match ExternalSourceSyncWorkflowDefinition.steps[position + 1]? with
      | some nextStep => .ok (.next nextStep)
      | none => .ok .completed := by
  have wellFormed : externalSourceSync.WellFormed := wellFormed_of_registered (by simp [registry])
  cases reported : ExternalSourceSyncWorkflowDefinition.stageAfterCompletedTask step.stage step.taskKey with
  | ok outcome =>
    obtain ⟨found, other, located, sameStage, _, rest⟩ := externalSourceSync_outcome reported
    rw [← wellFormed.position_unique current located sameStage] at rest
    rw [rest]
    split <;> rfl
  | error error =>
    unfold ExternalSourceSyncWorkflowDefinition.stageAfterCompletedTask at reported
    split at reported
    · rename_i missing
      rw [externalSourceSync_step] at current
      obtain ⟨source, located, rfl⟩ := Option.map_eq_some_iff.mp current
      have absent := List.findIdx?_eq_none_iff.mp missing source (List.mem_of_getElem? located)
      simp at absent
    · split at reported <;> cases reported

theorem videoExtraction_reported (plain : videoExtractionOutputIsUnsupported output = false)
    (current : videoExtraction.plannedSteps[position]? = some step) :
    ∃ outcome, VideoExtractionWorkflowDefinition.stageAfterCompletedTask step.stage step.taskKey output =
      .ok outcome := by
  unfold VideoExtractionWorkflowDefinition.stageAfterCompletedTask
  match position, current with
  | 0, current => cases current; exact ⟨.next "registered", by simp [plain]⟩
  | 1, current => cases current; exact ⟨.next "parsing", by simp [plain]⟩
  | 2, current => cases current; exact ⟨.next "extracting_ppt", by simp [plain]⟩
  | 3, current => cases current; exact ⟨.completed, by simp [plain]⟩
  | after + 4, current => simp [plannedSteps] at current

theorem linear_second {definition : LinearWorkflowDefinition}
    (current : (linear definition).plannedSteps[position + 1]? = some step) :
    position = 0 ∧ ∃ nextStep, definition.nextStep = some nextStep ∧
      step = ⟨nextStep.taskKey, nextStep.taskKey⟩ := by
  cases found : definition.nextStep with
  | none => simp [plannedSteps, found] at current
  | some nextStep =>
    cases position with
    | zero =>
      refine ⟨rfl, nextStep, rfl, ?_⟩
      simpa [plannedSteps, found, eq_comm] using current
    | succ after => simp [plannedSteps, found] at current

theorem accepts_advance {following : PlannedStep} (wellFormed : definition.WellFormed)
    (running : state.status = .running) (plain : definition.endsOn output = false)
    (current : definition.plannedSteps[position]? = some step) (here : state.stage = step.stage)
    (later : definition.plannedSteps[position + 1]? = some following) :
    definition.Accepts state now (.stepCompleted step.taskKey output)
      { state with
        stage := following.stage, status := .running, updatedAt := now
        context := recordOutput state.context output } [following.taskKey] := by
  cases definition with
  | linear definition =>
    obtain ⟨rfl, nextStep, found, rfl⟩ := linear_second later
    cases current
    cases definition
    cases found
    exact ⟨_, (if_pos running).trans (if_pos ⟨here, rfl⟩), rfl, rfl⟩
  | externalSourceSync =>
    rw [externalSourceSync_step] at later
    obtain ⟨nextStep, found, rfl⟩ := Option.map_eq_some_iff.mp later
    have reported := externalSourceSync_reported current
    rw [found, ← here] at reported
    simp [Accepts, transition, ExternalSourceSyncWorkflowDefinition.transition, running, reported,
      WorkflowTransition.taskKeys, ExternalSourceSyncWorkflowDefinition.taskRequest]
  | videoExtraction =>
    obtain ⟨outcome, reported⟩ := videoExtraction_reported plain current
    obtain ⟨found, other, located, sameStage, _, rest⟩ := videoExtraction_outcome plain reported
    rw [← wellFormed.position_unique current located sameStage, later] at rest
    obtain ⟨rfl, queue, task⟩ := rest
    rw [← here] at reported
    simp [Accepts, transition, VideoExtractionWorkflowDefinition.transition, running, reported, task,
      WorkflowTransition.taskKeys, VideoExtractionWorkflowDefinition.taskRequest]

theorem accepts_finish (wellFormed : definition.WellFormed)
    (running : state.status = .running) (plain : definition.endsOn output = false)
    (current : definition.plannedSteps[position]? = some step) (here : state.stage = step.stage)
    (last : definition.plannedSteps[position + 1]? = none) :
    definition.Accepts state now (.stepCompleted step.taskKey output)
      { state with
        stage := definition.successStage, status := .succeeded, updatedAt := now
        context := recordOutput state.context output } [] := by
  cases definition with
  | linear definition =>
    cases found : definition.nextStep with
    | none =>
      cases position with
      | zero =>
        cases current
        cases definition
        cases found
        exact ⟨_, (if_pos running).trans (if_pos ⟨here, rfl⟩), rfl, rfl⟩
      | succ after => simp [plannedSteps, found] at current
    | some nextStep =>
      cases position with
      | zero => simp [plannedSteps, found] at last
      | succ after =>
        obtain ⟨rfl, other, same, rfl⟩ := linear_second current
        have apart : other.taskKey ≠ definition.taskKey := by
          have distinct := wellFormed.keys
          simp [plan, plannedSteps, same] at distinct
          exact Ne.symm distinct
        simp at here
        simp [Accepts, transition, LinearWorkflowDefinition.transition, running, same, here, apart,
          WorkflowTransition.taskKeys, successStage]
  | externalSourceSync =>
    have reported := externalSourceSync_reported current
    rw [externalSourceSync_step, Option.map_eq_none_iff] at last
    rw [last, ← here] at reported
    simp [Accepts, transition, ExternalSourceSyncWorkflowDefinition.transition, running, reported,
      WorkflowTransition.taskKeys, successStage]
  | videoExtraction =>
    obtain ⟨outcome, reported⟩ := videoExtraction_reported plain current
    obtain ⟨found, other, located, sameStage, _, rest⟩ := videoExtraction_outcome plain reported
    rw [← wellFormed.position_unique current located sameStage, last] at rest
    rw [← here, rest] at reported
    simp [Accepts, transition, VideoExtractionWorkflowDefinition.transition, running, reported,
      WorkflowTransition.taskKeys, successStage]

theorem accepts_unsupported (taskKey : String) (now : DateTime) (running : state.status = .running)
    (ends : definition.endsOn output = true) :
    definition.Accepts state now (.stepCompleted taskKey output)
      { state with
        stage := "unsupported_source", status := .failed, updatedAt := now
        context := recordOutput state.context output } [] := by
  cases definition with
  | videoExtraction =>
    have reported : VideoExtractionWorkflowDefinition.stageAfterCompletedTask state.stage taskKey output =
      .ok .unsupportedSource := if_pos ends
    simp [Accepts, transition, VideoExtractionWorkflowDefinition.transition, running, reported,
      WorkflowTransition.taskKeys]
  | _ => cases ends

end Completions

/-- The transition functions of a well-formed definition accept exactly the moves. -/
theorem accepts_iff_move {definition : DynWorkflowDefinition} (wellFormed : definition.WellFormed) :
    definition.Accepts state now signal next keys ↔ Move definition state now signal next keys := by
  constructor
  · rintro ⟨result, accepted, rfl, rfl⟩
    exact move_of_accepted accepted
  · intro move
    cases move with
    | start pending first => exact accepts_start pending first
    | advance running plain current here later =>
      exact accepts_advance wellFormed running plain current here later
    | finish running plain current here last =>
      exact accepts_finish wellFormed running plain current here last
    | unsupported running ends => exact accepts_unsupported _ now running ends
    | fail running => exact accepts_fail _ _ now running
    | exhaust failed spent => exact accepts_exhaust failed spent
    | requeue failed left => exact accepts_requeue failed left
    | cancel => exact accepts_cancel

end DynWorkflowDefinition

end DataMax.Workflow
