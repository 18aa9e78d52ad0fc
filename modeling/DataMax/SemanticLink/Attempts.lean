import DataMax.Library.Run
import DataMax.SemanticLink.System

/-! How the runs of the queue count their attempts. -/

namespace DataMax.SemanticLink

open Domain Library

structure SoundAttempts (run : DatasetSemanticLinkRun) : Prop where
  positive : 0 < run.maxAttempts
  nonneg : 0 ≤ run.attemptCount
  within : run.attemptCount ≤ run.maxAttempts
  running : run.status = .running → 1 ≤ run.attemptCount
  waiting : run.status = .pending ∨ run.status = .retryWait → run.attemptCount < run.maxAttempts

def countAttempt (runId : Uuid) (count : Int) (event : AttemptEvent) : Int :=
  if event.runId = runId then match event with
    | .opened _ | .revived _ => 0
    | .claimed _ => count + 1
    | .deferred _ => count - 1
  else count

/-- The claims less the deferrals of a run since it was queued or last revived. -/
def attemptsSince (runId : Uuid) (events : List AttemptEvent) : Int :=
  events.foldl (countAttempt runId) 0

@[simp] theorem attemptsSince_concat (runId : Uuid) (events : List AttemptEvent) (event : AttemptEvent) :
    attemptsSince runId (events ++ [event]) = countAttempt runId (attemptsSince runId events) event := by
  simp [attemptsSince]

variable {run next : DatasetSemanticLinkRun} {event : Option AttemptEvent}

theorem NewlyQueued.sound (new : NewlyQueued owner before run) : SoundAttempts run := by
  obtain ⟨status, attempts, positive, _⟩ := new
  constructor
  · exact positive
  · simp [attempts]
  · omega
  · intro running
    rw [status] at running
    cases running
  · intro _
    rw [attempts]
    exact positive

theorem RunChange.sound (change : RunChange event run next) (sound : SoundAttempts run) :
    SoundAttempts next := by
  obtain ⟨positive, nonneg, within, running, waiting⟩ := sound
  cases change with
  | kept unconcerned => exact ⟨positive, nonneg, within, running, waiting⟩
  | merged given now =>
    refine ⟨?_, nonneg, ?_, running, ?_⟩
    · simp only [becomeMerged]; omega
    · simp only [becomeMerged]; omega
    · intro waits
      have left := waiting waits
      simp only [becomeMerged]; omega
  | claimed claimedAt waits left =>
    refine ⟨positive, ?_, ?_, ?_, by simp [becomeClaimed]⟩
    · simp only [becomeClaimed]; omega
    · simp only [becomeClaimed]; omega
    · intro _
      simp only [becomeClaimed]; omega
  | deferred availableAt now runs =>
    have counted := running runs
    refine ⟨positive, ?_, ?_, by simp [becomeDeferred], ?_⟩
    · simp only [becomeDeferred]; omega
    · simp only [becomeDeferred]; omega
    · intro _
      simp only [becomeDeferred]; omega
  | failed failureCode availableAt now runs =>
    refine ⟨positive, nonneg, within, ?_, ?_⟩
    · simp only [becomeFailedAttempt]
      split <;> simp
    · simp only [becomeFailedAttempt]
      split
      · simp
      · intro _
        omega
  | revived now dead =>
    exact ⟨positive, Int.le_refl 0, Int.le_of_lt positive, by simp [becomeRevived], fun _ => positive⟩
  | succeeded finishedAt runs =>
    exact ⟨positive, nonneg, within, by simp [becomeSucceeded], by simp [becomeSucceeded]⟩

/-- A run is given up only when its attempts are used up. -/
theorem RunChange.dead_letter (change : RunChange event run next) (dead : next.status = .deadLetter)
    (alive : run.status ≠ .deadLetter) : next.maxAttempts ≤ next.attemptCount := by
  cases change with
  | kept unconcerned => exact False.elim (alive dead)
  | merged given now => exact False.elim (alive dead)
  | failed failureCode availableAt now runs =>
    simp only [becomeFailedAttempt] at dead ⊢
    split at dead
    · rename_i exhausted
      exact exhausted
    · cases dead
  | _ => cases dead

theorem RunChange.attempts (change : RunChange event run next) (sound : SoundAttempts run)
    (counted : run.attemptCount = attemptsSince run.id log) :
    next.attemptCount = attemptsSince next.id (log ++ event.toList) := by
  cases change with
  | kept unconcerned =>
    cases event with
    | none => simpa using counted
    | some happened =>
      have other := unconcerned happened rfl
      simpa [countAttempt, other] using counted
  | merged given now => simpa [becomeMerged] using counted
  | claimed claimedAt waits left => simpa [countAttempt, becomeClaimed, AttemptEvent.runId] using counted
  | deferred availableAt now runs =>
    have positive := sound.running runs
    have lowered : max (run.attemptCount - 1) 0 = run.attemptCount - 1 := by omega
    have lower : ((becomeDeferred availableAt now).apply run).attemptCount = run.attemptCount - 1 := lowered
    rw [lower, Option.toList_some, attemptsSince_concat, counted]
    simp [countAttempt, becomeDeferred, AttemptEvent.runId]
  | failed failureCode availableAt now runs => simpa [becomeFailedAttempt] using counted
  | revived now dead => simp [countAttempt, becomeRevived, AttemptEvent.runId]
  | succeeded finishedAt runs => simpa [becomeSucceeded] using counted

def LinkSystem.performLogged (owner : SnapshotOwner) (state : LinkSystem × List AttemptEvent)
    (operation : LinkOperation) : LinkSystem × List AttemptEvent :=
  (state.1.perform owner operation, state.2 ++ (state.1.attemptEvent owner operation).toList)

def AttemptsCounted (state : LinkSystem × List AttemptEvent) : Prop :=
  ∀ run ∈ state.1.store.runs.rows, SoundAttempts run ∧ run.attemptCount = attemptsSince run.id state.2

theorem attemptsCounted_step (owner : SnapshotOwner) (state : LinkSystem × List AttemptEvent)
    (operation : LinkOperation) (counted : AttemptsCounted state) :
    AttemptsCounted (LinkSystem.performLogged owner state operation) := by
  intro run member
  rcases (perform_runs state.1 operation).origin member with ⟨old, inside, change⟩ | ⟨opened, new⟩
  · obtain ⟨sound, tally⟩ := counted old inside
    exact ⟨change.sound sound, change.attempts sound tally⟩
  · refine ⟨new.sound, ?_⟩
    simp [LinkSystem.performLogged, opened, countAttempt, AttemptEvent.runId, new.attempts]

theorem attemptsCounted_run (owner : SnapshotOwner) (operations : List LinkOperation) :
    AttemptsCounted (operations.foldl (LinkSystem.performLogged owner) (.empty, [])) := by
  apply foldl_invariant _ (attemptsCounted_step owner)
  intro run member
  cases member

/-- Whatever is done to the queue in whatever order, every run counts its
attempts within its bound, can be claimed again while it waits, and becomes a
dead letter only when its attempts are used up. -/
theorem attempts_accounted (owner : SnapshotOwner) (operations : List LinkOperation) :
    let state := operations.foldl (LinkSystem.performLogged owner) (.empty, [])
    (∀ run ∈ state.1.store.runs.rows,
      0 ≤ run.attemptCount ∧ run.attemptCount ≤ run.maxAttempts ∧
      (run.status = .running → 1 ≤ run.attemptCount) ∧
      (run.status = .pending ∨ run.status = .retryWait → run.attemptCount < run.maxAttempts ∧
        ∀ claimedAt allowed, run.availableAt ≤ claimedAt → run.leftDatasetId ∈ allowed →
          run.rightDatasetId ∈ allowed → claimable run.tenantId claimedAt allowed run = true) ∧
      run.attemptCount = attemptsSince run.id state.2) ∧
    ∀ operation, ∀ run ∈ (state.1.perform owner operation).store.runs.rows, run.status = .deadLetter →
      (∀ old ∈ state.1.store.runs.rows, old.id = run.id → old.status ≠ .deadLetter) →
      run.maxAttempts ≤ run.attemptCount := by
  intro state
  have counted : AttemptsCounted state := attemptsCounted_run owner operations
  constructor
  · intro run member
    obtain ⟨⟨positive, nonneg, within, running, waiting⟩, tally⟩ := counted run member
    refine ⟨nonneg, within, running, fun waits => ⟨waiting waits, ?_⟩, tally⟩
    intro claimedAt allowed available left right
    simp [claimable, waits, available, waiting waits, left, right]
  · intro operation run member dead before
    rcases (perform_runs state.1 operation).origin member with ⟨old, inside, change⟩ | ⟨_, new⟩
    · exact change.dead_letter dead (before old inside change.id.symm)
    · rw [new.status] at dead
      cases dead

end DataMax.SemanticLink
