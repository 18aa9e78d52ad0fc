import DataMax.Library.Run
import DataMax.SemanticLink.System

/-! Which claim a run is on when a worker reports about it. -/

namespace DataMax.SemanticLink

open Domain Library

/-- The run has not been claimed again since the given claim handed it out. -/
def LinkSystem.StillOn (system : LinkSystem) (claim : Nat) (claimed : DatasetSemanticLinkRun) : Prop :=
  ∀ later again, claim < later → system.claims[later]? = some again → again.id ≠ claimed.id

/-- A report changes the run only while the run is on the reporter's claim. -/
def ReportSafe (owner : SnapshotOwner) (system : LinkSystem) (operation : LinkOperation) : Prop :=
  ∀ claim report claimed, operation = .report claim report → system.claims[claim]? = some claimed →
    (system.perform owner operation).store.runs.findIdentity claimed.id ≠
      system.store.runs.findIdentity claimed.id →
    system.StillOn claim claimed

/-- A report arrives while the run is on the reporter's claim, or while nobody
is running it. -/
def ReportTimely (system : LinkSystem) (operation : LinkOperation) : Prop :=
  ∀ claim report claimed, operation = .report claim report → system.claims[claim]? = some claimed →
    system.StillOn claim claimed ∨ ∀ run ∈ system.store.runs.rows,
      ¬ (run.id = claimed.id ∧ run.tenantId = claimed.tenantId ∧ run.status = .running)

/-- An update of a running run that ends its running is seen by looking the run up. -/
theorem findIdentity_running {runs : Table runSchema} {tenantId : TenantId} {runId : Uuid}
    {change : Change runSchema} (ends : ∀ run, (change.apply run).status ≠ .running) :
    (runs.update (isRunning tenantId runId) change).findIdentity runId ≠ runs.findIdentity runId ↔
      ∃ run ∈ runs.rows, run.id = runId ∧ run.tenantId = tenantId ∧ run.status = .running := by
  rw [Table.findIdentity_update]
  constructor
  · intro changed
    cases found : runs.findIdentity runId with
    | none => simp [found] at changed
    | some run =>
      obtain ⟨member, same⟩ := Table.findIdentity_eq_some.mp found
      rcases change.on_cases (isRunning tenantId runId) run with ⟨met, _⟩ | ⟨unmet, kept⟩
      · obtain ⟨tenant, _, running⟩ := of_decide_eq_true met
        exact ⟨run, member, same, tenant, running⟩
      · simp [found, kept] at changed
  · rintro ⟨run, member, same, tenant, running⟩ unchanged
    have found : runs.findIdentity runId = some run := Table.findIdentity_eq_some.mpr ⟨member, same⟩
    have met : isRunning tenantId runId run = true := by simp [isRunning, tenant, same, running]
    rw [found, Option.map_some, Option.some.injEq, Change.on, if_pos met] at unchanged
    have status := congrArg DatasetSemanticLinkRun.status unchanged
    exact ends run (status.trans running)

/-- A report changes the run exactly when the run is running, on whatever claim. -/
theorem reportOn_changes (store : LinkStore) (claimed : DatasetSemanticLinkRun) (report : WorkerReport) :
    (reportOn store claimed report).runs.findIdentity claimed.id ≠ store.runs.findIdentity claimed.id ↔
      ∃ run ∈ store.runs.rows, run.id = claimed.id ∧ run.tenantId = claimed.tenantId ∧
        run.status = .running := by
  cases report with
  | succeeded finishedAt => exact findIdentity_running (by simp [becomeSucceeded])
  | obsolete failureCode finishedAt =>
    have same : (reportOn store claimed (.obsolete failureCode finishedAt)).runs =
        store.runs.update (isRunning claimed.tenantId claimed.id) (becomeSucceeded finishedAt) := by
      simp only [reportOn, markObsoleteRunSucceeded, ne_eq, not_true_eq_false, if_false]
      split <;> rfl
    rw [same]
    exact findIdentity_running (by simp [becomeSucceeded])
  | failed failureCode availableAt now =>
    have same : (reportOn store claimed (.failed failureCode availableAt now)).runs =
        store.runs.update (isRunning claimed.tenantId claimed.id)
          (becomeFailedAttempt (trim failureCode) availableAt now) := by
      simp [reportOn, retryOrDeadLetter]
    rw [same]
    apply findIdentity_running
    intro run
    simp only [becomeFailedAttempt]
    split <;> simp
  | deferred availableAt now => exact findIdentity_running (by simp [becomeDeferred])

theorem reportSafe_iff (owner : SnapshotOwner) (system : LinkSystem) (operation : LinkOperation) :
    ReportSafe owner system operation ↔ ReportTimely system operation := by
  constructor
  · intro safe claim report claimed same handed
    by_cases running : ∃ run ∈ system.store.runs.rows, run.id = claimed.id ∧
        run.tenantId = claimed.tenantId ∧ run.status = .running
    · refine .inl (safe claim report claimed same handed ?_)
      subst same
      simp only [LinkSystem.perform, handed]
      exact (reportOn_changes system.store claimed report).mpr running
    · exact .inr fun run member runs => running ⟨run, member, runs⟩
  · intro timely claim report claimed same handed changed
    rcases timely claim report claimed same handed with current | idle
    · exact current
    · subst same
      simp only [LinkSystem.perform, handed] at changed
      obtain ⟨run, member, runs⟩ := (reportOn_changes system.store claimed report).mp changed
      exact False.elim (idle run member runs)

/-- In any interleaving of claims, recoveries and late reports, every report
changes its run on the reporter's own claim only, exactly when every report
arrives on that claim or while nobody is running the run. -/
theorem reports_safe_iff_timely (owner : SnapshotOwner) (operations : List LinkOperation) :
    Guarded (LinkSystem.perform owner) (ReportSafe owner) .empty operations ↔
      Guarded (LinkSystem.perform owner) ReportTimely .empty operations := by
  constructor
  · intro safe earlier operation before
    exact (reportSafe_iff owner _ operation).mp (safe earlier operation before)
  · intro timely earlier operation before
    exact (reportSafe_iff owner _ operation).mpr (timely earlier operation before)

def reclaimedRun : List LinkOperation := [
  .createOrGetRun ⟨"run"⟩ ⟨"tenant"⟩ sampleRun 0,
  .claim ⟨"tenant"⟩ [] 10 [⟨"dataset 1"⟩, ⟨"dataset 2"⟩],
  .recover ⟨"tenant"⟩ 20 30 [⟨"dataset 1"⟩, ⟨"dataset 2"⟩],
  .claim ⟨"tenant"⟩ [] 40 [⟨"dataset 1"⟩, ⟨"dataset 2"⟩]]

/-- After its lease was recovered and its run was claimed by another worker, a
worker still finishes the run. -/
theorem late_report_taken :
    let system := reclaimedRun.foldl (LinkSystem.perform sampleOwner) .empty
    let report := LinkOperation.report 0 (.succeeded 50)
    system.claims.map (·.attemptCount) = [1, 2] ∧
      ((system.perform sampleOwner report).store.runs.findIdentity ⟨"run"⟩).map (·.status) = some .succeeded ∧
      ¬ ReportSafe sampleOwner system report := by
  refine ⟨by decide, by decide, ?_⟩
  intro safe
  have current := safe 0 (.succeeded 50) _ rfl rfl (by decide)
  exact current 1 _ (by decide) rfl (by decide)

end DataMax.SemanticLink
