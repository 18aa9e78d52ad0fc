import DataMax.SemanticLink.Builds

/-! The builds that fail with the runs that end. The statement selects them by the tenant, the
datasets and the snapshots of a run, while a pair of snapshots has a build for every generation. -/

namespace DataMax.SemanticLink

open Domain Json Library

/-- The operations that end runs and fail their builds. -/
inductive RunEnding where
  | recoverStaleRuns (claimedBefore now : DateTime) (allowedDatasetIds : List DatasetId)
  | retryOrDeadLetter (run : DatasetSemanticLinkRun) (failureCode : String) (availableAt now : DateTime)
  | markObsoleteRunSucceeded (run : DatasetSemanticLinkRun) (failureCode : String) (finishedAt : DateTime)

namespace RunEnding

variable (store : LinkStore) (tenantId : TenantId)

def perform : RunEnding → LinkStore
  | .recoverStaleRuns claimedBefore now allowedDatasetIds =>
    (SemanticLink.recoverStaleRuns store tenantId claimedBefore now allowedDatasetIds).2
  | .retryOrDeadLetter run failureCode availableAt now =>
    (SemanticLink.retryOrDeadLetter store tenantId run failureCode availableAt now).2
  | .markObsoleteRunSucceeded run failureCode finishedAt =>
    (SemanticLink.markObsoleteRunSucceeded store tenantId run failureCode finishedAt).2

def isExhausted (runId : Uuid) (run : DatasetSemanticLinkRun) : Bool :=
  isRunning tenantId runId run ∧ run.maxAttempts ≤ run.attemptCount

/-- The runs the operation ends: a retried run only when its attempts are used up. -/
def ended : RunEnding → List DatasetSemanticLinkRun
  | .recoverStaleRuns claimedBefore _ allowedDatasetIds =>
    store.runs.rows.filter (isStale tenantId claimedBefore allowedDatasetIds)
  | .retryOrDeadLetter run _ _ _ =>
    if run.tenantId = tenantId ∧ store.runs.rows.any (isExhausted tenantId run.id) then [run] else []
  | .markObsoleteRunSucceeded run _ _ =>
    if run.tenantId = tenantId ∧ store.runs.rows.any (isRunning tenantId run.id) then [run] else []

end RunEnding

/-- The build of a run's snapshots and of its generation. -/
def ownBuild (tenantId : TenantId) (run : DatasetSemanticLinkRun) (link : DatasetSemanticLinkSnapshot) : Bool :=
  buildOfRun tenantId run link ∧ link.generationVersion = run.generationVersion

/-- Only the builds of the ended runs turn into failed ones, and every other build is unchanged. -/
structure FailsOwnBuilds (tenantId : TenantId) (ended : List DatasetSemanticLinkRun) (before after : Table linkSchema) :
    Prop where
  failed : ∀ link ∈ before.rows, link.status = .building →
    (∃ changed ∈ after.rows, changed.id = link.id ∧ changed.status = .failed) →
      ended.any (ownBuild tenantId · link) = true
  unchanged : ∀ link ∈ before.rows, link.status = .building → ended.any (ownBuild tenantId · link) = false →
    link ∈ after.rows

/-- What becomes of a build that is selected by the statement, or is not. -/
structure FailsBuilds (selected : DatasetSemanticLinkSnapshot → Bool) (before after : Table linkSchema) : Prop where
  failed : ∀ link ∈ before.rows, link.status = .building → selected link = true →
    ∃ changed ∈ after.rows, changed.id = link.id ∧ changed.status = .failed
  unchanged : ∀ link ∈ before.rows, link.status = .building → selected link = false → link ∈ after.rows

variable {tenantId : TenantId} {links : Table linkSchema}

theorem failsBuilds_none (selected : DatasetSemanticLinkSnapshot → Bool) (links : Table linkSchema)
    (none : ∀ link, selected link = false) : FailsBuilds selected links links where
  failed link _ _ met := absurd met (by rw [none link]; exact Bool.false_ne_true)
  unchanged _ stored _ _ := stored

theorem failBuildForRun_failsBuilds (tenantId : TenantId) (links : Table linkSchema) (run : DatasetSemanticLinkRun)
    (failureCode : String) (now : DateTime) :
    FailsBuilds (buildOfRun tenantId run) links (failBuildForRun tenantId links run failureCode now) where
  failed link stored _ met :=
    ⟨(becomeFailed failureCode now).apply link, Table.mem_update.mpr ⟨link, stored, if_pos met⟩, rfl, rfl⟩
  unchanged link stored _ unmet :=
    Table.mem_update.mpr ⟨link, stored, if_neg (by rw [unmet]; exact Bool.false_ne_true)⟩

/-- Marking the ready links of a pair stale leaves the builds and the failed links alone. -/
theorem mem_markPairReadyStale (pair : DatasetPair) (now : DateTime) {link : DatasetSemanticLinkSnapshot}
    (stored : link ∈ links.rows) (unready : link.status ≠ .ready) :
    link ∈ (markPairReadyStale tenantId links pair now).rows :=
  Table.mem_update.mpr ⟨link, stored, if_neg fun met => unready (of_decide_eq_true met).2⟩

theorem mem_failRecoveredBuild (now : DateTime) (run : DatasetSemanticLinkRun) {link : DatasetSemanticLinkSnapshot}
    (stored : link ∈ (failBuildForRun tenantId links run "worker_lease_expired" now).rows)
    (unready : link.status ≠ .ready) : link ∈ (failRecoveredBuild tenantId now links run).rows := by
  unfold failRecoveredBuild
  split
  · exact mem_markPairReadyStale _ now stored unready
  · exact stored

theorem failRecoveredBuild_failsBuilds (tenantId : TenantId) (now : DateTime) (links : Table linkSchema)
    (run : DatasetSemanticLinkRun) :
    FailsBuilds (buildOfRun tenantId run) links (failRecoveredBuild tenantId now links run) := by
  have updated := failBuildForRun_failsBuilds tenantId links run "worker_lease_expired" now
  constructor
  · intro link stored building met
    obtain ⟨changed, present, same, failed⟩ := updated.failed link stored building met
    exact ⟨changed, mem_failRecoveredBuild now run present (by rw [failed]; nofun), same, failed⟩
  · intro link stored building unmet
    exact mem_failRecoveredBuild now run (updated.unchanged link stored building unmet) (by rw [building]; nofun)

/-- A failed link stays as it is while further builds are recovered. -/
theorem failed_failRecoveredBuilds (now : DateTime) (runs : List DatasetSemanticLinkRun)
    {link : DatasetSemanticLinkSnapshot} (stored : link ∈ links.rows) (failed : link.status = .failed) :
    link ∈ (runs.foldl (failRecoveredBuild tenantId now) links).rows := by
  induction runs generalizing links with
  | nil => exact stored
  | cons run rest ih =>
    apply ih
    apply mem_failRecoveredBuild now run _ (by rw [failed]; nofun)
    have unselected : buildOfRun tenantId run link = false := by
      simp [buildOfRun, failed]
    exact Table.mem_update.mpr ⟨link, stored, if_neg (by rw [unselected]; exact Bool.false_ne_true)⟩

theorem failRecoveredBuilds_failsBuilds (tenantId : TenantId) (now : DateTime) (runs : List DatasetSemanticLinkRun)
    (links : Table linkSchema) : FailsBuilds (fun link => runs.any (buildOfRun tenantId · link)) links
      (runs.foldl (failRecoveredBuild tenantId now) links) := by
  induction runs generalizing links with
  | nil => exact failsBuilds_none _ links fun _ => rfl
  | cons run rest ih =>
    have first := failRecoveredBuild_failsBuilds tenantId now links run
    have later := ih (failRecoveredBuild tenantId now links run)
    constructor
    · intro link stored building met
      cases own : buildOfRun tenantId run link with
      | true =>
        obtain ⟨changed, present, same, failed⟩ := first.failed link stored building own
        exact ⟨changed, failed_failRecoveredBuilds now rest present failed, same, failed⟩
      | false =>
        rw [List.any_cons, own, Bool.false_or] at met
        exact later.failed link (first.unchanged link stored building own) building met
    · intro link stored building unmet
      obtain ⟨own, others⟩ := Bool.or_eq_false_iff.mp unmet
      exact later.unchanged link (first.unchanged link stored building own) building others

/-- A statement fails the own builds only, exactly when it selects no other ones. -/
theorem FailsBuilds.own_iff {after : Table linkSchema} {ended : List DatasetSemanticLinkRun}
    (fails : FailsBuilds (fun link => ended.any (buildOfRun tenantId · link)) links after) :
    FailsOwnBuilds tenantId ended links after ↔ ∀ run ∈ ended, ∀ link ∈ links.rows,
      buildOfRun tenantId run link = true → ∃ other ∈ ended, ownBuild tenantId other link = true := by
  constructor
  · intro own run ending link stored selected
    have building : link.status = .building := (of_decide_eq_true selected).2.2.2.2.2
    have met : ended.any (buildOfRun tenantId · link) = true := List.any_eq_true.mpr ⟨run, ending, selected⟩
    exact List.any_eq_true.mp (own.failed link stored building (fails.failed link stored building met))
  · intro single
    have unselected (link : DatasetSemanticLinkSnapshot) (stored : link ∈ links.rows)
        (foreign : ended.any (ownBuild tenantId · link) = false) :
        ended.any (buildOfRun tenantId · link) = false := by
      rw [← Bool.not_eq_true]
      intro met
      obtain ⟨run, ending, selected⟩ := List.any_eq_true.mp met
      rw [List.any_eq_true.mpr (single run ending link stored selected)] at foreign
      cases foreign
    constructor
    · intro link stored building failed
      rw [← Bool.not_eq_false]
      intro foreign
      obtain ⟨changed, present, same, status⟩ := failed
      have kept := fails.unchanged link stored building (unselected link stored foreign)
      rw [after.identity_inj present kept same, building] at status
      cases status
    · intro link stored building foreign
      exact fails.unchanged link stored building (unselected link stored foreign)

section Endings

variable (store : LinkStore) (tenantId : TenantId)

theorem isRunning_identity {runId : Uuid} (row : DatasetSemanticLinkRun) (running : isRunning tenantId runId row = true) :
    runSchema.identity row = runId :=
  (of_decide_eq_true running).2.1

/-- The retried run ends exactly when the row that is found has used its attempts up. -/
theorem retried_deadLetter (runId : Uuid) (failureCode : String) (availableAt now : DateTime) :
    ((store.runs.returning (isRunning tenantId runId) (becomeFailedAttempt failureCode availableAt now)).head?.any
      (·.status = .deadLetter)) = store.runs.rows.any (RunEnding.isExhausted tenantId runId) := by
  apply Bool.eq_iff_iff.mpr
  constructor
  · intro dead
    obtain ⟨row, returned, status⟩ := (Option.any_eq_true ..).mp dead
    obtain ⟨old, stored, running, rfl⟩ := (Table.returning_head_some (isRunning_identity tenantId)).mp returned
    refine List.any_eq_true.mpr ⟨old, stored, decide_eq_true ⟨running, ?_⟩⟩
    by_contra left
    have waiting : ((becomeFailedAttempt failureCode availableAt now).apply old).status = .retryWait := if_neg left
    rw [decide_eq_true_eq, waiting] at status
    cases status
  · intro exhausted
    obtain ⟨old, stored, met⟩ := List.any_eq_true.mp exhausted
    obtain ⟨running, used⟩ := of_decide_eq_true met
    rw [(Table.returning_head_some (isRunning_identity tenantId)).mpr ⟨old, stored, running, rfl⟩, Option.any_some,
      decide_eq_true_eq]
    exact if_pos used

theorem returned_isSome (runId : Uuid) (change : Change runSchema) :
    (store.runs.returning (isRunning tenantId runId) change).head?.isSome =
      store.runs.rows.any (isRunning tenantId runId) := by
  cases found : store.runs.rows.any (isRunning tenantId runId) with
  | true =>
    obtain ⟨old, stored, running⟩ := List.any_eq_true.mp found
    rw [(Table.returning_head_some (isRunning_identity tenantId)).mpr ⟨old, stored, running, rfl⟩]
    rfl
  | false =>
    rw [Table.returning_head_none.mpr fun row stored => by simpa using List.any_eq_false.mp found row stored]
    rfl

/-- Every operation fails exactly the builds that are selected by a run it ends. -/
theorem ending_failsBuilds (ending : RunEnding) :
    FailsBuilds (fun link => (ending.ended store tenantId).any (buildOfRun tenantId · link)) store.links
      (ending.perform store tenantId).links := by
  cases ending with
  | recoverStaleRuns claimedBefore now allowedDatasetIds =>
    simp only [RunEnding.perform, recoverStaleRuns]
    split
    · rename_i nobody
      have none : RunEnding.ended store tenantId (.recoverStaleRuns claimedBefore now allowedDatasetIds) = [] := by
        apply List.filter_eq_nil_iff.mpr
        simp [isStale, nobody]
      rw [none]
      exact failsBuilds_none _ _ fun _ => rfl
    · have failed := failRecoveredBuilds_failsBuilds tenantId now (store.runs.returning
        (isStale tenantId claimedBefore allowedDatasetIds) (becomeFailedAttempt "worker_lease_expired" now now)) store.links
      rw [Table.returning] at failed
      simp only [List.any_map] at failed
      exact failed
  | retryOrDeadLetter run failureCode availableAt now =>
    simp only [RunEnding.perform, RunEnding.ended, retryOrDeadLetter]
    by_cases own : run.tenantId = tenantId
    · simp only [own, not_true_eq_false, if_false, true_and, ne_eq, retried_deadLetter]
      split
      · simpa using failBuildForRun_failsBuilds tenantId store.links run (trim failureCode) now
      · exact failsBuilds_none _ _ fun _ => rfl
    · simp only [own, ne_eq, not_false_eq_true, if_true, false_and, if_false]
      exact failsBuilds_none _ _ fun _ => rfl
  | markObsoleteRunSucceeded run failureCode finishedAt =>
    simp only [RunEnding.perform, RunEnding.ended, markObsoleteRunSucceeded, markRunSucceeded]
    by_cases own : run.tenantId = tenantId
    · simp only [own, not_true_eq_false, if_false, true_and, ne_eq, returned_isSome]
      split
      · simpa using failBuildForRun_failsBuilds tenantId store.links run (trim failureCode) finishedAt
      · exact failsBuilds_none _ _ fun _ => rfl
    · simp only [own, ne_eq, not_false_eq_true, if_true, false_and, if_false]
      exact failsBuilds_none _ _ fun _ => rfl

/-- An operation leaves the builds of other generations alone exactly when it selects none, that
is, when every build of an ended run's snapshots is of the generation of a run it ends. -/
theorem ending_failsOwnBuilds_iff (ending : RunEnding) :
    FailsOwnBuilds tenantId (ending.ended store tenantId) store.links (ending.perform store tenantId).links ↔
      ∀ run ∈ ending.ended store tenantId, ∀ link ∈ store.links.rows, buildOfRun tenantId run link = true →
        ∃ other ∈ ending.ended store tenantId, ownBuild tenantId other link = true :=
  (ending_failsBuilds store tenantId ending).own_iff

end Endings

/-- A run of one pair of snapshots for each of two generations; the run of the first one is claimed. -/
def twoGenerationsBuilding : Option DatasetSemanticLinkRun × LinkStore :=
  let owner : SnapshotOwner := fun snapshotId =>
    if snapshotId = ⟨"left"⟩ then some (⟨"tenant"⟩, ⟨"a"⟩) else some (⟨"tenant"⟩, ⟨"b"⟩)
  let requested (generationVersion : String) (priority : Int) : NewDatasetSemanticLinkRun :=
    ⟨⟨"a"⟩, ⟨"b"⟩, ⟨"left"⟩, ⟨"right"⟩, generationVersion, "fingerprint", priority, 1, 0⟩
  let earlier := (ensureDatasetSemanticLinkRun .empty owner ⟨"run1"⟩ ⟨"link1"⟩ ⟨"tenant"⟩ (requested "1" 0) 0).2
  let later := (ensureDatasetSemanticLinkRun earlier owner ⟨"run2"⟩ ⟨"link2"⟩ ⟨"tenant"⟩ (requested "2" 1) 0).2
  claimReadyRunForDatasets later ⟨"tenant"⟩ [] 1 [⟨"a"⟩, ⟨"b"⟩]

theorem expired_lease_fails_other_generation :
    ¬ FailsOwnBuilds ⟨"tenant"⟩
      ((RunEnding.recoverStaleRuns 1 2 [⟨"a"⟩, ⟨"b"⟩]).ended twoGenerationsBuilding.2 ⟨"tenant"⟩)
      twoGenerationsBuilding.2.links
      ((RunEnding.recoverStaleRuns 1 2 [⟨"a"⟩, ⟨"b"⟩]).perform twoGenerationsBuilding.2 ⟨"tenant"⟩).links := by
  intro own
  exact absurd own.failed (by decide)

end DataMax.SemanticLink
