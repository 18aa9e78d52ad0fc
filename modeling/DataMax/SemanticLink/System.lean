import DataMax.SemanticLink.Repository

/-! The link store with everyone who works on it: the platform ensures runs, any
number of workers claim them, report on them at any later time, and recover the
runs of others. -/

namespace DataMax.SemanticLink

open Domain Json Library

/-- What a worker reports about the run it has claimed. -/
inductive WorkerReport where
  | succeeded (finishedAt : DateTime)
  | obsolete (failureCode : String) (finishedAt : DateTime)
  | failed (failureCode : String) (availableAt now : DateTime)
  | deferred (availableAt now : DateTime)

inductive LinkOperation where
  | ensureRun (newRunId newLinkId : Uuid) (tenantId : TenantId) (run : NewDatasetSemanticLinkRun)
      (now : DateTime)
  | createOrGetRun (newRunId : Uuid) (tenantId : TenantId) (run : NewDatasetSemanticLinkRun) (now : DateTime)
  | tryBeginBuild (newLinkId : Uuid) (tenantId : TenantId) (snapshot : NewDatasetSemanticLinkSnapshot)
      (now : DateTime)
  | markReady (tenantId : TenantId) (leftDatasetId rightDatasetId : DatasetId) (linkSnapshotId : Uuid)
      (manifest : Value) (nodeCount edgeCount : Int) (generatedAt : DateTime)
  | markFailed (tenantId : TenantId) (leftDatasetId rightDatasetId : DatasetId) (linkSnapshotId : Uuid)
      (failureCode : String) (now : DateTime)
  | markStale (tenantId : TenantId) (datasetId : DatasetId) (now : DateTime)
  | claim (tenantId : TenantId) (locked : List Uuid) (claimedAt : DateTime)
      (allowedDatasetIds : List DatasetId)
  | recover (tenantId : TenantId) (claimedBefore now : DateTime) (allowedDatasetIds : List DatasetId)
  | revive (tenantId : TenantId) (runId : Uuid) (now : DateTime)
  | report (claim : Nat) (report : WorkerReport)

/-- The store, and the runs as the claims have handed them out, oldest first. -/
structure LinkSystem where
  store : LinkStore
  claims : List DatasetSemanticLinkRun

def LinkSystem.empty : LinkSystem := ⟨.empty, []⟩

/-- A worker reports with the row it was handed, not with the row as it is now. -/
def reportOn (store : LinkStore) (claimed : DatasetSemanticLinkRun) : WorkerReport → LinkStore
  | .succeeded finishedAt => (markRunSucceeded store claimed.tenantId claimed.id finishedAt).2
  | .obsolete failureCode finishedAt =>
    (markObsoleteRunSucceeded store claimed.tenantId claimed failureCode finishedAt).2
  | .failed failureCode availableAt now =>
    (retryOrDeadLetter store claimed.tenantId claimed failureCode availableAt now).2
  | .deferred availableAt now =>
    (deferRunWithoutAttempt store claimed.tenantId claimed.id availableAt now).2

variable (owner : SnapshotOwner)

def LinkSystem.perform (system : LinkSystem) : LinkOperation → LinkSystem
  | .ensureRun newRunId newLinkId tenantId run now => { system with
      store := (ensureDatasetSemanticLinkRun system.store owner newRunId newLinkId tenantId run now).2 }
  | .createOrGetRun newRunId tenantId run now => { system with
      store := (SemanticLink.createOrGetRun system.store tenantId owner newRunId run now).2 }
  | .tryBeginBuild newLinkId tenantId snapshot now => { system with
      store := (SemanticLink.tryBeginBuild system.store tenantId owner newLinkId snapshot now).2 }
  | .markReady tenantId left right linkSnapshotId manifest nodeCount edgeCount generatedAt => { system with
      store := (SemanticLink.markReady system.store tenantId left right linkSnapshotId manifest nodeCount
        edgeCount generatedAt).2 }
  | .markFailed tenantId left right linkSnapshotId failureCode now => { system with
      store := (SemanticLink.markFailed system.store tenantId left right linkSnapshotId failureCode now).2 }
  | .markStale tenantId datasetId now => { system with
      store := markReadyLinksStaleForDataset system.store tenantId datasetId now }
  | .claim tenantId locked claimedAt allowed =>
    let (handed, store) := claimReadyRunForDatasets system.store tenantId locked claimedAt allowed
    ⟨store, system.claims ++ handed.toList⟩
  | .recover tenantId claimedBefore now allowed => { system with
      store := (recoverStaleRuns system.store tenantId claimedBefore now allowed).2 }
  | .revive tenantId runId now => { system with
      store := (reviveDeadLetterRun system.store tenantId runId now).2 }
  | .report claim report => match system.claims[claim]? with
    | none => system
    | some claimed => { system with store := reportOn system.store claimed report }

/-- What an operation does to the attempts of one run. -/
inductive AttemptEvent where
  | opened (runId : Uuid)
  | claimed (runId : Uuid)
  | deferred (runId : Uuid)
  | revived (runId : Uuid)

def AttemptEvent.runId : AttemptEvent → Uuid
  | .opened runId | .claimed runId | .deferred runId | .revived runId => runId

def openedBy (store : LinkStore) (tenantId : TenantId) (newRunId : Uuid) (run : NewDatasetSemanticLinkRun)
    (now : DateTime) : Option AttemptEvent :=
  match (createOrGetRun store tenantId owner newRunId run now).1 with
  | .error _ => none
  | .ok persisted => if (store.runs.findIdentity persisted.id).isSome then none else some (.opened persisted.id)

/-- Read off what the statement returns, as its caller sees it. -/
def LinkSystem.attemptEvent (system : LinkSystem) : LinkOperation → Option AttemptEvent
  | .ensureRun newRunId _ tenantId run now => openedBy owner system.store tenantId newRunId run now
  | .createOrGetRun newRunId tenantId run now => openedBy owner system.store tenantId newRunId run now
  | .claim tenantId locked claimedAt allowed =>
    (claimReadyRunForDatasets system.store tenantId locked claimedAt allowed).1.map (.claimed ·.id)
  | .revive tenantId runId now => (reviveDeadLetterRun system.store tenantId runId now).1.map (.revived ·.id)
  | .report claim (.deferred availableAt now) => match system.claims[claim]? with
    | none => none
    | some claimed =>
      (deferRunWithoutAttempt system.store claimed.tenantId claimed.id availableAt now).1.map (.deferred ·.id)
  | _ => none

/-- The ways an operation can change a run that exists already. -/
inductive RunChange : Option AttemptEvent → DatasetSemanticLinkRun → DatasetSemanticLinkRun → Prop where
  | kept (unconcerned : ∀ happened, event = some happened → happened.runId ≠ run.id) :
      RunChange event run run
  | merged (given : NewDatasetSemanticLinkRun) (now : DateTime) :
      RunChange none run ((becomeMerged given now).apply run)
  | claimed (claimedAt : DateTime) (waiting : run.status = .pending ∨ run.status = .retryWait)
      (left : run.attemptCount < run.maxAttempts) :
      RunChange (some (.claimed run.id)) run ((becomeClaimed claimedAt).apply run)
  | deferred (availableAt now : DateTime) (running : run.status = .running) :
      RunChange (some (.deferred run.id)) run ((becomeDeferred availableAt now).apply run)
  | failed (failureCode : String) (availableAt now : DateTime) (running : run.status = .running) :
      RunChange none run ((becomeFailedAttempt failureCode availableAt now).apply run)
  | revived (now : DateTime) (dead : run.status = .deadLetter) :
      RunChange (some (.revived run.id)) run ((becomeRevived now).apply run)
  | succeeded (finishedAt : DateTime) (running : run.status = .running) :
      RunChange none run ((becomeSucceeded finishedAt).apply run)

/-- A run as it is queued for the first time. -/
structure NewlyQueued (before : Table runSchema) (run : DatasetSemanticLinkRun) : Prop where
  status : run.status = .pending
  attempts : run.attemptCount = 0
  positive : 0 < run.maxAttempts
  fresh : ∀ old ∈ before.rows, old.id ≠ run.id
  alone : ∀ old ∈ before.rows, old.inputs ≠ run.inputs
  left : owner run.leftSnapshotId = some (run.tenantId, run.leftDatasetId)
  right : owner run.rightSnapshotId = some (run.tenantId, run.rightDatasetId)

/-- An operation changes each run in one of the ways above and may queue new ones. -/
def RunsStep (event : Option AttemptEvent) (before after : Table runSchema) : Prop :=
  ∃ change created, after.rows = before.rows.map change ++ created ∧
    (∀ old ∈ before.rows, RunChange event old (change old)) ∧
    ∀ run ∈ created, event = some (.opened run.id) ∧ NewlyQueued owner before run

variable {owner : SnapshotOwner} {store : LinkStore} {runs : Table runSchema}
  {event : Option AttemptEvent} {run next : DatasetSemanticLinkRun}

theorem RunChange.id (change : RunChange event run next) : next.id = run.id := by
  cases change <;> rfl

theorem RunChange.inputs (change : RunChange event run next) : next.inputs = run.inputs := by
  cases change <;> rfl

theorem RunChange.datasets (change : RunChange event run next) :
    next.leftDatasetId = run.leftDatasetId ∧ next.rightDatasetId = run.rightDatasetId := by
  cases change <;> exact ⟨rfl, rfl⟩

/-- A run after a step was there before it or has just been queued. -/
theorem RunsStep.origin (step : RunsStep owner event before after) (member : run ∈ after.rows) :
    (∃ old ∈ before.rows, RunChange event old run) ∨
      event = some (.opened run.id) ∧ NewlyQueued owner before run := by
  obtain ⟨change, created, rows, changes, queued⟩ := step
  rw [rows] at member
  rcases List.mem_append.mp member with moved | new
  · obtain ⟨old, inside, rfl⟩ := List.mem_map.mp moved
    exact .inl ⟨old, inside, changes old inside⟩
  · exact .inr (queued run new)

/-- No run is lost in a step. -/
theorem RunsStep.kept (step : RunsStep owner event before after) (member : run ∈ before.rows) :
    ∃ next ∈ after.rows, RunChange event run next := by
  obtain ⟨change, created, rows, changes, _⟩ := step
  refine ⟨change run, ?_, changes run member⟩
  rw [rows]
  exact List.mem_append_left created (List.mem_map.mpr ⟨run, member, rfl⟩)


theorem runsStep_refl : RunsStep owner none runs runs :=
  ⟨id, [], by simp, fun _ _ => .kept (by simp), by simp⟩

/-- An update that no attempt event comes with. -/
theorem runsStep_update {condition : DatasetSemanticLinkRun → Bool} {change : Change runSchema}
    (moved : ∀ old ∈ runs.rows, condition old = true → RunChange none old (change.apply old)) :
    RunsStep owner none runs (runs.update condition change) := by
  refine ⟨change.on condition, [], by simp [Table.update], ?_, by simp⟩
  intro old member
  rcases change.on_cases condition old with ⟨met, same⟩ | ⟨unmet, same⟩
  · rw [same]
    exact moved old member met
  · rw [same]
    exact .kept (by simp)

/-- An update of one run that is reported by the run it returns. -/
theorem runsStep_returning {condition : DatasetSemanticLinkRun → Bool} {change : Change runSchema}
    {runId : Uuid} {event : Uuid → AttemptEvent} (about : ∀ runId, (event runId).runId = runId)
    (single : ∀ run, condition run = true → run.id = runId)
    (moved : ∀ old ∈ runs.rows, condition old = true → RunChange (some (event old.id)) old (change.apply old)) :
    RunsStep owner ((runs.returning condition change).head?.map fun run => event run.id) runs
      (runs.update condition change) := by
  refine ⟨change.on condition, [], by simp [Table.update], ?_, by simp⟩
  intro old member
  rcases change.on_cases condition old with ⟨met, same⟩ | ⟨unmet, same⟩
  · have returned : (runs.returning condition change).head? = some (change.apply old) :=
      (Table.returning_head_some single).mpr ⟨old, member, met, rfl⟩
    have identity : (change.apply old).id = old.id := change.identity old
    rw [same, returned, Option.map_some, identity]
    exact moved old member met
  · rw [same]
    apply RunChange.kept
    intro happened found
    obtain ⟨returned, head, rfl⟩ := Option.map_eq_some_iff.mp found
    obtain ⟨source, inside, met, rfl⟩ := (Table.returning_head_some single).mp head
    have identity : (change.apply source).id = source.id := change.identity source
    rw [about, identity]
    intro equal
    rw [runs.identity_inj inside member equal, unmet] at met
    cases met

/-- The inputs that both tables store for a canonical pair. -/
def pairInputs (tenantId : TenantId) (pair : LinkPair) (generationVersion : String) : LinkInputs :=
  ⟨tenantId, pair.leftSnapshotId, pair.rightSnapshotId, trim generationVersion⟩

theorem referenced_iff {tenantId : TenantId} {pair : LinkPair} : referenced owner tenantId pair = true ↔
    owner pair.leftSnapshotId = some (tenantId, pair.leftDatasetId) ∧
      owner pair.rightSnapshotId = some (tenantId, pair.rightDatasetId) := by
  simp [referenced]

/-- A run is refused, merged into the one of the same inputs, or queued. -/
theorem createOrGetRun_cases (owner : SnapshotOwner) (store : LinkStore) (tenantId : TenantId)
    (newRunId : Uuid) (run : NewDatasetSemanticLinkRun) (now : DateTime) :
    (∃ error, createOrGetRun store tenantId owner newRunId run now = (.error error, store) ∧
      (0 < run.maxAttempts → ∀ pair, canonicalDatasetSemanticLinkPair run.leftDatasetId run.rightDatasetId
          run.leftSnapshotId run.rightSnapshotId = .ok pair →
        ∀ existing ∈ store.runs.rows, existing.inputs ≠ pairInputs tenantId pair run.generationVersion)) ∨
    (∃ pair existing, 0 < run.maxAttempts ∧
      canonicalDatasetSemanticLinkPair run.leftDatasetId run.rightDatasetId run.leftSnapshotId
        run.rightSnapshotId = .ok pair ∧ existing ∈ store.runs.rows ∧
      existing.inputs = pairInputs tenantId pair run.generationVersion ∧
      createOrGetRun store tenantId owner newRunId run now =
        (.ok ((becomeMerged run now).apply existing), { store with
          runs := store.runs.update (fun other => other.inputs = pairInputs tenantId pair run.generationVersion)
            (becomeMerged run now) })) ∨
    ∃ pair runs, canonicalDatasetSemanticLinkPair run.leftDatasetId run.rightDatasetId
        run.leftSnapshotId run.rightSnapshotId = .ok pair ∧
      runs.rows = store.runs.rows ++ [queuedRun tenantId newRunId pair run now] ∧
      NewlyQueued owner store.runs (queuedRun tenantId newRunId pair run now) ∧
      createOrGetRun store tenantId owner newRunId run now =
        (.ok (queuedRun tenantId newRunId pair run now), { store with runs }) := by
  unfold createOrGetRun
  split
  · rename_i spent
    exact .inl ⟨_, rfl, fun positive => False.elim (Int.not_le.mpr positive spent)⟩
  · rename_i positive
    split
    · rename_i error rejected
      exact .inl ⟨_, rfl, fun _ pair canonical => by simp [rejected] at canonical⟩
    · rename_i pair canonical
      split
      · rename_i outcome
        obtain ⟨absent, _⟩ := Table.insertOrUpdate_refused outcome
        refine .inl ⟨_, rfl, fun _ other same => ?_⟩
        rw [canonical] at same
        cases same
        exact Table.findKey_eq_none.mp absent
      · rename_i outcome
        obtain ⟨existing, _, never⟩ := Table.insertOrUpdate_skipped outcome
        cases never
      · rename_i runs returned outcome
        obtain ⟨existing, member, same, _, rfl, rfl⟩ := Table.insertOrUpdate_updated outcome
        exact .inr (.inl ⟨pair, existing, Int.not_le.mp positive, canonical, member, same, rfl⟩)
      · rename_i runs returned outcome
        obtain ⟨alone, admitted, fresh, rows, rfl⟩ := Table.insertOrUpdate_inserted outcome
        obtain ⟨left, right⟩ := referenced_iff.mp admitted
        refine .inr (.inr ⟨pair, runs, canonical, rows, ⟨rfl, rfl, ?_, ?_, alone, left, right⟩, rfl⟩)
        · exact Int.not_le.mp positive
        · intro old inside clash
          exact fresh (List.mem_map.mpr ⟨old, inside, clash⟩)

theorem createOrGetRun_runs (store : LinkStore) (tenantId : TenantId) (newRunId : Uuid)
    (run : NewDatasetSemanticLinkRun) (now : DateTime) :
    RunsStep owner (openedBy owner store tenantId newRunId run now) store.runs
      (createOrGetRun store tenantId owner newRunId run now).2.runs := by
  unfold openedBy
  rcases createOrGetRun_cases owner store tenantId newRunId run now with
    ⟨error, same, _⟩ | ⟨pair, existing, _, canonical, member, inputs, same⟩ |
    ⟨pair, runs, canonical, rows, new, same⟩
  · rw [same]
    exact runsStep_refl
  · have found : store.runs.findIdentity existing.id = some existing :=
      Table.findIdentity_eq_some.mpr ⟨member, rfl⟩
    have identity : ((becomeMerged run now).apply existing).id = existing.id := rfl
    rw [same]
    simp only [identity, found, Option.isSome_some, if_true]
    apply runsStep_update
    intro old _ _
    exact .merged run now
  · have absent : store.runs.findIdentity newRunId = none := by
      cases found : store.runs.findIdentity newRunId with
      | none => rfl
      | some old =>
        obtain ⟨inside, clash⟩ := Table.findIdentity_eq_some.mp found
        exact False.elim (new.fresh old inside clash)
    have identity : (queuedRun tenantId newRunId pair run now).id = newRunId := rfl
    rw [same]
    simp only [identity, absent, Option.isSome_none, Bool.false_eq_true, if_false]
    refine ⟨id, [queuedRun tenantId newRunId pair run now], by simp [rows], ?_, ?_⟩
    · intro old member
      refine .kept fun happened found => ?_
      cases found
      exact Ne.symm (new.fresh old member)
    · intro created member
      rw [List.mem_singleton.mp member]
      exact ⟨rfl, new⟩

theorem claimReadyRunForDatasets_runs (store : LinkStore) (tenantId : TenantId) (locked : List Uuid)
    (claimedAt : DateTime) (allowed : List DatasetId) :
    RunsStep owner ((claimReadyRunForDatasets store tenantId locked claimedAt allowed).1.map (.claimed ·.id))
      store.runs (claimReadyRunForDatasets store tenantId locked claimedAt allowed).2.runs := by
  unfold claimReadyRunForDatasets
  split
  · exact runsStep_refl
  · split
    · exact runsStep_refl
    · rename_i next found
      obtain ⟨inside, met⟩ := List.mem_filter.mp (firstBy_mem found)
      have ready := of_decide_eq_true met
      have claims : claimable tenantId claimedAt allowed next = true := ready.1
      obtain ⟨_, waiting, _, left, _⟩ := of_decide_eq_true claims
      apply runsStep_returning (fun _ => rfl)
      · intro run selected
        exact (of_decide_eq_true selected).2
      · intro old member selected
        obtain rfl := store.runs.identity_inj member inside (of_decide_eq_true selected).2
        exact .claimed claimedAt waiting left

theorem deferRunWithoutAttempt_runs (store : LinkStore) (tenantId : TenantId) (runId : Uuid)
    (availableAt now : DateTime) :
    RunsStep owner ((deferRunWithoutAttempt store tenantId runId availableAt now).1.map (.deferred ·.id))
      store.runs (deferRunWithoutAttempt store tenantId runId availableAt now).2.runs := by
  apply runsStep_returning (fun _ => rfl)
  · intro run selected
    exact (of_decide_eq_true selected).2.1
  · intro old member selected
    exact .deferred availableAt now (of_decide_eq_true selected).2.2

theorem reviveDeadLetterRun_runs (store : LinkStore) (tenantId : TenantId) (runId : Uuid) (now : DateTime) :
    RunsStep owner ((reviveDeadLetterRun store tenantId runId now).1.map (.revived ·.id)) store.runs
      (reviveDeadLetterRun store tenantId runId now).2.runs := by
  apply runsStep_returning (fun _ => rfl)
  · intro run selected
    exact (of_decide_eq_true selected).2.1
  · intro old member selected
    exact .revived now (of_decide_eq_true selected).2.2

theorem markRunSucceeded_runs (store : LinkStore) (tenantId : TenantId) (runId : Uuid)
    (finishedAt : DateTime) :
    RunsStep owner none store.runs (markRunSucceeded store tenantId runId finishedAt).2.runs := by
  apply runsStep_update
  intro old member selected
  exact .succeeded finishedAt (of_decide_eq_true selected).2.2

theorem markObsoleteRunSucceeded_runs (store : LinkStore) (tenantId : TenantId)
    (run : DatasetSemanticLinkRun) (failureCode : String) (finishedAt : DateTime) :
    RunsStep owner none store.runs
      (markObsoleteRunSucceeded store tenantId run failureCode finishedAt).2.runs := by
  unfold markObsoleteRunSucceeded
  split
  · exact runsStep_refl
  · dsimp only
    split <;> exact markRunSucceeded_runs store tenantId run.id finishedAt

theorem retryOrDeadLetter_runs (store : LinkStore) (tenantId : TenantId) (run : DatasetSemanticLinkRun)
    (failureCode : String) (availableAt now : DateTime) :
    RunsStep owner none store.runs
      (retryOrDeadLetter store tenantId run failureCode availableAt now).2.runs := by
  unfold retryOrDeadLetter
  split
  · exact runsStep_refl
  · apply runsStep_update
    intro old member selected
    exact .failed _ availableAt now (of_decide_eq_true selected).2.2

theorem recoverStaleRuns_runs (store : LinkStore) (tenantId : TenantId) (claimedBefore now : DateTime)
    (allowed : List DatasetId) :
    RunsStep owner none store.runs (recoverStaleRuns store tenantId claimedBefore now allowed).2.runs := by
  unfold recoverStaleRuns
  split
  · exact runsStep_refl
  · apply runsStep_update
    intro old member selected
    exact .failed _ now now (of_decide_eq_true selected).2.1

theorem tryBeginBuild_runs (store : LinkStore) (tenantId : TenantId) (newId : Uuid)
    (snapshot : NewDatasetSemanticLinkSnapshot) (now : DateTime) :
    (tryBeginBuild store tenantId owner newId snapshot now).2.runs = store.runs := by
  unfold tryBeginBuild
  split
  · rfl
  · split
    · rfl
    · split <;> rfl

/-- A run that was refused or is dead leaves the link snapshots alone. -/
theorem ensureDatasetSemanticLinkRun_store (store : LinkStore) (newRunId newLinkId : Uuid)
    (tenantId : TenantId) (run : NewDatasetSemanticLinkRun) (now : DateTime) :
    (ensureDatasetSemanticLinkRun store owner newRunId newLinkId tenantId run now).2 =
      match createOrGetRun store tenantId owner newRunId run now with
      | (.error _, created) => created
      | (.ok persisted, created) =>
        if persisted.status = .deadLetter then created
        else (tryBeginBuild created tenantId owner newLinkId (announcedSnapshot run) now).2 := by
  cases made : createOrGetRun store tenantId owner newRunId run now with
  | mk result created =>
    cases result with
    | error error => simp only [ensureDatasetSemanticLinkRun, made]
    | ok persisted =>
      simp only [ensureDatasetSemanticLinkRun, made]
      split
      · rfl
      · split
        · rename_i same
          rw [same]
        · rename_i same
          rw [same]

theorem ensureDatasetSemanticLinkRun_runs (store : LinkStore) (newRunId newLinkId : Uuid)
    (tenantId : TenantId) (run : NewDatasetSemanticLinkRun) (now : DateTime) :
    (ensureDatasetSemanticLinkRun store owner newRunId newLinkId tenantId run now).2.runs =
      (createOrGetRun store tenantId owner newRunId run now).2.runs := by
  rw [ensureDatasetSemanticLinkRun_store]
  split
  · rename_i same
    rw [same]
  · rename_i same
    rw [same]
    split
    · rfl
    · exact tryBeginBuild_runs _ tenantId newLinkId (announcedSnapshot run) now

theorem markReady_runs (store : LinkStore) (tenantId : TenantId) (left right : DatasetId)
    (linkSnapshotId : Uuid) (manifest : Value) (nodeCount edgeCount : Int) (generatedAt : DateTime) :
    (markReady store tenantId left right linkSnapshotId manifest nodeCount edgeCount generatedAt).2.runs =
      store.runs := by
  unfold markReady
  split
  · rfl
  · split
    · rfl
    · dsimp only
      split <;> rfl

theorem markFailed_runs (store : LinkStore) (tenantId : TenantId) (left right : DatasetId)
    (linkSnapshotId : Uuid) (failureCode : String) (now : DateTime) :
    (markFailed store tenantId left right linkSnapshotId failureCode now).2.runs = store.runs := by
  unfold markFailed
  split <;> rfl

theorem reportOn_runs (store : LinkStore) (claimed : DatasetSemanticLinkRun) (report : WorkerReport)
    (immediate : ∀ availableAt now, report ≠ .deferred availableAt now) :
    RunsStep owner none store.runs (reportOn store claimed report).runs := by
  cases report with
  | succeeded finishedAt => exact markRunSucceeded_runs store claimed.tenantId claimed.id finishedAt
  | obsolete failureCode finishedAt =>
    exact markObsoleteRunSucceeded_runs store claimed.tenantId claimed failureCode finishedAt
  | failed failureCode availableAt now =>
    exact retryOrDeadLetter_runs store claimed.tenantId claimed failureCode availableAt now
  | deferred availableAt now => exact False.elim (immediate availableAt now rfl)

/-- Every operation is a step of the runs, with the attempt event it returns. -/
theorem perform_runs (system : LinkSystem) (operation : LinkOperation) :
    RunsStep owner (system.attemptEvent owner operation) system.store.runs
      (system.perform owner operation).store.runs := by
  cases operation with
  | ensureRun newRunId newLinkId tenantId run now =>
    simp only [LinkSystem.perform, ensureDatasetSemanticLinkRun_runs]
    exact createOrGetRun_runs system.store tenantId newRunId run now
  | createOrGetRun newRunId tenantId run now =>
    exact createOrGetRun_runs system.store tenantId newRunId run now
  | tryBeginBuild newLinkId tenantId snapshot now =>
    simp only [LinkSystem.perform, tryBeginBuild_runs]
    exact runsStep_refl
  | markReady tenantId left right linkSnapshotId manifest nodeCount edgeCount generatedAt =>
    simp only [LinkSystem.perform, markReady_runs]
    exact runsStep_refl
  | markFailed tenantId left right linkSnapshotId failureCode now =>
    simp only [LinkSystem.perform, markFailed_runs]
    exact runsStep_refl
  | markStale tenantId datasetId now => exact runsStep_refl
  | claim tenantId locked claimedAt allowed =>
    exact claimReadyRunForDatasets_runs system.store tenantId locked claimedAt allowed
  | recover tenantId claimedBefore now allowed =>
    exact recoverStaleRuns_runs system.store tenantId claimedBefore now allowed
  | revive tenantId runId now => exact reviveDeadLetterRun_runs system.store tenantId runId now
  | report claim report =>
    cases found : system.claims[claim]? with
    | none =>
      simp only [LinkSystem.perform, found]
      cases report with
      | deferred availableAt now =>
        simp only [LinkSystem.attemptEvent, found]
        exact runsStep_refl
      | _ => exact runsStep_refl
    | some claimed =>
      simp only [LinkSystem.perform, found]
      cases report with
      | deferred availableAt now =>
        simp only [LinkSystem.attemptEvent, found]
        exact deferRunWithoutAttempt_runs system.store claimed.tenantId claimed.id availableAt now
      | _ => exact reportOn_runs system.store claimed _ (by simp)

def sampleOwner : SnapshotOwner := fun snapshotId =>
  if snapshotId = ⟨"left snapshot"⟩ then some (⟨"tenant"⟩, ⟨"dataset 1"⟩)
  else some (⟨"tenant"⟩, ⟨"dataset 2"⟩)

def sampleRun : NewDatasetSemanticLinkRun where
  leftDatasetId := ⟨"dataset 1"⟩
  rightDatasetId := ⟨"dataset 2"⟩
  leftSnapshotId := ⟨"left snapshot"⟩
  rightSnapshotId := ⟨"right snapshot"⟩
  generationVersion := "dataset_semantic_graph_v3"
  sourceFingerprint := "fingerprint"
  priority := 100
  maxAttempts := 3
  availableAt := 0

end DataMax.SemanticLink
