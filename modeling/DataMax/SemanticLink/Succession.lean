import DataMax.Library.Run
import DataMax.SemanticLink.ForeignKeys
import DataMax.SemanticLink.Workers

/-! Which link snapshots a build that becomes ready supersedes, under any interleaving of the workers' calls. -/

namespace DataMax.SemanticLink

open Domain Json Library SemanticSnapshot

/-- The first dataset snapshot is more recent than the second, as the latest one is chosen. -/
def NewerSnapshot (snapshots : SnapshotTable) (first second : Uuid) : Prop :=
  ∃ newer ∈ snapshots.rows, ∃ older ∈ snapshots.rows, newer.id = first ∧ older.id = second ∧
    latestFirst newer older = true

/-- The link was built from more recent dataset snapshots than the build: none of its two is older and one is newer. -/
def BuiltFromNewer (snapshots : SnapshotTable) (link build : DatasetSemanticLinkSnapshot) : Prop :=
  (NewerSnapshot snapshots link.leftSnapshotId build.leftSnapshotId ∨ link.leftSnapshotId = build.leftSnapshotId) ∧
  (NewerSnapshot snapshots link.rightSnapshotId build.rightSnapshotId ∨
    link.rightSnapshotId = build.rightSnapshotId) ∧
  (NewerSnapshot snapshots link.leftSnapshotId build.leftSnapshotId ∨
    NewerSnapshot snapshots link.rightSnapshotId build.rightSnapshotId)

def SamePair (link build : DatasetSemanticLinkSnapshot) : Prop :=
  link.tenantId = build.tenantId ∧ link.leftDatasetId = build.leftDatasetId ∧
    link.rightDatasetId = build.rightDatasetId

/-- The step makes the build ready. -/
def Finishes (config : WorkerConfig) (workers : LinkWorkers) (step : WorkersStep)
    (build : DatasetSemanticLinkSnapshot) : Prop :=
  build.status ≠ .ready ∧ ∃ after ∈ (workers.perform config step).store.links.rows,
    after.id = build.id ∧ after.status = .ready

/-- A ready link stays ready when a build of the same datasets from older snapshots finishes. -/
def NewerKept (config : WorkerConfig) (workers : LinkWorkers) (step : WorkersStep) : Prop :=
  ∀ link ∈ workers.store.links.rows, ∀ build ∈ workers.store.links.rows, link.status = .ready →
    SamePair link build → BuiltFromNewer workers.snapshots link build → Finishes config workers step build →
    ∃ after ∈ (workers.perform config step).store.links.rows, after.id = link.id ∧ after.status = .ready

/-- The dataset snapshots of a run are still the latest ready ones. -/
def stillLatest (snapshots : SnapshotTable) (run : DatasetSemanticLinkRun) : Bool :=
  (loadLatestReady snapshots run.tenantId run.leftDatasetId).any (·.id = run.leftSnapshotId) &&
    (loadLatestReady snapshots run.tenantId run.rightDatasetId).any (·.id = run.rightSnapshotId)

def latestWhenReady (workers : LinkWorkers) : WorkersStep → Bool
  | .call worker _ _ _ => match workers.phases worker with
    | .markReady run _ _ => stillLatest workers.snapshots run
    | _ => true
  | _ => true

/-- A build is marked ready only while its dataset snapshots are still the latest ones. -/
def LatestWhenReady (workers : LinkWorkers) (step : WorkersStep) : Prop := latestWhenReady workers step = true

section Decidable

variable (snapshots : SnapshotTable) (link build : DatasetSemanticLinkSnapshot) (config : WorkerConfig)
  (workers : LinkWorkers) (step : WorkersStep)

instance decidableNewerSnapshot (first second : Uuid) : Decidable (NewerSnapshot snapshots first second) :=
  inferInstanceAs (Decidable (∃ newer ∈ snapshots.rows, ∃ older ∈ snapshots.rows, newer.id = first ∧
    older.id = second ∧ latestFirst newer older = true))

instance decidableBuiltFromNewer : Decidable (BuiltFromNewer snapshots link build) :=
  inferInstanceAs (Decidable (_ ∧ _ ∧ _))

instance decidableSamePair : Decidable (SamePair link build) := inferInstanceAs (Decidable (_ ∧ _ ∧ _))

instance decidableFinishes : Decidable (Finishes config workers step build) :=
  inferInstanceAs (Decidable (_ ∧ ∃ after ∈ (workers.perform config step).store.links.rows, _))

instance decidableNewerKept : Decidable (NewerKept config workers step) :=
  inferInstanceAs (Decidable (∀ link ∈ workers.store.links.rows, ∀ build ∈ workers.store.links.rows,
    link.status = .ready → SamePair link build → BuiltFromNewer workers.snapshots link build →
    Finishes config workers step build → ∃ after ∈ (workers.perform config step).store.links.rows, _))

instance decidableLatestWhenReady : Decidable (LatestWhenReady workers step) :=
  inferInstanceAs (Decidable (latestWhenReady workers step = true))

end Decidable

/-- A link snapshot at two times. -/
structure SameBuild (old new : DatasetSemanticLinkSnapshot) : Prop where
  id : new.id = old.id
  inputs : new.inputs = old.inputs
  left : new.leftDatasetId = old.leftDatasetId
  right : new.rightDatasetId = old.rightDatasetId

theorem SameBuild.refl (link : DatasetSemanticLinkSnapshot) : SameBuild link link := ⟨rfl, rfl, rfl, rfl⟩

theorem SameBuild.trans {first second third : DatasetSemanticLinkSnapshot} (before : SameBuild first second)
    (after : SameBuild second third) : SameBuild first third :=
  ⟨after.id.trans before.id, after.inputs.trans before.inputs, after.left.trans before.left,
    after.right.trans before.right⟩

/-- No link snapshot is lost. -/
def Lasting (before after : Table linkSchema) : Prop :=
  ∀ old ∈ before.rows, ∃ new ∈ after.rows, SameBuild old new

/-- No link snapshot is lost, and the same ones are ready. -/
structure ReadyKept (before after : Table linkSchema) : Prop where
  forth : ∀ old ∈ before.rows, ∃ new ∈ after.rows, SameBuild old new ∧ (old.status = .ready → new.status = .ready)
  back : ∀ new ∈ after.rows, new.status = .ready → ∃ old ∈ before.rows, SameBuild old new ∧ old.status = .ready

theorem ReadyKept.refl (links : Table linkSchema) : ReadyKept links links :=
  ⟨fun old member => ⟨old, member, .refl old, id⟩, fun new member ready => ⟨new, member, .refl new, ready⟩⟩

theorem ReadyKept.trans {first second third : Table linkSchema} (before : ReadyKept first second)
    (after : ReadyKept second third) : ReadyKept first third where
  forth old member := by
    rcases before.forth old member with ⟨middle, inside, same, kept⟩
    rcases after.forth middle inside with ⟨new, found, again, still⟩
    exact ⟨new, found, same.trans again, fun ready => still (kept ready)⟩
  back new member ready := by
    rcases after.back new member ready with ⟨middle, inside, same, kept⟩
    rcases before.back middle inside kept with ⟨old, found, again, still⟩
    exact ⟨old, found, again.trans same, still⟩

theorem ReadyKept.lasting {before after : Table linkSchema} (kept : ReadyKept before after) :
    Lasting before after := by
  intro old member
  rcases kept.forth old member with ⟨new, inside, same, -⟩
  exact ⟨new, inside, same⟩

theorem Lasting.trans {first second third : Table linkSchema} (before : Lasting first second)
    (after : Lasting second third) : Lasting first third := by
  intro old member
  rcases before old member with ⟨middle, inside, same⟩
  rcases after middle inside with ⟨new, found, again⟩
  exact ⟨new, found, same.trans again⟩

/-- A change of link snapshots that leaves their datasets alone. -/
def KeepsDatasets (change : Change linkSchema) : Prop :=
  ∀ link, (change.apply link).leftDatasetId = link.leftDatasetId ∧
    (change.apply link).rightDatasetId = link.rightDatasetId

variable {links : Table linkSchema} {condition : DatasetSemanticLinkSnapshot → Bool} {change : Change linkSchema}

theorem sameBuild_on (keeps : KeepsDatasets change) (link : DatasetSemanticLinkSnapshot) :
    SameBuild link (change.on condition link) := by
  refine ⟨change.identity_on condition link, change.key_on condition link, ?_, ?_⟩
  all_goals
    rcases change.on_cases condition link with ⟨-, same⟩ | ⟨-, same⟩
    all_goals rw [same]
  · exact (keeps link).1
  · exact (keeps link).2

theorem Lasting.update (keeps : KeepsDatasets change) : Lasting links (links.update condition change) := by
  intro old member
  exact ⟨change.on condition old, Table.mem_update.mpr ⟨old, member, rfl⟩, sameBuild_on keeps old⟩

/-- An update that touches the readiness of no row. -/
theorem ReadyKept.update (keeps : KeepsDatasets change)
    (ready : ∀ link ∈ links.rows, condition link = true → ((change.apply link).status = .ready ↔ link.status = .ready)) :
    ReadyKept links (links.update condition change) := by
  have statuses : ∀ link ∈ links.rows, (change.on condition link).status = .ready ↔ link.status = .ready := by
    intro link member
    rcases change.on_cases condition link with ⟨met, same⟩ | ⟨-, same⟩
    · rw [same]
      exact ready link member met
    · rw [same]
  constructor
  · intro old member
    exact ⟨change.on condition old, Table.mem_update.mpr ⟨old, member, rfl⟩, sameBuild_on keeps old,
      (statuses old member).mpr⟩
  · intro new member isReady
    rcases Table.mem_update.mp member with ⟨old, inside, rfl⟩
    exact ⟨old, inside, sameBuild_on keeps old, (statuses old inside).mp isReady⟩

theorem readyKept_failed (building : ∀ link, condition link = true → link.status = .building) (failureCode : String)
    (now : DateTime) : ReadyKept links (links.update condition (becomeFailed failureCode now)) := by
  apply ReadyKept.update fun _ => ⟨rfl, rfl⟩
  intro link _ met
  simp [becomeFailed, building link met]

theorem readyKept_stale (now : DateTime) :
    ReadyKept links (links.update condition (becomeStale now)) :=
  .update (fun _ => ⟨rfl, rfl⟩) fun _ _ _ => Iff.rfl

theorem tryBeginBuild_readyKept (owner : SnapshotOwner) (store : LinkStore) (tenantId : TenantId) (newId : Uuid)
    (snapshot : NewDatasetSemanticLinkSnapshot) (now : DateTime) :
    ReadyKept store.links (tryBeginBuild store tenantId owner newId snapshot now).2.links := by
  simp only [tryBeginBuild]
  split
  · exact .refl _
  · split
    · exact .refl _
    · rename_i pair canonical
      split
      · exact .refl _
      · exact .refl _
      · rename_i links link outcome
        rcases Table.insertOrUpdate_updated outcome with ⟨existing, member, key, ended, rfl, -⟩
        apply ReadyKept.update fun _ => ⟨rfl, rfl⟩
        intro other inside met
        have same : other = existing :=
          store.links.key_inj inside member ((of_decide_eq_true met).trans key.symm)
        have idle : other.status ≠ .ready := by
          intro ready
          rw [← same] at ended
          simp [isEnded, ready] at ended
        simp [becomeBuilding, idle]
      · rename_i links link outcome
        rcases Table.insertOrUpdate_inserted outcome with ⟨-, -, -, rows, -⟩
        constructor
        · intro old member
          exact ⟨old, by rw [rows]; exact List.mem_append_left _ member, .refl old, id⟩
        · intro new member ready
          rw [rows] at member
          rcases List.mem_append.mp member with old | created
          · exact ⟨new, old, .refl new, ready⟩
          · rw [List.mem_singleton.mp created] at ready
            cases ready

theorem ensureDatasetSemanticLinkRun_readyKept (owner : SnapshotOwner) (store : LinkStore)
    (newRunId newLinkId : Uuid) (tenantId : TenantId) (run : NewDatasetSemanticLinkRun) (now : DateTime) :
    ReadyKept store.links
      (ensureDatasetSemanticLinkRun store owner newRunId newLinkId tenantId run now).2.links := by
  have links := createOrGetRun_links owner store tenantId newRunId run now
  rw [ensureDatasetSemanticLinkRun]
  split
  · rename_i error created made
    rw [made] at links
    simp only at links
    rw [links]
    exact .refl _
  · rename_i persisted created made
    rw [made] at links
    simp only at links
    have begun := tryBeginBuild_readyKept owner created tenantId newLinkId (announcedSnapshot run) now
    rw [links] at begun
    split
    · simp only [links]
      exact .refl _
    · split
      · rename_i same
        rw [same] at begun
        exact begun
      · rename_i same
        rw [same] at begun
        exact begun

theorem failBuildForRun_readyKept (tenantId : TenantId) (links : Table linkSchema) (run : DatasetSemanticLinkRun)
    (failureCode : String) (now : DateTime) :
    ReadyKept links (failBuildForRun tenantId links run failureCode now) := by
  apply readyKept_failed
  intro link met
  exact (of_decide_eq_true met).2.2.2.2.2

theorem failRecoveredBuild_readyKept (tenantId : TenantId) (now : DateTime) (links : Table linkSchema)
    (run : DatasetSemanticLinkRun) : ReadyKept links (failRecoveredBuild tenantId now links run) := by
  have failed := failBuildForRun_readyKept tenantId links run "worker_lease_expired" now
  rw [failRecoveredBuild]
  split
  · exact failed.trans (readyKept_stale now)
  · exact failed

theorem recoverStaleRuns_readyKept (store : LinkStore) (tenantId : TenantId) (claimedBefore now : DateTime)
    (allowed : List DatasetId) :
    ReadyKept store.links (recoverStaleRuns store tenantId claimedBefore now allowed).2.links := by
  have every : ∀ (runs : List DatasetSemanticLinkRun) links,
      ReadyKept links (runs.foldl (failRecoveredBuild tenantId now) links) := by
    intro runs
    induction runs with
    | nil => exact fun links => .refl links
    | cons run rest ih =>
      intro links
      exact (failRecoveredBuild_readyKept tenantId now links run).trans (ih _)
  rw [recoverStaleRuns]
  split
  · exact .refl _
  · exact every _ _

theorem retryOrDeadLetter_readyKept (store : LinkStore) (tenantId : TenantId) (run : DatasetSemanticLinkRun)
    (failureCode : String) (availableAt now : DateTime) :
    ReadyKept store.links (retryOrDeadLetter store tenantId run failureCode availableAt now).2.links := by
  rw [retryOrDeadLetter]
  split
  · exact .refl _
  · dsimp only
    split
    · exact failBuildForRun_readyKept tenantId store.links run (trim failureCode) now
    · exact .refl _

theorem markObsoleteRunSucceeded_readyKept (store : LinkStore) (tenantId : TenantId) (run : DatasetSemanticLinkRun)
    (failureCode : String) (finishedAt : DateTime) :
    ReadyKept store.links (markObsoleteRunSucceeded store tenantId run failureCode finishedAt).2.links := by
  rw [markObsoleteRunSucceeded]
  split
  · exact .refl _
  · dsimp only
    split
    · exact failBuildForRun_readyKept tenantId store.links run (trim failureCode) finishedAt
    · exact .refl _

theorem markFailed_readyKept (store : LinkStore) (tenantId : TenantId) (left right : DatasetId) (id : Uuid)
    (failureCode : String) (now : DateTime) :
    ReadyKept store.links (markFailed store tenantId left right id failureCode now).2.links := by
  rw [markFailed]
  split
  · exact .refl _
  · apply readyKept_failed
    intro link met
    exact (of_decide_eq_true met).2.2

theorem claimReadyRunForDatasets_links (store : LinkStore) (tenantId : TenantId) (locked : List Uuid)
    (claimedAt : DateTime) (allowed : List DatasetId) :
    (claimReadyRunForDatasets store tenantId locked claimedAt allowed).2.links = store.links := by
  rw [claimReadyRunForDatasets]
  split
  · rfl
  · split <;> rfl

/-- A link that becomes ready was building for the pair, and the ready links of the pair are superseded. -/
theorem markReady_cases (store : LinkStore) (tenantId : TenantId) (left right : DatasetId) (id : Uuid)
    (manifest : Value) (nodeCount edgeCount : Int) (generatedAt : DateTime) :
    (markReady store tenantId left right id manifest nodeCount edgeCount generatedAt).2 = store ∨
      ∃ pair build, canonicalDatasetSemanticLinkDatasetPair left right = .ok pair ∧ build ∈ store.links.rows ∧
        onPair tenantId pair build = true ∧ build.id = id ∧ build.status = .building ∧
        (markReady store tenantId left right id manifest nodeCount edgeCount generatedAt).2.links =
          (store.links.update (fun link => onPair tenantId pair link ∧ link.id = id ∧ link.status = .building)
            (becomeReady manifest nodeCount edgeCount generatedAt)).update
          (fun link => onPair tenantId pair link ∧ link.id ≠ id ∧ link.status = .ready)
            (becomeSuperseded generatedAt) := by
  rw [markReady]
  split
  · exact .inl rfl
  · split
    · exact .inl rfl
    · rename_i pair canonical
      dsimp only
      split
      · exact .inl rfl
      · rename_i link returned
        refine .inr ⟨pair, ?_⟩
        have single : ∀ other : DatasetSemanticLinkSnapshot, decide (onPair tenantId pair other = true ∧
            other.id = id ∧ other.status = .building) = true → linkSchema.identity other = id :=
          fun other met => (of_decide_eq_true met).2.1
        rcases (Table.returning_head_some single).mp returned with ⟨build, member, met, -⟩
        rcases of_decide_eq_true met with ⟨paired, same, building⟩
        exact ⟨build, canonical, member, paired, same, building, rfl⟩

variable {tenantId : TenantId} {pair : DatasetPair} {id : Uuid} {manifest : Value} {nodeCount edgeCount : Int}
  {generatedAt : DateTime} {build new : DatasetSemanticLinkSnapshot}

/-- After it is marked ready a link that is ready was ready before or is the build. -/
theorem ready_after_markReady (member : build ∈ links.rows) (same : build.id = id)
    (inside : new ∈ ((links.update (fun link => onPair tenantId pair link ∧ link.id = id ∧ link.status = .building)
      (becomeReady manifest nodeCount edgeCount generatedAt)).update
      (fun link => onPair tenantId pair link ∧ link.id ≠ id ∧ link.status = .ready)
        (becomeSuperseded generatedAt)).rows) (ready : new.status = .ready) :
    (∃ old ∈ links.rows, SameBuild old new ∧ old.status = .ready) ∨ SameBuild build new := by
  rcases Table.mem_update.mp inside with ⟨middle, between, rfl⟩
  rcases (becomeSuperseded generatedAt).on_cases (fun link => onPair tenantId pair link ∧ link.id ≠ id ∧
      link.status = .ready) middle with ⟨-, moved⟩ | ⟨-, moved⟩
  · rw [moved] at ready
    cases ready
  · rw [moved] at ready ⊢
    rcases Table.mem_update.mp between with ⟨old, before, rfl⟩
    have unchanged : SameBuild old ((becomeReady manifest nodeCount edgeCount generatedAt).on (fun link =>
      onPair tenantId pair link ∧ link.id = id ∧ link.status = .building) old) := sameBuild_on (fun _ => ⟨rfl, rfl⟩) old
    rcases (becomeReady manifest nodeCount edgeCount generatedAt).on_cases (fun link => onPair tenantId pair link ∧
        link.id = id ∧ link.status = .building) old with ⟨met, risen⟩ | ⟨-, kept⟩
    · have one : old = build := links.identity_inj before member ((of_decide_eq_true met).2.1.trans same.symm)
      exact .inr (one ▸ unchanged)
    · rw [kept] at ready
      exact .inl ⟨old, before, unchanged, ready⟩

/-- The snapshot is a ready one of the dataset. -/
def ReadyEndpoint (snapshots : SnapshotTable) (tenantId : TenantId) (datasetId : DatasetId) (id : Uuid) : Prop :=
  ∃ row ∈ snapshots.rows, row.id = id ∧ isReadyOf tenantId datasetId row = true

/-- Ready dataset snapshots are never touched again. -/
def SnapshotsKept (before after : SnapshotTable) : Prop :=
  ∀ row ∈ before.rows, row.status = .ready → row ∈ after.rows

theorem ReadyEndpoint.kept {before after : SnapshotTable} {datasetId : DatasetId} (kept : SnapshotsKept before after)
    (endpoint : ReadyEndpoint before tenantId datasetId id) : ReadyEndpoint after tenantId datasetId id := by
  rcases endpoint with ⟨row, member, same, ready⟩
  exact ⟨row, kept row member (of_decide_eq_true ready).2.2, same, ready⟩

theorem snapshotsKept_update {snapshots : SnapshotTable} {condition : DatasetSemanticSnapshot → Bool}
    {change : Change snapshotSchema} (idle : ∀ row ∈ snapshots.rows, condition row = true → row.status ≠ .ready) :
    SnapshotsKept snapshots (snapshots.update condition change) := by
  intro row member ready
  refine Table.mem_update.mpr ⟨row, member, ?_⟩
  rcases change.on_cases condition row with ⟨met, -⟩ | ⟨-, same⟩
  · exact absurd ready (idle row member met)
  · exact same

theorem tryBeginBuild_snapshotsKept (snapshots : SnapshotTable) (tenantId : TenantId) (newId : Uuid)
    (snapshot : NewDatasetSemanticSnapshot) (now : DateTime) :
    SnapshotsKept snapshots (SemanticSnapshot.tryBeginBuild snapshots tenantId newId snapshot now).2 := by
  rw [SemanticSnapshot.tryBeginBuild]
  split
  · exact fun row member _ => member
  · exact fun row member _ => member
  · rename_i updated row outcome
    rcases Table.insertOrUpdate_updated outcome with ⟨existing, member, key, ended, rfl, -⟩
    apply snapshotsKept_update
    intro other inside met ready
    have same : other = existing := snapshots.key_inj inside member ((of_decide_eq_true met).trans key.symm)
    rw [← same] at ended
    simp [SemanticSnapshot.isEnded, ready] at ended
  · rename_i inserted row outcome
    rcases Table.insertOrUpdate_inserted outcome with ⟨-, -, -, rows, -⟩
    intro old member _
    rw [rows]
    exact List.mem_append_left _ member

theorem snapshotsKept_building {snapshots : SnapshotTable} {datasetId : DatasetId} {change : Change snapshotSchema} :
    SnapshotsKept snapshots (snapshots.update (SemanticSnapshot.isBuilding tenantId datasetId id) change) := by
  apply snapshotsKept_update
  intro row _ met ready
  have building := (of_decide_eq_true met).2.2.2
  rw [ready] at building
  cases building

/-- Both dataset snapshots of the run were found ready. -/
def RunReady (snapshots : SnapshotTable) (run : DatasetSemanticLinkRun) : Prop :=
  ReadyEndpoint snapshots run.tenantId run.leftDatasetId run.leftSnapshotId ∧
    ReadyEndpoint snapshots run.tenantId run.rightDatasetId run.rightSnapshotId

/-- The link snapshot is built from the dataset snapshots of the run. -/
def BuiltFor (run : DatasetSemanticLinkRun) (link : DatasetSemanticLinkSnapshot) : Prop :=
  ∃ pair, canonicalDatasetSemanticLinkPair run.leftDatasetId run.rightDatasetId run.leftSnapshotId
      run.rightSnapshotId = .ok pair ∧
    link.leftSnapshotId = pair.leftSnapshotId ∧ link.rightSnapshotId = pair.rightSnapshotId

def BuildFound (links : Table linkSchema) (run : DatasetSemanticLinkRun) (buildId : Uuid) : Prop :=
  ∃ row ∈ links.rows, row.id = buildId ∧ BuiltFor run row

/-- What a worker knows when it makes its next call. -/
def PhaseSound (snapshots : SnapshotTable) (links : Table linkSchema) : LinkPhase → Prop
  | .loadRight run _ => ReadyEndpoint snapshots run.tenantId run.leftDatasetId run.leftSnapshotId
  | .latestLeft run _ _ | .latestRight run _ _ _ | .beginBuild run _ _ _ | .loadByInputs run _ _ =>
    RunReady snapshots run
  | .recheckLeft run _ _ build _ | .recheckRight run _ _ build _ _ | .markReady run build _ =>
    RunReady snapshots run ∧ BuildFound links run build.id
  | _ => True

/-- The link was built from ready snapshots of its datasets. -/
def LinkSound (snapshots : SnapshotTable) (link : DatasetSemanticLinkSnapshot) : Prop :=
  ReadyEndpoint snapshots link.tenantId link.leftDatasetId link.leftSnapshotId ∧
    ReadyEndpoint snapshots link.tenantId link.rightDatasetId link.rightSnapshotId

def ReadySound (snapshots : SnapshotTable) (links : Table linkSchema) : Prop :=
  ∀ link ∈ links.rows, link.status = .ready → LinkSound snapshots link

structure Sound (workers : LinkWorkers) : Prop where
  links : ReadySound workers.snapshots workers.store.links
  phases : ∀ worker, PhaseSound workers.snapshots workers.store.links (workers.phases worker)

theorem sound_empty : Sound .empty :=
  ⟨by simp [ReadySound, LinkWorkers.empty, LinkStore.empty, Table.empty], fun _ => trivial⟩

theorem BuildFound.lasting {before after : Table linkSchema} {run : DatasetSemanticLinkRun} {buildId : Uuid}
    (lasting : Lasting before after) (found : BuildFound before run buildId) : BuildFound after run buildId := by
  rcases found with ⟨row, member, same, pair, canonical, left, right⟩
  rcases lasting row member with ⟨next, inside, kept⟩
  rcases LinkInputs.mk.inj kept.inputs with ⟨-, leftSnapshot, rightSnapshot, -⟩
  exact ⟨next, inside, kept.id.trans same, pair, canonical, leftSnapshot.trans left, rightSnapshot.trans right⟩

theorem RunReady.kept {before after : SnapshotTable} {run : DatasetSemanticLinkRun}
    (kept : SnapshotsKept before after) (ready : RunReady before run) : RunReady after run :=
  ⟨ready.1.kept kept, ready.2.kept kept⟩

/-- What a worker knows stays true whatever the others do. -/
theorem PhaseSound.kept {before after : SnapshotTable} {links later : Table linkSchema} {phase : LinkPhase}
    (kept : SnapshotsKept before after) (lasting : Lasting links later) (sound : PhaseSound before links phase) :
    PhaseSound after later phase := by
  cases phase with
  | loadRight run left => exact ReadyEndpoint.kept kept sound
  | latestLeft run left right => exact RunReady.kept kept sound
  | latestRight run left right latest => exact RunReady.kept kept sound
  | beginBuild run left right fingerprint => exact RunReady.kept kept sound
  | loadByInputs run left right => exact RunReady.kept kept sound
  | recheckLeft run left right build graph => exact ⟨sound.1.kept kept, sound.2.lasting lasting⟩
  | recheckRight run left right build graph latest => exact ⟨sound.1.kept kept, sound.2.lasting lasting⟩
  | markReady run build graph => exact ⟨sound.1.kept kept, sound.2.lasting lasting⟩
  | _ => trivial

theorem SameBuild.sound {snapshots : SnapshotTable} {old new : DatasetSemanticLinkSnapshot}
    (same : SameBuild old new) (sound : LinkSound snapshots old) : LinkSound snapshots new := by
  rcases LinkInputs.mk.inj same.inputs with ⟨tenant, left, right, -⟩
  rw [LinkSound, tenant, left, right, same.left, same.right]
  exact sound

theorem ReadySound.kept {snapshots : SnapshotTable} {before after : Table linkSchema}
    (sound : ReadySound snapshots before) (kept : ReadyKept before after) : ReadySound snapshots after := by
  intro link member ready
  rcases kept.back link member ready with ⟨old, inside, same, earlier⟩
  exact same.sound (sound old inside earlier)

theorem ReadySound.snapshots {before after : SnapshotTable} {links : Table linkSchema}
    (sound : ReadySound before links) (kept : SnapshotsKept before after) : ReadySound after links := by
  intro link member ready
  exact ⟨(sound link member ready).1.kept kept, (sound link member ready).2.kept kept⟩

theorem loadReadyById_endpoint {snapshots : SnapshotTable} {datasetId : DatasetId} {row : DatasetSemanticSnapshot}
    (found : loadReadyById snapshots tenantId datasetId id = some row) :
    ReadyEndpoint snapshots tenantId datasetId id := by
  have met := List.find?_some found
  rw [Bool.and_eq_true] at met
  exact ⟨row, List.mem_of_find?_eq_some found, of_decide_eq_true met.2, met.1⟩

theorem canonicalPair_cases {leftDatasetId rightDatasetId : DatasetId} {leftSnapshotId rightSnapshotId : Uuid}
    {pair : LinkPair}
    (canonical : canonicalDatasetSemanticLinkPair leftDatasetId rightDatasetId leftSnapshotId rightSnapshotId =
      .ok pair) :
    canonicalDatasetSemanticLinkDatasetPair leftDatasetId rightDatasetId = .ok pair.toDatasetPair ∧
      (pair = ⟨⟨leftDatasetId, rightDatasetId⟩, leftSnapshotId, rightSnapshotId⟩ ∨
        pair = ⟨⟨rightDatasetId, leftDatasetId⟩, rightSnapshotId, leftSnapshotId⟩) := by
  rw [canonicalDatasetSemanticLinkPair] at canonical
  rw [canonicalDatasetSemanticLinkDatasetPair]
  by_cases distinct : leftDatasetId = rightDatasetId
  · rw [if_pos distinct] at canonical
    cases canonical
  · rw [if_neg distinct] at canonical ⊢
    by_cases apart : leftSnapshotId = rightSnapshotId
    · rw [if_pos apart] at canonical
      cases canonical
    · rw [if_neg apart] at canonical
      by_cases ordered : leftDatasetId < rightDatasetId
      · rw [if_pos ordered] at canonical ⊢
        cases canonical
        exact ⟨rfl, .inl rfl⟩
      · rw [if_neg ordered] at canonical ⊢
        cases canonical
        exact ⟨rfl, .inr rfl⟩

/-- What holds of both endpoints of a run holds of both sides of its canonical pair. -/
theorem BuiltFor.sides (holds : DatasetId → Uuid → Prop) {run : DatasetSemanticLinkRun}
    {link : DatasetSemanticLinkSnapshot} (built : BuiltFor run link) (left : holds run.leftDatasetId run.leftSnapshotId)
    (right : holds run.rightDatasetId run.rightSnapshotId)
    (canonical : canonicalDatasetSemanticLinkDatasetPair run.leftDatasetId run.rightDatasetId = .ok pair) :
    holds pair.leftDatasetId link.leftSnapshotId ∧ holds pair.rightDatasetId link.rightSnapshotId := by
  rcases built with ⟨whole, made, leftSame, rightSame⟩
  rcases canonicalPair_cases made with ⟨datasets, shape⟩
  rw [datasets] at canonical
  cases canonical
  rw [leftSame, rightSame]
  rcases shape with rfl | rfl
  · exact ⟨left, right⟩
  · exact ⟨right, left⟩

theorem tryBeginBuild_found {owner : SnapshotOwner} {store after : LinkStore} {run : DatasetSemanticLinkRun}
    {newId : Uuid} {fingerprint : String} {now : DateTime}
    (begun : tryBeginBuild store run.tenantId owner newId (newLinkSnapshot run fingerprint) now =
      (.ok (some build), after)) : BuildFound after.links run build.id := by
  simp only [tryBeginBuild] at begun
  split at begun
  · cases begun
  · split at begun
    · cases begun
    · rename_i pair canonical
      split at begun
      · cases begun
      · cases begun
      · rename_i links link outcome
        cases begun
        rcases Table.insertOrUpdate_updated outcome with ⟨existing, member, key, ended, rfl, returned⟩
        have moved : (becomeBuilding (newLinkSnapshot run fingerprint) now).on
            (fun other => decide (linkSchema.key other = linkSchema.key
              (buildingLink run.tenantId newId pair (newLinkSnapshot run fingerprint) now))) existing = build := by
          rw [Change.on, if_pos (by simpa using key), returned]
        have inputs := (congrArg linkSchema.key returned).trans
          (((becomeBuilding (newLinkSnapshot run fingerprint) now).key existing).trans key)
        rcases LinkInputs.mk.inj inputs with ⟨-, left, right, -⟩
        exact ⟨build, Table.mem_update.mpr ⟨existing, member, moved⟩, rfl, pair, canonical, left, right⟩
      · rename_i links link outcome
        cases begun
        rcases Table.insertOrUpdate_inserted outcome with ⟨-, -, -, rows, returned⟩
        refine ⟨build, by rw [rows, returned]; simp, rfl, pair, canonical, ?_⟩
        rw [returned]
        exact ⟨rfl, rfl⟩

theorem loadByInputs_found {store : LinkStore} {run : DatasetSemanticLinkRun} {generationVersion : String}
    (loaded : loadByInputs store tenantId run generationVersion = .ok (some build)) :
    BuildFound store.links run build.id := by
  rw [loadByInputs] at loaded
  split at loaded
  · cases loaded
  · rename_i pair canonical
    have found := Except.ok.inj loaded
    have chosen := List.find?_some found
    rw [decide_eq_true_eq] at chosen
    exact ⟨build, List.mem_of_find?_eq_some found, rfl, pair, canonical, chosen.2.1, chosen.2.2.1⟩

variable {config : WorkerConfig} {workers : LinkWorkers} {run : DatasetSemanticLinkRun}

theorem buildPhase_sound {snapshots : SnapshotTable} {links : Table linkSchema}
    {left right : DatasetSemanticSnapshot} (ready : RunReady snapshots run) (found : BuildFound links run build.id) :
    PhaseSound snapshots links (buildPhase config run left right build) := by
  rw [buildPhase]
  split
  · trivial
  · exact ⟨ready, found⟩

/-- A build that becomes ready was built from ready snapshots. -/
theorem markReady_sound (graph : BuiltGraph) (now : DateTime) (sound : ReadySound workers.snapshots workers.store.links)
    (ready : RunReady workers.snapshots run) (found : BuildFound workers.store.links run build.id) :
    let after := (markReady workers.store run.tenantId run.leftDatasetId run.rightDatasetId build.id graph.manifest
      graph.nodeCount graph.edgeCount now).2.links
    Lasting workers.store.links after ∧ ReadySound workers.snapshots after := by
  intro after
  rcases markReady_cases workers.store run.tenantId run.leftDatasetId run.rightDatasetId build.id graph.manifest
    graph.nodeCount graph.edgeCount now with same | ⟨pair, row, canonical, member, paired, same, building, links⟩
  · simp only [after, same]
    exact ⟨(ReadyKept.refl _).lasting, sound⟩
  · simp only [after, links]
    refine ⟨(Lasting.update fun _ => ⟨rfl, rfl⟩).trans (Lasting.update fun _ => ⟨rfl, rfl⟩), ?_⟩
    intro link inside isReady
    rcases ready_after_markReady member same inside isReady with ⟨old, before, kept, earlier⟩ | risen
    · exact kept.sound (sound old before earlier)
    · refine risen.sound ?_
      rcases found with ⟨known, listed, identity, built⟩
      have one : known = row := workers.store.links.identity_inj listed member (identity.trans same.symm)
      rcases of_decide_eq_true paired with ⟨tenant, leftDataset, rightDataset⟩
      rw [LinkSound, tenant, leftDataset, rightDataset]
      exact BuiltFor.sides (ReadyEndpoint workers.snapshots run.tenantId) (one ▸ built) ready.1 ready.2 canonical

attribute [local simp] call in
/-- Only marking a build ready takes the readiness of another link. -/
theorem call_readyKept (newId : Uuid) (now availableAt : DateTime) {phase : LinkPhase}
    (other : ∀ run build graph, phase ≠ .markReady run build graph) :
    ReadyKept workers.store.links (call config workers newId now availableAt phase).2.links := by
  cases phase with
  | idle => exact .refl _
  | deferRun tenantId run => exact .refl _
  | loadLeft run =>
    rw [call]
    split <;> exact .refl _
  | loadRight run left =>
    rw [call]
    split <;> exact .refl _
  | latestLeft run left right =>
    rw [call]
    split <;> exact .refl _
  | latestRight run left right leftLatest =>
    rw [call]
    split <;> exact .refl _
  | markObsolete run =>
    have kept := markObsoleteRunSucceeded_readyKept workers.store run.tenantId run safeInputStaleCode now
    rw [call]
    split
    all_goals
      rename_i same
      rw [same] at kept
      exact kept
  | beginBuild run left right fingerprint =>
    have kept := tryBeginBuild_readyKept workers.owner workers.store run.tenantId newId
      (newLinkSnapshot run fingerprint) now
    rw [call]
    split
    all_goals
      rename_i same
      rw [same] at kept
      exact kept
  | loadByInputs run left right =>
    rw [call]
    split <;> exact .refl _
  | recheckLeft run left right build graph =>
    rw [call]
    split <;> exact .refl _
  | recheckRight run left right build graph leftLatest =>
    rw [call]
    split <;> exact .refl _
  | markStale run build =>
    have kept := markFailed_readyKept workers.store run.tenantId run.leftDatasetId run.rightDatasetId build.id
      safeInputStaleCode now
    rw [call]
    split
    all_goals
      rename_i same
      rw [same] at kept
      exact kept
  | markReady run build graph => exact False.elim (other run build graph rfl)
  | markFailed run build =>
    exact markFailed_readyKept workers.store run.tenantId run.leftDatasetId run.rightDatasetId build.id
      safeBuildFailureCode now
  | markRunSucceeded run required =>
    rw [call]
    split
    all_goals
      rename_i same
      have links : workers.store.links = _ := congrArg (fun result => result.2.links) same
      rw [← links]
      exact .refl _
  | retry run =>
    exact retryOrDeadLetter_readyKept workers.store run.tenantId run safeBuildFailureCode availableAt now

/-- A worker that knows what it says it knows also knows what its next call relies on. -/
theorem call_known (newId : Uuid) (now availableAt : DateTime) {phase : LinkPhase}
    (known : PhaseSound workers.snapshots workers.store.links phase) :
    PhaseSound workers.snapshots (call config workers newId now availableAt phase).2.links
      (call config workers newId now availableAt phase).1 := by
  cases phase with
  | loadLeft run =>
    rw [call]
    split
    · trivial
    · rename_i left found
      exact loadReadyById_endpoint found
  | loadRight run left =>
    rw [call]
    split
    · trivial
    · rename_i right found
      exact ⟨known, loadReadyById_endpoint found⟩
  | latestLeft run left right =>
    rw [call]
    split
    · trivial
    · exact known
  | latestRight run left right leftLatest =>
    rw [call]
    split
    · trivial
    · rw [validateRun]
      split
      · trivial
      · split
        · trivial
        · split
          · trivial
          · exact known
  | beginBuild run left right fingerprint =>
    rw [call]
    split
    · trivial
    · exact known
    · rename_i begun
      exact buildPhase_sound known (tryBeginBuild_found begun)
  | loadByInputs run left right =>
    rw [call]
    split
    · rename_i existing loaded
      rw [existingPhase]
      dsimp only
      split
      · trivial
      · split
        · exact buildPhase_sound known (loadByInputs_found loaded)
        · trivial
    · trivial
  | recheckLeft run left right build graph =>
    rw [call]
    split
    · trivial
    · exact known
  | recheckRight run left right build graph leftLatest =>
    rw [call]
    split
    · trivial
    · rw [recheckedPhase]
      split
      · trivial
      · exact known
  | markRunSucceeded run required =>
    rw [call]
    split
    · trivial
    · cases required <;> trivial
  | markObsolete run =>
    rw [call]
    split <;> trivial
  | markStale run build =>
    rw [call]
    split <;> trivial
  | markReady run build graph =>
    rw [call]
    split <;> trivial
  | _ => trivial

/-- No call loses a link snapshot, and the links that are ready were built from ready snapshots. -/
theorem call_sound (sound : Sound workers) (newId : Uuid) (now availableAt : DateTime) {phase : LinkPhase}
    (known : PhaseSound workers.snapshots workers.store.links phase) :
    Lasting workers.store.links (call config workers newId now availableAt phase).2.links ∧
      ReadySound workers.snapshots (call config workers newId now availableAt phase).2.links := by
  by_cases marks : ∃ run build graph, phase = .markReady run build graph
  · rcases marks with ⟨run, build, graph, rfl⟩
    have facts := markReady_sound graph now sound.links known.1 known.2
    rw [call]
    split
    all_goals
      rename_i same
      rw [same] at facts
      exact facts
  · have kept := @call_readyKept config workers newId now availableAt _
      fun run build graph same => marks ⟨run, build, graph, same⟩
    exact ⟨kept.lasting, sound.links.kept kept⟩

theorem perform_sound (sound : Sound workers) (step : WorkersStep) : Sound (workers.perform config step) := by
  have others : ∀ {snapshots : SnapshotTable} {store : LinkStore}, SnapshotsKept workers.snapshots snapshots →
      ReadyKept workers.store.links store.links → Sound ⟨snapshots, store, workers.phases⟩ := fun kept links =>
    ⟨(sound.links.snapshots kept).kept links, fun worker => (sound.phases worker).kept kept links.lasting⟩
  have still : SnapshotsKept workers.snapshots workers.snapshots := fun row member _ => member
  have moved : ∀ {store : LinkStore} {worker : Nat} {phase : LinkPhase}, Lasting workers.store.links store.links →
      ReadySound workers.snapshots store.links → PhaseSound workers.snapshots store.links phase →
      Sound ⟨workers.snapshots, store, setPhase workers.phases worker phase⟩ := by
    intro store worker phase lasting ready knows
    refine ⟨ready, ?_⟩
    intro other
    change PhaseSound workers.snapshots store.links (setPhase workers.phases worker phase other)
    rw [setPhase]
    split
    · exact knows
    · exact (sound.phases other).kept still lasting
  cases step with
  | beginSnapshot newId tenantId snapshot now =>
    exact others (tryBeginBuild_snapshotsKept workers.snapshots tenantId newId snapshot now) (.refl _)
  | snapshotReady tenantId datasetId snapshotId manifest nodeCount edgeCount generatedAt =>
    exact others snapshotsKept_building (.refl _)
  | snapshotFailed tenantId datasetId snapshotId failureCode now => exact others snapshotsKept_building (.refl _)
  | ensureRun newRunId newLinkId tenantId run now =>
    exact others still (ensureDatasetSemanticLinkRun_readyKept workers.owner workers.store newRunId newLinkId tenantId
      run now)
  | recover tenantId claimedBefore now allowed =>
    exact others still (recoverStaleRuns_readyKept workers.store tenantId claimedBefore now allowed)
  | revive tenantId runId now => exact others still (.refl _)
  | markStale tenantId datasetId now => exact others still (readyKept_stale now)
  | claim worker tenantId locked claimedAt allowed =>
    have links := claimReadyRunForDatasets_links workers.store tenantId locked claimedAt allowed
    rw [LinkWorkers.perform]
    split
    · split
      · rename_i same
        rw [same] at links
        exact others still (by rw [links]; exact .refl _)
      · rename_i run store same
        rw [same] at links
        refine moved (by rw [links]; exact (ReadyKept.refl _).lasting) (by rw [links]; exact sound.links) ?_
        rw [processClaimed]
        split
        · trivial
        · split <;> trivial
    · exact sound
  | call worker newId now availableAt =>
    rcases call_sound sound newId now availableAt (sound.phases worker) with ⟨lasting, ready⟩
    exact moved lasting ready (call_known newId now availableAt (sound.phases worker))

/-- Of the steps only a call that marks a build ready takes the readiness of a link. -/
theorem perform_readyKept (step : WorkersStep)
    (other : ∀ worker newId now availableAt run build graph, step = .call worker newId now availableAt →
      workers.phases worker ≠ .markReady run build graph) :
    ReadyKept workers.store.links (workers.perform config step).store.links := by
  cases step with
  | ensureRun newRunId newLinkId tenantId run now =>
    exact ensureDatasetSemanticLinkRun_readyKept workers.owner workers.store newRunId newLinkId tenantId run now
  | recover tenantId claimedBefore now allowed =>
    exact recoverStaleRuns_readyKept workers.store tenantId claimedBefore now allowed
  | markStale tenantId datasetId now => exact readyKept_stale now
  | claim worker tenantId locked claimedAt allowed =>
    have links := claimReadyRunForDatasets_links workers.store tenantId locked claimedAt allowed
    rw [LinkWorkers.perform]
    split
    · split
      all_goals
        rename_i same
        rw [same] at links
        simp only at links
        rw [links]
        exact .refl _
    · exact .refl _
  | call worker newId now availableAt =>
    exact call_readyKept newId now availableAt fun run build graph => other worker newId now availableAt run build graph rfl
  | _ => exact .refl _

/-- No ready snapshot of the dataset is newer than its latest one. -/
theorem not_newerSnapshot {snapshots : SnapshotTable} {datasetId : DatasetId} {first second : Uuid}
    (endpoint : ReadyEndpoint snapshots tenantId datasetId first)
    (latest : ∃ row, loadLatestReady snapshots tenantId datasetId = some row ∧ row.id = second) :
    ¬ NewerSnapshot snapshots first second := by
  intro newer
  rcases newer with ⟨above, listed, below, also, aboveId, belowId, before⟩
  rcases endpoint with ⟨row, member, same, ready⟩
  rcases latest with ⟨last, found, lastId⟩
  have lastListed : last ∈ snapshots.rows := List.mem_of_mem_filter (firstBy_mem found)
  have one : above = row := snapshots.identity_inj listed member (aboveId.trans same.symm)
  have two : below = last := snapshots.identity_inj also lastListed (belowId.trans lastId.symm)
  rw [one, two, loadLatestReady_first snapshots tenantId datasetId found member ready] at before
  cases before

theorem stillLatest_iff {snapshots : SnapshotTable} : stillLatest snapshots run = true ↔
    (∃ row, loadLatestReady snapshots run.tenantId run.leftDatasetId = some row ∧ row.id = run.leftSnapshotId) ∧
      ∃ row, loadLatestReady snapshots run.tenantId run.rightDatasetId = some row ∧ row.id = run.rightSnapshotId := by
  simp only [stillLatest, Bool.and_eq_true, Option.any_eq_true, decide_eq_true_eq]

/-- A link that a build of current snapshots could supersede is not newer than the build. -/
theorem not_builtFromNewer {link : DatasetSemanticLinkSnapshot} (sound : LinkSound workers.snapshots link)
    (latest : stillLatest workers.snapshots run = true) (built : BuiltFor run build)
    (canonical : canonicalDatasetSemanticLinkDatasetPair run.leftDatasetId run.rightDatasetId = .ok pair)
    (paired : onPair run.tenantId pair link = true) : ¬ BuiltFromNewer workers.snapshots link build := by
  intro newer
  rcases of_decide_eq_true paired with ⟨tenant, left, right⟩
  rw [LinkSound, tenant, left, right] at sound
  have sides := BuiltFor.sides (fun datasetId id => ∃ row,
    loadLatestReady workers.snapshots run.tenantId datasetId = some row ∧ row.id = id) built
    (stillLatest_iff.mp latest).1 (stillLatest_iff.mp latest).2 canonical
  rcases newer.2.2 with leftNewer | rightNewer
  · exact not_newerSnapshot sound.1 sides.1 leftNewer
  · exact not_newerSnapshot sound.2 sides.2 rightNewer

theorem newerKept_of_latest (sound : Sound workers) {step : WorkersStep} (latest : LatestWhenReady workers step) :
    NewerKept config workers step := by
  intro link member build inside ready together newer finishes
  by_cases marks : ∃ worker newId now availableAt run taken graph, step = .call worker newId now availableAt ∧
      workers.phases worker = .markReady run taken graph
  · rcases marks with ⟨worker, newId, now, availableAt, run, taken, graph, rfl, phase⟩
    have known := sound.phases worker
    rw [phase] at known
    have links : (workers.perform config (.call worker newId now availableAt)).store.links =
        (markReady workers.store run.tenantId run.leftDatasetId run.rightDatasetId taken.id graph.manifest
          graph.nodeCount graph.edgeCount now).2.links := by
      rw [LinkWorkers.perform, phase, call]
      dsimp only
      split
      all_goals
        rename_i same
        rw [same]
    rw [Finishes, links] at finishes
    rw [links]
    rcases markReady_cases workers.store run.tenantId run.leftDatasetId run.rightDatasetId taken.id graph.manifest
      graph.nodeCount graph.edgeCount now with same | ⟨pair, row, canonical, listed, paired, same, building, moved⟩
    · rw [same]
      exact ⟨link, member, rfl, ready⟩
    · rw [moved] at finishes
      rcases finishes with ⟨unready, after, found, identity, risen⟩
      have one : row = build := by
        rcases ready_after_markReady listed same found risen with ⟨old, before, kept, earlier⟩ | made
        · have self : old = build := workers.store.links.identity_inj before inside (kept.id.symm.trans identity)
          exact absurd (self ▸ earlier) unready
        · exact workers.store.links.identity_inj listed inside (made.id.symm.trans identity)
      rcases known.2 with ⟨begun, begunListed, begunId, built⟩
      have two : begun = build :=
        (workers.store.links.identity_inj begunListed listed (begunId.trans same.symm)).trans one
      have linkPaired : onPair run.tenantId pair link = true := by
        rcases together with ⟨tenant, left, right⟩
        rw [onPair, tenant, left, right, ← one]
        exact paired
      simp only [LatestWhenReady, latestWhenReady, phase] at latest
      exact absurd newer (not_builtFromNewer (sound.links link member ready) latest (two ▸ built) canonical linkPaired)
  · have kept := @perform_readyKept config workers step fun worker newId now availableAt run taken graph same phase =>
      marks ⟨worker, newId, now, availableAt, run, taken, graph, same, phase⟩
    rcases kept.forth link member with ⟨new, found, same, still⟩
    exact ⟨new, found, same.id, still ready⟩

/-- In any interleaving of any number of workers, if a build is marked ready only while its dataset snapshots are
still the latest ready ones, no build supersedes a ready link from newer snapshots. -/
theorem newer_links_kept (config : WorkerConfig) (steps : List WorkersStep)
    (latest : Guarded (LinkWorkers.perform config) LatestWhenReady .empty steps) :
    Guarded (LinkWorkers.perform config) (NewerKept config) .empty steps := by
  intro earlier step before
  have sound : Sound (earlier.foldl (LinkWorkers.perform config) .empty) :=
    @foldl_invariant _ _ (LinkWorkers.perform config) _ Sound (fun _ step held => perform_sound held step)
      sound_empty earlier
  exact newerKept_of_latest sound (latest earlier step before)

/-- A short digest. -/
def sampleDigest (text : String) : List UInt8 := (utf8 text).take 2

def sampleConfig : WorkerConfig where
  sha256 := sampleDigest
  parseUuid text := some ⟨text⟩
  enabled := true
  tenantAllowlist := some "tenant"
  datasetAllowlist := some "a,b"
  buildGraph _ _ _ := some ⟨json [], 0, 0⟩

/-- A snapshot of a dataset is begun and becomes ready. -/
def readySnapshotSteps (dataset snapshot fingerprint : String) (now : DateTime) : List WorkersStep := [
  .beginSnapshot ⟨snapshot⟩ ⟨"tenant"⟩ ⟨⟨dataset⟩, "1", "1", fingerprint, json [], 0, 0, 0⟩ now,
  .snapshotReady ⟨"tenant"⟩ ⟨dataset⟩ ⟨snapshot⟩ (json []) 0 0 now]

/-- The run of two snapshots is ensured and claimed by a worker. -/
def claimedRunSteps (worker : Nat) (left right leftFingerprint rightFingerprint runId linkId : String) (now : DateTime) :
    List WorkersStep := [
  .ensureRun ⟨runId⟩ ⟨linkId⟩ ⟨"tenant"⟩
    (newRun now ⟨⟨⟨"a"⟩, ⟨"b"⟩⟩, ⟨left⟩, ⟨right⟩⟩ (linkDigest sampleDigest ⟨⟨⟨"a"⟩, ⟨"b"⟩⟩, ⟨left⟩, ⟨right⟩⟩ leftFingerprint
      rightFingerprint)) now,
  .claim worker ⟨"tenant"⟩ [] now [⟨"a"⟩, ⟨"b"⟩]]

def calls (worker count : Nat) (now : DateTime) : List WorkersStep :=
  List.replicate count (.call worker ⟨"unused"⟩ now now)

/-- A first worker has checked its build and is about to mark it ready. -/
def firstWorker : List WorkersStep :=
  readySnapshotSteps "a" "a1" "f1" 1 ++ readySnapshotSteps "b" "b1" "g1" 1 ++
    claimedRunSteps 1 "a1" "b1" "f1" "g1" "run 1" "link 1" 2 ++ calls 1 8 3

/-- A second worker builds the link of a newer snapshot. -/
def secondWorker : List WorkersStep :=
  readySnapshotSteps "a" "a2" "f2" 4 ++ claimedRunSteps 2 "a2" "b1" "f2" "g1" "run 2" "link 2" 5 ++ calls 2 9 6

theorem newer_links_kept_sequential :
    Guarded (LinkWorkers.perform sampleConfig) (NewerKept sampleConfig) .empty
      (firstWorker ++ calls 1 2 3 ++ secondWorker) :=
  newer_links_kept sampleConfig _ (by decide +kernel)

/-- A newer link that became ready after the check is superseded by the older one. -/
theorem newer_link_superseded :
    ¬ Guarded (LinkWorkers.perform sampleConfig) (NewerKept sampleConfig) .empty
      (firstWorker ++ secondWorker ++ calls 1 1 7) := by
  intro kept
  have lost : ¬ NewerKept sampleConfig ((firstWorker ++ secondWorker).foldl (LinkWorkers.perform sampleConfig) .empty)
      (.call 1 ⟨"unused"⟩ 7 7) := by decide +kernel
  exact lost (kept (firstWorker ++ secondWorker) _ List.prefix_rfl)

end DataMax.SemanticLink
