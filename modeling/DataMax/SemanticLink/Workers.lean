import DataMax.SemanticLink.Planning

/-! Any number of workers on the link store and the dataset snapshots. Each call of the repositories is one step, and
what a worker has read before is kept with the call that it makes next. -/

namespace DataMax.SemanticLink

open Domain Json Library SemanticSnapshot

def datasetSemanticGraphSchemaVersion : String := "1.0.0"

def safeBuildFailureCode : String := "semantic_link_build_failed"

def safeInputStaleCode : String := "semantic_link_input_stale"

/-- The manifest of a graph and its numbers of nodes and edges. -/
structure BuiltGraph where
  manifest : Value
  nodeCount : Int
  edgeCount : Int

/-- What the workers take from their environment. `buildGraph` builds the graph of two ready snapshots and audits its
manifest. -/
structure WorkerConfig where
  sha256 : String → List UInt8
  parseUuid : String → Option Uuid
  enabled : Bool
  tenantAllowlist : Option String
  datasetAllowlist : Option String
  buildGraph : TenantId → DatasetSemanticSnapshot → DatasetSemanticSnapshot → Option BuiltGraph

def WorkerConfig.access (config : WorkerConfig) (tenantId : TenantId) (run : DatasetSemanticLinkRun) :
    DatasetCrossSemanticGraphAccess :=
  datasetCrossSemanticGraphAccessFromValues config.parseUuid config.enabled config.tenantAllowlist
    config.datasetAllowlist tenantId run.leftDatasetId run.rightDatasetId

/-- The repository call that a worker makes next. -/
inductive LinkPhase where
  | idle
  | deferRun (tenantId : TenantId) (run : DatasetSemanticLinkRun)
  | loadLeft (run : DatasetSemanticLinkRun)
  | loadRight (run : DatasetSemanticLinkRun) (left : DatasetSemanticSnapshot)
  | latestLeft (run : DatasetSemanticLinkRun) (left right : DatasetSemanticSnapshot)
  | latestRight (run : DatasetSemanticLinkRun) (left right leftLatest : DatasetSemanticSnapshot)
  | markObsolete (run : DatasetSemanticLinkRun)
  | beginBuild (run : DatasetSemanticLinkRun) (left right : DatasetSemanticSnapshot) (fingerprint : String)
  | loadByInputs (run : DatasetSemanticLinkRun) (left right : DatasetSemanticSnapshot)
  | recheckLeft (run : DatasetSemanticLinkRun) (left right : DatasetSemanticSnapshot)
      (build : DatasetSemanticLinkSnapshot) (graph : BuiltGraph)
  | recheckRight (run : DatasetSemanticLinkRun) (left right : DatasetSemanticSnapshot)
      (build : DatasetSemanticLinkSnapshot) (graph : BuiltGraph) (leftLatest : DatasetSemanticSnapshot)
  | markStale (run : DatasetSemanticLinkRun) (build : DatasetSemanticLinkSnapshot)
  | markReady (run : DatasetSemanticLinkRun) (build : DatasetSemanticLinkSnapshot) (graph : BuiltGraph)
  | markFailed (run : DatasetSemanticLinkRun) (build : DatasetSemanticLinkSnapshot)
  | markRunSucceeded (run : DatasetSemanticLinkRun) (required : Bool)
  | retry (run : DatasetSemanticLinkRun)

structure LinkWorkers where
  snapshots : SnapshotTable
  store : LinkStore
  phases : Nat → LinkPhase

def LinkWorkers.empty : LinkWorkers := ⟨.empty, .empty, fun _ => .idle⟩

/-- The dataset snapshots that the link store refers to. -/
def LinkWorkers.owner (workers : LinkWorkers) : SnapshotOwner := fun id =>
  (workers.snapshots.findIdentity id).map fun row => (row.tenantId, row.datasetId)

def loadByInputs (store : LinkStore) (tenantId : TenantId) (run : DatasetSemanticLinkRun)
    (generationVersion : String) : Except StorageError (Option DatasetSemanticLinkSnapshot) :=
  match canonicalDatasetSemanticLinkPair run.leftDatasetId run.rightDatasetId run.leftSnapshotId
      run.rightSnapshotId with
  | .error error => .error error
  | .ok pair => .ok (store.links.rows.find? fun link => onPair tenantId pair.toDatasetPair link ∧
      link.leftSnapshotId = pair.leftSnapshotId ∧ link.rightSnapshotId = pair.rightSnapshotId ∧
      link.generationVersion = trim generationVersion)

def newLinkSnapshot (run : DatasetSemanticLinkRun) (fingerprint : String) : NewDatasetSemanticLinkSnapshot where
  leftDatasetId := run.leftDatasetId
  rightDatasetId := run.rightDatasetId
  leftSnapshotId := run.leftSnapshotId
  rightSnapshotId := run.rightSnapshotId
  schemaVersion := datasetSemanticGraphSchemaVersion
  generationVersion := datasetSemanticGraphGenerationVersion
  sourceFingerprint := fingerprint
  manifest := json []

section Calls

variable (config : WorkerConfig)

/-- A claimed run is deferred if the rollout gate is closed for it, and processed otherwise. A run of another tenant
is neither processed nor retried. -/
def processClaimed (tenantId : TenantId) (run : DatasetSemanticLinkRun) : LinkPhase :=
  if !(config.access tenantId run).isAllowed then .deferRun tenantId run
  else if run.tenantId ≠ tenantId then .idle
  else .loadLeft run

/-- The run is validated after the latest ready snapshots of both datasets have been read. -/
def validateRun (run : DatasetSemanticLinkRun) (left right leftLatest rightLatest : DatasetSemanticSnapshot) :
    LinkPhase :=
  if !semanticLinkRunInputsAreCurrent run leftLatest rightLatest then .markObsolete run
  else match expectedFingerprint config.sha256 run left right with
    | none => .retry run
    | some fingerprint =>
      if run.generationVersion ≠ datasetSemanticGraphGenerationVersion ∨ run.sourceFingerprint ≠ fingerprint then
        .retry run
      else .beginBuild run left right fingerprint

/-- The graph is built between two calls. -/
def buildPhase (run : DatasetSemanticLinkRun) (left right : DatasetSemanticSnapshot)
    (build : DatasetSemanticLinkSnapshot) : LinkPhase :=
  match config.buildGraph run.tenantId left right with
  | none => .markFailed run build
  | some graph => .recheckLeft run left right build graph

/-- A build of the same inputs that is there already is taken over or, if it is ready, left as it is. -/
def existingPhase (run : DatasetSemanticLinkRun) (left right : DatasetSemanticSnapshot)
    (existing : DatasetSemanticLinkSnapshot) : LinkPhase :=
  let sameInputs := existing.leftSnapshotId = run.leftSnapshotId ∧ existing.rightSnapshotId = run.rightSnapshotId ∧
    existing.generationVersion = datasetSemanticGraphGenerationVersion ∧
    existing.sourceFingerprint = run.sourceFingerprint
  if existing.status = .ready ∧ sameInputs then .markRunSucceeded run false
  else if existing.status = .building ∧ sameInputs then buildPhase config run left right existing
  else .retry run

/-- The latest ready snapshots are read again before the build is marked ready. -/
def recheckedPhase (run : DatasetSemanticLinkRun) (left right : DatasetSemanticSnapshot)
    (build : DatasetSemanticLinkSnapshot) (graph : BuiltGraph)
    (leftLatest rightLatest : DatasetSemanticSnapshot) : LinkPhase :=
  if !semanticLinkRunInputsAreCurrent run leftLatest rightLatest ||
      leftLatest.sourceFingerprint ≠ left.sourceFingerprint ||
      rightLatest.sourceFingerprint ≠ right.sourceFingerprint then .markStale run build
  else .markReady run build graph

/-- One call of a worker: the store after it, and the call that follows. An error in the middle of a build marks it
failed, and every error ends in another attempt of the run or in its dead letter. -/
def call (workers : LinkWorkers) (newId : Uuid) (now availableAt : DateTime) : LinkPhase → LinkPhase × LinkStore
  | .idle => (.idle, workers.store)
  | .deferRun tenantId run => (.idle, (deferRunWithoutAttempt workers.store tenantId run.id availableAt now).2)
  | .loadLeft run => match loadReadyById workers.snapshots run.tenantId run.leftDatasetId run.leftSnapshotId with
    | none => (.retry run, workers.store)
    | some left => (.loadRight run left, workers.store)
  | .loadRight run left =>
    match loadReadyById workers.snapshots run.tenantId run.rightDatasetId run.rightSnapshotId with
    | none => (.retry run, workers.store)
    | some right => (.latestLeft run left right, workers.store)
  | .latestLeft run left right => match loadLatestReady workers.snapshots run.tenantId run.leftDatasetId with
    | none => (.retry run, workers.store)
    | some leftLatest => (.latestRight run left right leftLatest, workers.store)
  | .latestRight run left right leftLatest =>
    match loadLatestReady workers.snapshots run.tenantId run.rightDatasetId with
    | none => (.retry run, workers.store)
    | some rightLatest => (validateRun config run left right leftLatest rightLatest, workers.store)
  | .markObsolete run =>
    match markObsoleteRunSucceeded workers.store run.tenantId run safeInputStaleCode now with
    | (.ok (some _), store) => (.idle, store)
    | (_, store) => (.retry run, store)
  | .beginBuild run left right fingerprint =>
    match tryBeginBuild workers.store run.tenantId workers.owner newId (newLinkSnapshot run fingerprint) now with
    | (.error _, store) => (.retry run, store)
    | (.ok none, store) => (.loadByInputs run left right, store)
    | (.ok (some build), store) => (buildPhase config run left right build, store)
  | .loadByInputs run left right =>
    match loadByInputs workers.store run.tenantId run datasetSemanticGraphGenerationVersion with
    | .ok (some existing) => (existingPhase config run left right existing, workers.store)
    | _ => (.retry run, workers.store)
  | .recheckLeft run left right build graph =>
    match loadLatestReady workers.snapshots run.tenantId run.leftDatasetId with
    | none => (.markFailed run build, workers.store)
    | some leftLatest => (.recheckRight run left right build graph leftLatest, workers.store)
  | .recheckRight run left right build graph leftLatest =>
    match loadLatestReady workers.snapshots run.tenantId run.rightDatasetId with
    | none => (.markFailed run build, workers.store)
    | some rightLatest => (recheckedPhase run left right build graph leftLatest rightLatest, workers.store)
  | .markStale run build =>
    match SemanticLink.markFailed workers.store run.tenantId run.leftDatasetId run.rightDatasetId build.id
        safeInputStaleCode now with
    | (.ok (some _), store) => (.markRunSucceeded run true, store)
    | (_, store) => (.markFailed run build, store)
  | .markReady run build graph =>
    match SemanticLink.markReady workers.store run.tenantId run.leftDatasetId run.rightDatasetId build.id
        graph.manifest graph.nodeCount graph.edgeCount now with
    | (.ok (some _), store) => (.markRunSucceeded run true, store)
    | (_, store) => (.markFailed run build, store)
  | .markFailed run build =>
    (.retry run, (SemanticLink.markFailed workers.store run.tenantId run.leftDatasetId run.rightDatasetId build.id
      safeBuildFailureCode now).2)
  | .markRunSucceeded run required =>
    match SemanticLink.markRunSucceeded workers.store run.tenantId run.id now with
    | (some _, store) => (.idle, store)
    | (none, store) => (if required then .retry run else .idle, store)
  | .retry run =>
    (.idle, (retryOrDeadLetter workers.store run.tenantId run safeBuildFailureCode availableAt now).2)

/-- What can happen: dataset snapshots are built, the platform ensures and revives runs, leases expire, links are
marked stale, and workers claim runs and make their next calls. -/
inductive WorkersStep where
  | beginSnapshot (newId : Uuid) (tenantId : TenantId) (snapshot : NewDatasetSemanticSnapshot) (now : DateTime)
  | snapshotReady (tenantId : TenantId) (datasetId : DatasetId) (snapshotId : Uuid) (manifest : Value)
      (nodeCount edgeCount : Int) (generatedAt : DateTime)
  | snapshotFailed (tenantId : TenantId) (datasetId : DatasetId) (snapshotId : Uuid) (failureCode : String)
      (now : DateTime)
  | ensureRun (newRunId newLinkId : Uuid) (tenantId : TenantId) (run : NewDatasetSemanticLinkRun) (now : DateTime)
  | recover (tenantId : TenantId) (claimedBefore now : DateTime) (allowedDatasetIds : List DatasetId)
  | revive (tenantId : TenantId) (runId : Uuid) (now : DateTime)
  | markStale (tenantId : TenantId) (datasetId : DatasetId) (now : DateTime)
  | claim (worker : Nat) (tenantId : TenantId) (locked : List Uuid) (claimedAt : DateTime)
      (allowedDatasetIds : List DatasetId)
  | call (worker : Nat) (newId : Uuid) (now availableAt : DateTime)

def setPhase (phases : Nat → LinkPhase) (worker : Nat) (phase : LinkPhase) : Nat → LinkPhase :=
  fun other => if other = worker then phase else phases other

/-- A worker claims the next run when it is done with the one before. -/
def LinkWorkers.perform (workers : LinkWorkers) : WorkersStep → LinkWorkers
  | .beginSnapshot newId tenantId snapshot now => { workers with
      snapshots := (SemanticSnapshot.tryBeginBuild workers.snapshots tenantId newId snapshot now).2 }
  | .snapshotReady tenantId datasetId snapshotId manifest nodeCount edgeCount generatedAt => { workers with
      snapshots := (SemanticSnapshot.markReady workers.snapshots tenantId datasetId snapshotId manifest nodeCount
        edgeCount generatedAt).2 }
  | .snapshotFailed tenantId datasetId snapshotId failureCode now => { workers with
      snapshots := (SemanticSnapshot.markFailed workers.snapshots tenantId datasetId snapshotId failureCode now).2 }
  | .ensureRun newRunId newLinkId tenantId run now => { workers with
      store := (ensureDatasetSemanticLinkRun workers.store workers.owner newRunId newLinkId tenantId run now).2 }
  | .recover tenantId claimedBefore now allowed => { workers with
      store := (recoverStaleRuns workers.store tenantId claimedBefore now allowed).2 }
  | .revive tenantId runId now => { workers with
      store := (reviveDeadLetterRun workers.store tenantId runId now).2 }
  | .markStale tenantId datasetId now => { workers with
      store := markReadyLinksStaleForDataset workers.store tenantId datasetId now }
  | .claim worker tenantId locked claimedAt allowed => match workers.phases worker with
    | .idle => match claimReadyRunForDatasets workers.store tenantId locked claimedAt allowed with
      | (none, store) => { workers with store }
      | (some run, store) =>
        { workers with store, phases := setPhase workers.phases worker (processClaimed config tenantId run) }
    | _ => workers
  | .call worker newId now availableAt =>
    let (next, store) := call config workers newId now availableAt (workers.phases worker)
    { workers with store, phases := setPhase workers.phases worker next }

end Calls

end DataMax.SemanticLink
