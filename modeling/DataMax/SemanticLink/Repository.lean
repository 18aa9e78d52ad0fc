import DataMax.SemanticLink.Records

/-! The statements of the link repository, each one atomic. An error leaves the
store as it was. -/

namespace DataMax.SemanticLink

open Domain Json Library

abbrev Outcome (Result : Type) : Type := Except StorageError Result × LinkStore

/-- The dataset snapshots that the foreign keys refer to: a snapshot belongs to
one dataset of one tenant. -/
abbrev SnapshotOwner : Type := Uuid → Option (TenantId × DatasetId)

def referenced (owner : SnapshotOwner) (tenantId : TenantId) (pair : LinkPair) : Bool :=
  owner pair.leftSnapshotId = some (tenantId, pair.leftDatasetId) ∧
    owner pair.rightSnapshotId = some (tenantId, pair.rightDatasetId)

def refusal (referenced : Bool) : StorageError :=
  if referenced then .uniqueViolation else .foreignKeyViolation

section Snapshots

variable (store : LinkStore) (tenantId : TenantId)

def buildingLink (newId : Uuid) (pair : LinkPair) (snapshot : NewDatasetSemanticLinkSnapshot)
    (now : DateTime) : DatasetSemanticLinkSnapshot where
  id := newId
  tenantId := tenantId
  leftDatasetId := pair.leftDatasetId
  rightDatasetId := pair.rightDatasetId
  leftSnapshotId := pair.leftSnapshotId
  rightSnapshotId := pair.rightSnapshotId
  schemaVersion := trim snapshot.schemaVersion
  generationVersion := trim snapshot.generationVersion
  sourceFingerprint := trim snapshot.sourceFingerprint
  status := .building
  manifest := snapshot.manifest
  nodeCount := 0
  edgeCount := 0
  failureCode := none
  generatedAt := none
  createdAt := now
  updatedAt := now

def becomeBuilding (snapshot : NewDatasetSemanticLinkSnapshot) (now : DateTime) : Change linkSchema where
  apply link := { link with
    schemaVersion := trim snapshot.schemaVersion
    sourceFingerprint := trim snapshot.sourceFingerprint
    status := .building
    manifest := snapshot.manifest
    nodeCount := 0
    edgeCount := 0
    failureCode := none
    generatedAt := none
    updatedAt := now }

def isEnded (link : DatasetSemanticLinkSnapshot) : Bool :=
  link.status = .failed ∨ link.status = .superseded

def tryBeginBuild (owner : SnapshotOwner) (newId : Uuid) (snapshot : NewDatasetSemanticLinkSnapshot)
    (now : DateTime) : Outcome (Option DatasetSemanticLinkSnapshot) :=
  match validateDatasetSemanticLinkManifest snapshot.manifest with
  | .error error => (.error error, store)
  | .ok () => match canonicalDatasetSemanticLinkPair snapshot.leftDatasetId snapshot.rightDatasetId
      snapshot.leftSnapshotId snapshot.rightSnapshotId with
    | .error error => (.error error, store)
    | .ok pair => match store.links.insertOrUpdate (buildingLink tenantId newId pair snapshot now)
        (referenced owner tenantId pair) isEnded (becomeBuilding snapshot now) with
      | .refused => (.error (refusal (referenced owner tenantId pair)), store)
      | .skipped => (.ok none, store)
      | .updated links link => (.ok (some link), { store with links })
      | .inserted links link => (.ok (some link), { store with links })

def onPair (pair : DatasetPair) (link : DatasetSemanticLinkSnapshot) : Bool :=
  link.tenantId = tenantId ∧ link.leftDatasetId = pair.leftDatasetId ∧
    link.rightDatasetId = pair.rightDatasetId

def becomeReady (manifest : Value) (nodeCount edgeCount : Int) (generatedAt : DateTime) :
    Change linkSchema where
  apply link := { link with
    status := .ready
    manifest := manifest
    nodeCount := nodeCount
    edgeCount := edgeCount
    failureCode := none
    generatedAt := some generatedAt
    updatedAt := generatedAt }

def becomeSuperseded (now : DateTime) : Change linkSchema where
  apply link := { link with status := .superseded, updatedAt := now }

def becomeFailed (failureCode : String) (now : DateTime) : Change linkSchema where
  apply link := { link with status := .failed, failureCode := some failureCode, updatedAt := now }

/-- The link becomes ready and the links that were ready for the pair are superseded. -/
def markReady (leftDatasetId rightDatasetId : DatasetId) (linkSnapshotId : Uuid) (manifest : Value)
    (nodeCount edgeCount : Int) (generatedAt : DateTime) : Outcome (Option DatasetSemanticLinkSnapshot) :=
  match validateDatasetSemanticLinkReadyPayload manifest nodeCount edgeCount with
  | .error error => (.error error, store)
  | .ok () => match canonicalDatasetSemanticLinkDatasetPair leftDatasetId rightDatasetId with
    | .error error => (.error error, store)
    | .ok pair =>
      let building := fun link => onPair tenantId pair link ∧ link.id = linkSnapshotId ∧
        link.status = .building
      let ready := becomeReady manifest nodeCount edgeCount generatedAt
      match (store.links.returning building ready).head? with
      | none => (.ok none, store)
      | some link =>
        let previous := fun link => onPair tenantId pair link ∧ link.id ≠ linkSnapshotId ∧
          link.status = .ready
        (.ok (some link), { store with
          links := (store.links.update building ready).update previous (becomeSuperseded generatedAt) })

def markFailed (leftDatasetId rightDatasetId : DatasetId) (linkSnapshotId : Uuid) (failureCode : String)
    (now : DateTime) : Outcome (Option DatasetSemanticLinkSnapshot) :=
  match canonicalDatasetSemanticLinkDatasetPair leftDatasetId rightDatasetId with
  | .error error => (.error error, store)
  | .ok pair =>
    let building := fun link => onPair tenantId pair link ∧ link.id = linkSnapshotId ∧
      link.status = .building
    let failed := becomeFailed (trim failureCode) now
    (.ok (store.links.returning building failed).head?,
      { store with links := store.links.update building failed })

/-- The builds of a run's snapshots, of any generation. -/
def buildOfRun (run : DatasetSemanticLinkRun) (link : DatasetSemanticLinkSnapshot) : Bool :=
  link.tenantId = tenantId ∧ link.leftDatasetId = run.leftDatasetId ∧
    link.rightDatasetId = run.rightDatasetId ∧ link.leftSnapshotId = run.leftSnapshotId ∧
    link.rightSnapshotId = run.rightSnapshotId ∧ link.status = .building

def failBuildForRun (links : Table linkSchema) (run : DatasetSemanticLinkRun) (failureCode : String)
    (now : DateTime) : Table linkSchema :=
  links.update (buildOfRun tenantId run) (becomeFailed failureCode now)

def becomeStale (now : DateTime) : Change linkSchema where
  apply link := { link with manifest := link.manifest.jsonbSet "stale" (.bool true), updatedAt := now }

def markPairReadyStale (links : Table linkSchema) (pair : DatasetPair) (now : DateTime) : Table linkSchema :=
  links.update (fun link => onPair tenantId pair link ∧ link.status = .ready) (becomeStale now)

def markReadyLinksStaleForDataset (datasetId : DatasetId) (now : DateTime) : LinkStore :=
  { store with
    links := store.links.update (fun link => link.tenantId = tenantId ∧ link.status = .ready ∧
      (link.leftDatasetId = datasetId ∨ link.rightDatasetId = datasetId)) (becomeStale now) }

end Snapshots

section Runs

variable (store : LinkStore) (tenantId : TenantId)

def queuedRun (newId : Uuid) (pair : LinkPair) (run : NewDatasetSemanticLinkRun) (now : DateTime) :
    DatasetSemanticLinkRun where
  id := newId
  tenantId := tenantId
  leftDatasetId := pair.leftDatasetId
  rightDatasetId := pair.rightDatasetId
  leftSnapshotId := pair.leftSnapshotId
  rightSnapshotId := pair.rightSnapshotId
  generationVersion := trim run.generationVersion
  sourceFingerprint := trim run.sourceFingerprint
  status := .pending
  priority := run.priority
  attemptCount := 0
  maxAttempts := run.maxAttempts
  availableAt := run.availableAt
  claimedAt := none
  finishedAt := none
  failureCode := none
  createdAt := now
  updatedAt := now

def becomeMerged (run : NewDatasetSemanticLinkRun) (now : DateTime) : Change runSchema where
  apply existing := { existing with
    priority := min existing.priority run.priority
    maxAttempts := max existing.maxAttempts run.maxAttempts
    availableAt := if existing.status = .pending ∨ existing.status = .retryWait
      then min existing.availableAt run.availableAt else existing.availableAt
    updatedAt := now }

def createOrGetRun (owner : SnapshotOwner) (newId : Uuid) (run : NewDatasetSemanticLinkRun)
    (now : DateTime) : Outcome DatasetSemanticLinkRun :=
  if run.maxAttempts ≤ 0 then
    (.error (.message "dataset semantic link run max_attempts must be positive"), store)
  else match canonicalDatasetSemanticLinkPair run.leftDatasetId run.rightDatasetId run.leftSnapshotId
      run.rightSnapshotId with
    | .error error => (.error error, store)
    | .ok pair => match store.runs.insertOrUpdate (queuedRun tenantId newId pair run now)
        (referenced owner tenantId pair) (fun _ => true) (becomeMerged run now) with
      | .refused => (.error (refusal (referenced owner tenantId pair)), store)
      | .skipped => (.error (refusal (referenced owner tenantId pair)), store)
      | .updated runs existing => (.ok existing, { store with runs })
      | .inserted runs created => (.ok created, { store with runs })

def claimable (claimedAt : DateTime) (allowedDatasetIds : List DatasetId) (run : DatasetSemanticLinkRun) :
    Bool :=
  run.tenantId = tenantId ∧ (run.status = .pending ∨ run.status = .retryWait) ∧
    run.availableAt ≤ claimedAt ∧ run.attemptCount < run.maxAttempts ∧
    run.leftDatasetId ∈ allowedDatasetIds ∧ run.rightDatasetId ∈ allowedDatasetIds

/-- `order by priority asc, available_at asc, created_at asc, id asc`. -/
def claimedFirst (left right : DatasetSemanticLinkRun) : Bool :=
  left.priority < right.priority ∨ left.priority = right.priority ∧
    (left.availableAt < right.availableAt ∨ left.availableAt = right.availableAt ∧
      (left.createdAt < right.createdAt ∨ left.createdAt = right.createdAt ∧ left.id < right.id))

def becomeClaimed (claimedAt : DateTime) : Change runSchema where
  apply run := { run with
    status := .running
    attemptCount := run.attemptCount + 1
    claimedAt := some claimedAt
    finishedAt := none
    failureCode := none
    updatedAt := claimedAt }

/-- The rows other transactions hold locks on are skipped. -/
def claimReadyRunForDatasets (locked : List Uuid) (claimedAt : DateTime)
    (allowedDatasetIds : List DatasetId) : Option DatasetSemanticLinkRun × LinkStore :=
  if allowedDatasetIds = [] then (none, store)
  else match firstBy claimedFirst (store.runs.rows.filter fun run =>
      claimable tenantId claimedAt allowedDatasetIds run ∧ run.id ∉ locked) with
    | none => (none, store)
    | some next =>
      let selected := fun run : DatasetSemanticLinkRun => run.tenantId = tenantId ∧ run.id = next.id
      ((store.runs.returning selected (becomeClaimed claimedAt)).head?,
        { store with runs := store.runs.update selected (becomeClaimed claimedAt) })

def isRunning (runId : Uuid) (run : DatasetSemanticLinkRun) : Bool :=
  run.tenantId = tenantId ∧ run.id = runId ∧ run.status = .running

def becomeDeferred (availableAt now : DateTime) : Change runSchema where
  apply run := { run with
    status := .retryWait
    attemptCount := max (run.attemptCount - 1) 0
    availableAt := availableAt
    claimedAt := none
    finishedAt := none
    failureCode := none
    updatedAt := now }

def deferRunWithoutAttempt (runId : Uuid) (availableAt now : DateTime) :
    Option DatasetSemanticLinkRun × LinkStore :=
  ((store.runs.returning (isRunning tenantId runId) (becomeDeferred availableAt now)).head?,
    { store with
      runs := store.runs.update (isRunning tenantId runId) (becomeDeferred availableAt now) })

/-- A run that has failed waits for another attempt while it has attempts left. -/
def becomeFailedAttempt (failureCode : String) (availableAt now : DateTime) : Change runSchema where
  apply run := { run with
    status := if run.maxAttempts ≤ run.attemptCount then .deadLetter else .retryWait
    availableAt := availableAt
    claimedAt := none
    finishedAt := if run.maxAttempts ≤ run.attemptCount then some now else none
    failureCode := some failureCode
    updatedAt := now }

def isStale (claimedBefore : DateTime) (allowedDatasetIds : List DatasetId) (run : DatasetSemanticLinkRun) :
    Bool :=
  run.tenantId = tenantId ∧ run.status = .running ∧ run.claimedAt.any (· ≤ claimedBefore) ∧
    run.leftDatasetId ∈ allowedDatasetIds ∧ run.rightDatasetId ∈ allowedDatasetIds

/-- The builds of a recovered run fail; if there were any, the ready links of
its pair are marked stale. -/
def failRecoveredBuild (now : DateTime) (links : Table linkSchema) (run : DatasetSemanticLinkRun) :
    Table linkSchema :=
  let failed := failBuildForRun tenantId links run "worker_lease_expired" now
  if links.rows.any (buildOfRun tenantId run) then
    markPairReadyStale tenantId failed ⟨run.leftDatasetId, run.rightDatasetId⟩ now
  else failed

def recoverStaleRuns (claimedBefore now : DateTime) (allowedDatasetIds : List DatasetId) :
    List DatasetSemanticLinkRun × LinkStore :=
  if allowedDatasetIds = [] then ([], store)
  else
    let stale := isStale tenantId claimedBefore allowedDatasetIds
    let expired := becomeFailedAttempt "worker_lease_expired" now now
    let runs := store.runs.returning stale expired
    (runs, ⟨runs.foldl (failRecoveredBuild tenantId now) store.links, store.runs.update stale expired⟩)

def becomeRevived (now : DateTime) : Change runSchema where
  apply run := { run with
    status := .pending
    attemptCount := 0
    availableAt := now
    claimedAt := none
    finishedAt := none
    failureCode := none
    updatedAt := now }

def reviveDeadLetterRun (runId : Uuid) (now : DateTime) : Option DatasetSemanticLinkRun × LinkStore :=
  let dead := fun run : DatasetSemanticLinkRun => run.tenantId = tenantId ∧ run.id = runId ∧
    run.status = .deadLetter
  ((store.runs.returning dead (becomeRevived now)).head?,
    { store with runs := store.runs.update dead (becomeRevived now) })

def tenantMismatch : StorageError := .message "dataset semantic link run tenant mismatch"

def retryOrDeadLetter (run : DatasetSemanticLinkRun) (failureCode : String) (availableAt now : DateTime) :
    Outcome (Option DatasetSemanticLinkRun) :=
  if run.tenantId ≠ tenantId then (.error tenantMismatch, store)
  else
    let failed := becomeFailedAttempt (trim failureCode) availableAt now
    let transitioned := (store.runs.returning (isRunning tenantId run.id) failed).head?
    (.ok transitioned, {
      runs := store.runs.update (isRunning tenantId run.id) failed
      links := if transitioned.any (·.status = .deadLetter)
        then failBuildForRun tenantId store.links run (trim failureCode) now else store.links })

def becomeSucceeded (finishedAt : DateTime) : Change runSchema where
  apply run := { run with
    status := .succeeded
    finishedAt := some finishedAt
    failureCode := none
    updatedAt := finishedAt }

def markRunSucceeded (runId : Uuid) (finishedAt : DateTime) : Option DatasetSemanticLinkRun × LinkStore :=
  ((store.runs.returning (isRunning tenantId runId) (becomeSucceeded finishedAt)).head?,
    { store with runs := store.runs.update (isRunning tenantId runId) (becomeSucceeded finishedAt) })

def markObsoleteRunSucceeded (run : DatasetSemanticLinkRun) (failureCode : String) (finishedAt : DateTime) :
    Outcome (Option DatasetSemanticLinkRun) :=
  if run.tenantId ≠ tenantId then (.error tenantMismatch, store)
  else
    let (transitioned, succeeded) := markRunSucceeded store tenantId run.id finishedAt
    (.ok transitioned, if transitioned.isSome
      then { succeeded with
        links := failBuildForRun tenantId succeeded.links run (trim failureCode) finishedAt }
      else succeeded)

end Runs

/-- The link snapshot an ensured run is announced with. -/
def announcedSnapshot (run : NewDatasetSemanticLinkRun) : NewDatasetSemanticLinkSnapshot where
  leftDatasetId := run.leftDatasetId
  rightDatasetId := run.rightDatasetId
  leftSnapshotId := run.leftSnapshotId
  rightSnapshotId := run.rightSnapshotId
  schemaVersion := "1.0.0"
  generationVersion := run.generationVersion
  sourceFingerprint := run.sourceFingerprint
  manifest := json []

/-- A run that is not dead also gets a snapshot that is being built. -/
def ensureDatasetSemanticLinkRun (store : LinkStore) (owner : SnapshotOwner) (newRunId newLinkId : Uuid)
    (tenantId : TenantId) (run : NewDatasetSemanticLinkRun) (now : DateTime) :
    Outcome DatasetSemanticLinkRun :=
  match createOrGetRun store tenantId owner newRunId run now with
  | (.error error, created) => (.error error, created)
  | (.ok persisted, created) =>
    if persisted.status = .deadLetter then (.ok persisted, created)
    else match tryBeginBuild created tenantId owner newLinkId (announcedSnapshot run) now with
      | (.error error, begun) => (.error error, begun)
      | (.ok _, begun) => (.ok persisted, begun)

end DataMax.SemanticLink
