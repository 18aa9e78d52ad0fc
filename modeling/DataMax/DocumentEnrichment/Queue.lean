import DataMax.Domain.Identifier
import DataMax.Json.Value
import DataMax.Library.Table

/-! The queue of the runs that enrich documents, with the workers that claim runs and report
on them later. The reports select a run by its id and compare nothing else. -/

namespace DataMax.DocumentEnrichment

open Domain Json Library

abbrev DocumentId := Uuid
abbrev EnrichmentRunId := Uuid

inductive EnrichmentStatus where
  | pending
  | running
  | succeeded
  | failed
  deriving DecidableEq

structure NewDocumentEnrichmentRun where
  documentId : DocumentId
  enrichmentKind : String
  parseVersion : Option String
  inputFingerprint : String
  priority : Int
  maxAttempts : Int
  availableAt : DateTime

structure DocumentEnrichmentRun where
  id : EnrichmentRunId
  tenantId : TenantId
  documentId : DocumentId
  enrichmentKind : String
  parseVersion : Option String
  inputFingerprint : String
  status : EnrichmentStatus
  priority : Int
  attemptCount : Int
  maxAttempts : Int
  availableAt : DateTime
  startedAt : Option DateTime
  finishedAt : Option DateTime
  errorMessage : Option String
  outputSummary : Value
  createdAt : DateTime
  updatedAt : DateTime

/-- What there is one run for. -/
structure EnrichmentInput where
  tenantId : TenantId
  documentId : DocumentId
  enrichmentKind : String
  inputFingerprint : String
  deriving DecidableEq

def DocumentEnrichmentRun.input (run : DocumentEnrichmentRun) : EnrichmentInput :=
  ⟨run.tenantId, run.documentId, run.enrichmentKind, run.inputFingerprint⟩

def enrichmentSchema : Schema DocumentEnrichmentRun EnrichmentRunId EnrichmentInput where
  identity := DocumentEnrichmentRun.id
  key := DocumentEnrichmentRun.input

abbrev EnrichmentTable := Table enrichmentSchema

section Repository

variable (runs : EnrichmentTable) (tenantId : TenantId)

def pendingRun (newId : EnrichmentRunId) (newRun : NewDocumentEnrichmentRun) (createdAt : DateTime) :
    DocumentEnrichmentRun where
  id := newId
  tenantId := tenantId
  documentId := newRun.documentId
  enrichmentKind := newRun.enrichmentKind
  parseVersion := newRun.parseVersion
  inputFingerprint := newRun.inputFingerprint
  status := .pending
  priority := newRun.priority
  attemptCount := 0
  maxAttempts := newRun.maxAttempts
  availableAt := newRun.availableAt
  startedAt := none
  finishedAt := none
  errorMessage := none
  outputSummary := .ofMap .empty
  createdAt := createdAt
  updatedAt := createdAt

def becomeMerged (newRun : NewDocumentEnrichmentRun) (createdAt : DateTime) : Change enrichmentSchema where
  apply run := { run with
    priority := min run.priority newRun.priority
    maxAttempts := max run.maxAttempts newRun.maxAttempts
    availableAt := min run.availableAt newRun.availableAt
    parseVersion := newRun.parseVersion.or run.parseVersion
    updatedAt := createdAt }

/-- `documentExists` is the foreign key to the documents. -/
def createOrGet (documentExists : DocumentId → Bool) (newId : EnrichmentRunId)
    (newRun : NewDocumentEnrichmentRun) (createdAt : DateTime) : Option DocumentEnrichmentRun × EnrichmentTable :=
  match runs.insertOrUpdate (pendingRun tenantId newId newRun createdAt) (documentExists newRun.documentId)
      (fun _ => true) (becomeMerged newRun createdAt) with
  | .refused | .skipped => (none, runs)
  | .updated merged run => (some run, merged)
  | .inserted created run => (some run, created)

def isClaimable (enrichmentKind : Option String) (claimedAt : DateTime) (run : DocumentEnrichmentRun) : Bool :=
  run.tenantId = tenantId ∧ run.status = .pending ∧ run.availableAt ≤ claimedAt ∧ run.attemptCount < run.maxAttempts ∧
    (enrichmentKind = none ∨ enrichmentKind = some run.enrichmentKind)

/-- `order by priority asc, available_at asc, created_at asc, id asc`. -/
def claimedFirst (left right : DocumentEnrichmentRun) : Bool :=
  left.priority < right.priority ∨ left.priority = right.priority ∧
    (left.availableAt < right.availableAt ∨ left.availableAt = right.availableAt ∧
      (left.createdAt < right.createdAt ∨ left.createdAt = right.createdAt ∧ left.id < right.id))

def becomeRunning (claimedAt : DateTime) : Change enrichmentSchema where
  apply run := { run with
    status := .running
    attemptCount := run.attemptCount + 1
    startedAt := some claimedAt
    errorMessage := none
    updatedAt := claimedAt }

/-- The rows other transactions hold locks on are skipped. -/
def claimNextAvailable (locked : List EnrichmentRunId) (enrichmentKind : Option String) (claimedAt : DateTime) :
    Option DocumentEnrichmentRun × EnrichmentTable :=
  match firstBy claimedFirst (runs.rows.filter fun run =>
      isClaimable tenantId enrichmentKind claimedAt run ∧ run.id ∉ locked) with
  | none => (none, runs)
  | some next =>
    let selected := fun run : DocumentEnrichmentRun => decide (run.id = next.id)
    ((runs.returning selected (becomeRunning claimedAt)).head?, runs.update selected (becomeRunning claimedAt))

/-- What a worker reports on a run that it has claimed. -/
inductive EnrichmentReport where
  | succeeded (outputSummary : Value) (finishedAt : DateTime)
  | requeued (errorMessage : String) (availableAt updatedAt : DateTime)
  | failed (errorMessage : String) (finishedAt : DateTime)

def becomeReported : EnrichmentReport → Change enrichmentSchema
  | .succeeded outputSummary finishedAt => {
    apply := fun run => { run with
      status := .succeeded, finishedAt := some finishedAt, errorMessage := none, outputSummary := outputSummary
      updatedAt := finishedAt } }
  | .requeued errorMessage availableAt updatedAt => {
    apply := fun run => { run with
      status := if run.maxAttempts ≤ run.attemptCount then .failed else .pending
      availableAt := availableAt
      finishedAt := if run.maxAttempts ≤ run.attemptCount then some updatedAt else none
      errorMessage := some errorMessage
      updatedAt := updatedAt } }
  | .failed errorMessage finishedAt => {
    apply := fun run => { run with
      status := .failed, finishedAt := some finishedAt, errorMessage := some errorMessage, updatedAt := finishedAt } }

def reportRun (runId : EnrichmentRunId) (report : EnrichmentReport) : Option DocumentEnrichmentRun × EnrichmentTable :=
  let selected := fun run : DocumentEnrichmentRun => decide (run.tenantId = tenantId ∧ run.id = runId)
  ((runs.returning selected (becomeReported report)).head?, runs.update selected (becomeReported report))

def markSucceeded (runId : EnrichmentRunId) (outputSummary : Value) (finishedAt : DateTime) :
    Option DocumentEnrichmentRun × EnrichmentTable :=
  reportRun runs tenantId runId (.succeeded outputSummary finishedAt)

def requeueAfterError (runId : EnrichmentRunId) (errorMessage : String) (availableAt updatedAt : DateTime) :
    Option DocumentEnrichmentRun × EnrichmentTable :=
  reportRun runs tenantId runId (.requeued errorMessage availableAt updatedAt)

def markFailed (runId : EnrichmentRunId) (errorMessage : String) (finishedAt : DateTime) :
    Option DocumentEnrichmentRun × EnrichmentTable :=
  reportRun runs tenantId runId (.failed errorMessage finishedAt)

end Repository

/-- A claim that its worker has not reported on. -/
structure EnrichmentClaim where
  worker : Nat
  tenantId : TenantId
  runId : EnrichmentRunId

/-- The table, the claims that are not reported on, and the run of each claim ever made. -/
structure EnrichmentQueue where
  runs : EnrichmentTable
  unreported : List EnrichmentClaim
  claimed : List EnrichmentRunId

inductive EnrichmentOperation where
  | createOrGet (tenantId : TenantId) (newId : EnrichmentRunId) (newRun : NewDocumentEnrichmentRun)
      (createdAt : DateTime)
  | claim (worker : Nat) (tenantId : TenantId) (locked : List EnrichmentRunId) (enrichmentKind : Option String)
      (claimedAt : DateTime)
  | report (claim : Nat) (report : EnrichmentReport)

namespace EnrichmentQueue

def empty : EnrichmentQueue := ⟨.empty, [], []⟩

/-- Each worker reports on a claim of its own, and once. -/
def perform (documentExists : DocumentId → Bool) (queue : EnrichmentQueue) : EnrichmentOperation → EnrichmentQueue
  | .createOrGet tenantId newId newRun createdAt =>
    { queue with runs := (DocumentEnrichment.createOrGet queue.runs tenantId documentExists newId newRun createdAt).2 }
  | .claim worker tenantId locked enrichmentKind claimedAt =>
    match claimNextAvailable queue.runs tenantId locked enrichmentKind claimedAt with
    | (none, runs) => { queue with runs }
    | (some run, runs) =>
      { runs, unreported := queue.unreported ++ [⟨worker, tenantId, run.id⟩], claimed := queue.claimed ++ [run.id] }
  | .report claim report => match queue.unreported[claim]? with
    | none => queue
    | some held => { queue with
        runs := (reportRun queue.runs held.tenantId held.runId report).2
        unreported := queue.unreported.eraseIdx claim }

end EnrichmentQueue

end DataMax.DocumentEnrichment
