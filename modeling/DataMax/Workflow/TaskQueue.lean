import DataMax.Library.Run
import DataMax.Library.Sorting
import DataMax.Library.Table
import DataMax.Workflow.Delivery

/-! The table of workflow tasks with the workers that claim tasks, report on them at any later time, and the sweep
over the tasks that were claimed too long ago. -/

namespace DataMax.Workflow

open Domain Json Library

abbrev taskSchema : Schema WorkflowTask WorkflowTaskId WorkflowTaskId where
  identity := WorkflowTask.id
  key := WorkflowTask.id

abbrev TaskTable := Table taskSchema

def isAvailable (queue : String) (taskKey : Option String) (claimedAt : DateTime) (task : WorkflowTask) : Bool :=
  task.queue = queue ∧ task.status = .queued ∧ task.availableAt ≤ claimedAt ∧
    (taskKey = none ∨ taskKey = some task.taskKey)

/-- `order by available_at asc, created_at asc`. -/
def availableFirst (left right : WorkflowTask) : Bool :=
  left.availableAt < right.availableAt ∨ left.availableAt = right.availableAt ∧ left.createdAt < right.createdAt

def becomeClaimedTask (claimedAt : DateTime) : Change taskSchema where
  apply task := { task with
    status := .claimed
    attempt := task.attempt + 1
    claimedAt := some claimedAt
    updatedAt := claimedAt
    error := none }

/-- The rows other transactions hold locks on are skipped. -/
def claimNextAvailable (tasks : TaskTable) (queue : String) (taskKey : Option String) (locked : List WorkflowTaskId)
    (claimedAt : DateTime) : Option WorkflowTask × TaskTable :=
  match firstBy availableFirst (tasks.rows.filter fun task =>
      isAvailable queue taskKey claimedAt task ∧ task.id ∉ locked) with
  | none => (none, tasks)
  | some next =>
    let selected := fun task : WorkflowTask => decide (task.id = next.id)
    ((tasks.returning selected (becomeClaimedTask claimedAt)).head?,
      tasks.update selected (becomeClaimedTask claimedAt))

def isStale (queue : String) (taskKey : Option String) (claimedBefore : DateTime) (task : WorkflowTask) : Bool :=
  task.queue = queue ∧ task.status = .claimed ∧ (task.claimedAt.any fun claimedAt => claimedAt < claimedBefore) ∧
    (taskKey = none ∨ taskKey = some task.taskKey)

/-- `order by claimed_at asc, created_at asc, id asc`. -/
def staleOrder : WorkflowTask → WorkflowTask → Ordering :=
  compareLex (compareOn fun task => task.claimedAt.getD 0)
    (compareLex (compareOn WorkflowTask.createdAt) (compareOn WorkflowTask.id))

def listStaleClaimed (tasks : TaskTable) (queue : String) (taskKey : Option String) (claimedBefore : DateTime)
    (limit : Int) : List WorkflowTask :=
  (sortBy staleOrder (tasks.rows.filter (isStale queue taskKey claimedBefore))).take (max limit 1).toNat

/-- What is written back about a task. -/
inductive TaskReport where
  | succeeded (finishedAt : DateTime)
  | failed (error : String) (finishedAt : DateTime)
  | requeued (error : String) (availableAt updatedAt : DateTime)
  | requeuedNonConsuming (error : String) (availableAt updatedAt : DateTime)

def TaskReport.requeues : TaskReport → Bool
  | .succeeded _ | .failed _ _ => false
  | .requeued _ _ _ | .requeuedNonConsuming _ _ _ => true

def becomeReported : TaskReport → Change taskSchema
  | .succeeded finishedAt => {
    apply := fun task => { task with
      status := .succeeded, finishedAt := some finishedAt, updatedAt := finishedAt, error := none } }
  | .failed error finishedAt => {
    apply := fun task => { task with
      status := .failed, finishedAt := some finishedAt, updatedAt := finishedAt, error := some error } }
  | .requeued error availableAt updatedAt => {
    apply := fun task => { task with
      status := .queued, availableAt := availableAt, claimedAt := none, finishedAt := none, updatedAt := updatedAt
      error := some error } }
  | .requeuedNonConsuming error availableAt updatedAt => {
    apply := fun task => { task with
      status := .queued, attempt := if task.attempt = 0 then 0 else task.attempt - 1, availableAt := availableAt
      claimedAt := none, finishedAt := none, updatedAt := updatedAt, error := some error } }

/-- All four reports select the row by its id and compare nothing else. -/
def reportTask (tasks : TaskTable) (taskId : WorkflowTaskId) (report : TaskReport) :
    Option WorkflowTask × TaskTable :=
  let selected := fun task : WorkflowTask => decide (task.id = taskId)
  ((tasks.returning selected (becomeReported report)).head?, tasks.update selected (becomeReported report))

def markSucceeded (tasks : TaskTable) (taskId : WorkflowTaskId) (finishedAt : DateTime) :
    Option WorkflowTask × TaskTable :=
  reportTask tasks taskId (.succeeded finishedAt)

def markFailed (tasks : TaskTable) (taskId : WorkflowTaskId) (error : String) (finishedAt : DateTime) :
    Option WorkflowTask × TaskTable :=
  reportTask tasks taskId (.failed error finishedAt)

def requeueAfterTransientError (tasks : TaskTable) (taskId : WorkflowTaskId) (error : String)
    (availableAt updatedAt : DateTime) : Option WorkflowTask × TaskTable :=
  reportTask tasks taskId (.requeued error availableAt updatedAt)

def requeueAfterNonConsumingTransientError (tasks : TaskTable) (taskId : WorkflowTaskId) (error : String)
    (availableAt updatedAt : DateTime) : Option WorkflowTask × TaskTable :=
  reportTask tasks taskId (.requeuedNonConsuming error availableAt updatedAt)

/-- A task enters the table queued, under an id of its own. -/
def insertWorkflowTask (tasks : TaskTable) (execution : WorkflowExecution) (createdAt : DateTime)
    (id : WorkflowTaskId) (task : NewWorkflowTask) : TaskTable :=
  if fresh : id ∈ tasks.rows.map WorkflowTask.id then tasks
  else tasks.append (WorkflowStore.insertedTask execution createdAt id task) fresh fresh

structure TaskClaim where
  worker : Nat
  taskId : WorkflowTaskId
  deriving DecidableEq

/-- The table, who has claimed what so far, oldest first, and what a sweep has found stale. -/
structure TaskQueue where
  tasks : TaskTable
  claims : List TaskClaim
  stale : List WorkflowTaskId

inductive QueueOperation where
  | insert (execution : WorkflowExecution) (createdAt : DateTime) (id : WorkflowTaskId) (task : NewWorkflowTask)
  | claim (worker : Nat) (queue : String) (taskKey : Option String) (locked : List WorkflowTaskId)
      (claimedAt : DateTime)
  | report (worker : Nat) (taskId : WorkflowTaskId) (report : TaskReport)
  | listStale (queue : String) (taskKey : Option String) (claimedBefore : DateTime) (limit : Int)
  | sweep (taskId : WorkflowTaskId) (report : TaskReport)

namespace TaskQueue

/-- A worker reports on tasks it has claimed, a sweep on tasks it has found stale. -/
def perform (queue : TaskQueue) : QueueOperation → TaskQueue
  | .insert execution createdAt id task =>
    { queue with tasks := insertWorkflowTask queue.tasks execution createdAt id task }
  | .claim worker name taskKey locked claimedAt =>
    let (handed, tasks) := claimNextAvailable queue.tasks name taskKey locked claimedAt
    { queue with tasks := tasks, claims := queue.claims ++ handed.toList.map fun task => ⟨worker, task.id⟩ }
  | .report worker taskId report =>
    if ⟨worker, taskId⟩ ∈ queue.claims then { queue with tasks := (reportTask queue.tasks taskId report).2 }
    else queue
  | .listStale name taskKey claimedBefore limit =>
    { queue with
      stale := queue.stale ++ (listStaleClaimed queue.tasks name taskKey claimedBefore limit).map (·.id) }
  | .sweep taskId report =>
    if taskId ∈ queue.stale then { queue with tasks := (reportTask queue.tasks taskId report).2 } else queue

/-- The task is in the table with one of the statuses. -/
def Has (queue : TaskQueue) (taskId : WorkflowTaskId) (statuses : List WorkflowTaskStatus) : Prop :=
  ∃ task ∈ queue.tasks.rows, task.id = taskId ∧ task.status ∈ statuses

instance decidableHas (queue : TaskQueue) (taskId : WorkflowTaskId) (statuses : List WorkflowTaskStatus) :
    Decidable (queue.Has taskId statuses) :=
  inferInstanceAs (Decidable (∃ task ∈ queue.tasks.rows, task.id = taskId ∧ task.status ∈ statuses))

def Ended (queue : TaskQueue) (taskId : WorkflowTaskId) : Prop := queue.Has taskId [.succeeded, .failed]

/-- The worker that claimed the task last. -/
def lastClaimant (queue : TaskQueue) (taskId : WorkflowTaskId) : Option Nat :=
  (queue.claims.reverse.find? fun claim => claim.taskId = taskId).map TaskClaim.worker

/-- The task is claimed, and it is the worker's claim. -/
def Holds (queue : TaskQueue) (worker : Nat) (taskId : WorkflowTaskId) : Prop :=
  queue.Has taskId [.claimed] ∧ queue.lastClaimant taskId = some worker

/-- How often the task has been claimed. -/
def timesClaimed (queue : TaskQueue) (taskId : WorkflowTaskId) : Nat :=
  queue.claims.countP fun claim => claim.taskId = taskId

end TaskQueue

/-- A worker that does not hold the task leaves it to the one that does. -/
def HolderKept (queue : TaskQueue) (operation : QueueOperation) : Prop :=
  ∀ worker taskId report holder, operation = .report worker taskId report → queue.Holds holder taskId →
    holder ≠ worker → (queue.perform operation).Holds holder taskId

/-- A report arrives while no other worker holds the task, and a report that queues the task again arrives before the
task has ended. -/
def ReportInTime (queue : TaskQueue) : QueueOperation → Prop
  | .report worker taskId report => ⟨worker, taskId⟩ ∈ queue.claims →
    (∀ holder, queue.Holds holder taskId → holder = worker) ∧ (report.requeues → ¬ queue.Ended taskId)
  | .sweep taskId report => taskId ∈ queue.stale → report.requeues → ¬ queue.Ended taskId
  | _ => True

/-- A claim hands out a queued task or nothing. -/
theorem claimNextAvailable_cases (tasks : TaskTable) (queue : String) (taskKey : Option String)
    (locked : List WorkflowTaskId) (claimedAt : DateTime) :
    claimNextAvailable tasks queue taskKey locked claimedAt = (none, tasks) ∨
      ∃ next ∈ tasks.rows, next.status = .queued ∧ claimNextAvailable tasks queue taskKey locked claimedAt =
        (some ((becomeClaimedTask claimedAt).apply next),
          tasks.update (fun task => decide (task.id = next.id)) (becomeClaimedTask claimedAt)) := by
  rw [claimNextAvailable]
  split
  · exact .inl rfl
  · rename_i next found
    rcases List.mem_filter.mp (firstBy_mem found) with ⟨member, chosen⟩
    have available : isAvailable queue taskKey claimedAt next = true := (of_decide_eq_true chosen).1
    have queued : next.status = .queued := (of_decide_eq_true available).2.1
    have returned : (tasks.returning (fun task => decide (task.id = next.id)) (becomeClaimedTask claimedAt)).head? =
        some ((becomeClaimedTask claimedAt).apply next) :=
      (Table.returning_head_some fun task chosen => of_decide_eq_true chosen).mpr ⟨next, member, by simp, rfl⟩
    exact .inr ⟨next, member, queued, Prod.ext returned rfl⟩

namespace TaskQueue

variable {queue : TaskQueue} {taskId other : WorkflowTaskId} {statuses : List WorkflowTaskStatus}
  {change : Change taskSchema}

/-- An update of one task leaves the others alone. -/
theorem has_update_other (different : taskId ≠ other) :
    Has { queue with tasks := queue.tasks.update (fun task => decide (task.id = other)) change } taskId statuses ↔
      queue.Has taskId statuses := by
  constructor
  · intro has
    rcases has with ⟨task, member, same, status⟩
    rcases Table.mem_update.mp member with ⟨old, inside, rfl⟩
    rcases change.on_cases (fun task => decide (task.id = other)) old with ⟨met, moved⟩ | ⟨unmet, moved⟩
    · rw [moved] at same
      exact absurd ((same.symm.trans (change.identity old)).trans (of_decide_eq_true met)) different
    · rw [moved] at same status
      exact ⟨old, inside, same, status⟩
  · intro has
    rcases has with ⟨task, member, same, status⟩
    have unmet : decide (task.id = other) = false := decide_eq_false (same ▸ different)
    have moved : change.on (fun task => decide (task.id = other)) task = task := by rw [Change.on, if_neg (by simp [unmet])]
    exact ⟨task, Table.mem_update.mpr ⟨task, member, moved⟩, same, status⟩

/-- An update of one task decides its status. -/
theorem has_update_self {status : WorkflowTaskStatus} (becomes : ∀ task, (change.apply task).status = status) :
    Has { queue with tasks := queue.tasks.update (fun task => decide (task.id = taskId)) change } taskId statuses ↔
      status ∈ statuses ∧ ∃ task ∈ queue.tasks.rows, task.id = taskId := by
  constructor
  · intro has
    rcases has with ⟨task, member, same, status⟩
    rcases Table.mem_update.mp member with ⟨old, inside, rfl⟩
    rcases change.on_cases (fun task => decide (task.id = taskId)) old with ⟨met, moved⟩ | ⟨unmet, moved⟩
    · rw [moved, becomes] at status
      exact ⟨status, old, inside, of_decide_eq_true met⟩
    · rw [moved] at same
      exact absurd same (of_decide_eq_false unmet)
  · intro found
    rcases found with ⟨listed, task, member, same⟩
    have moved : change.on (fun task => decide (task.id = taskId)) task = change.apply task := by
      rw [Change.on, if_pos (by simp [same])]
    refine ⟨change.apply task, Table.mem_update.mpr ⟨task, member, moved⟩, (change.identity task).trans same, ?_⟩
    rw [becomes]
    exact listed

/-- A task has one status. -/
theorem has_unique {first second : List WorkflowTaskStatus} (left : queue.Has taskId first)
    (right : queue.Has taskId second) : ∃ status ∈ first, status ∈ second := by
  rcases left with ⟨task, member, same, listed⟩
  rcases right with ⟨again, inside, equal, also⟩
  have one : task = again := queue.tasks.identity_inj member inside (same.trans equal.symm)
  exact ⟨task.status, listed, one ▸ also⟩

/-- The status that a report gives to the task. -/
def reportedStatus : TaskReport → WorkflowTaskStatus
  | .succeeded _ => .succeeded
  | .failed _ _ => .failed
  | .requeued _ _ _ | .requeuedNonConsuming _ _ _ => .queued

theorem becomeReported_status (report : TaskReport) (task : WorkflowTask) :
    ((becomeReported report).apply task).status = reportedStatus report := by
  cases report <;> rfl

theorem has_report {report : TaskReport} :
    Has { queue with tasks := (reportTask queue.tasks taskId report).2 } taskId statuses ↔
      reportedStatus report ∈ statuses ∧ ∃ task ∈ queue.tasks.rows, task.id = taskId :=
  has_update_self (becomeReported_status report)

theorem has_report_other {report : TaskReport} (different : taskId ≠ other) :
    Has { queue with tasks := (reportTask queue.tasks other report).2 } taskId statuses ↔ queue.Has taskId statuses :=
  has_update_other different

/-- An ended task stays ended under a report exactly when the report does not queue it again. -/
theorem ended_report {report : TaskReport} (ended : queue.Ended taskId) :
    Ended { queue with tasks := (reportTask queue.tasks taskId report).2 } taskId ↔ report.requeues = false := by
  rcases ended with ⟨task, member, same, -⟩
  rw [Ended, has_report]
  constructor
  · intro still
    cases report <;> simp_all [reportedStatus, TaskReport.requeues]
  · intro final
    refine ⟨?_, task, member, same⟩
    cases report <;> simp_all [reportedStatus, TaskReport.requeues]

theorem not_holds_report {report : TaskReport} {worker : Nat} :
    ¬ Holds { queue with tasks := (reportTask queue.tasks taskId report).2 } worker taskId := by
  intro holds
  have claimed := (has_report.mp holds.1).1
  cases report <;> simp [reportedStatus] at claimed

theorem has_insert {execution : WorkflowExecution} {createdAt : DateTime} {id : WorkflowTaskId}
    {task : NewWorkflowTask} (has : queue.Has taskId statuses) :
    Has { queue with tasks := insertWorkflowTask queue.tasks execution createdAt id task } taskId statuses := by
  rcases has with ⟨old, member, same, listed⟩
  refine ⟨old, ?_, same, listed⟩
  simp only [insertWorkflowTask]
  split
  · exact member
  · exact List.mem_append_left _ member

/-- A claim leaves the tasks alone that have ended, and the number of their claims. -/
theorem claim_ended {worker : Nat} {name : String} {taskKey : Option String} {locked : List WorkflowTaskId}
    {claimedAt : DateTime} {count : Nat} (ended : queue.Ended taskId ∧ queue.timesClaimed taskId = count) :
    (queue.perform (.claim worker name taskKey locked claimedAt)).Ended taskId ∧
      (queue.perform (.claim worker name taskKey locked claimedAt)).timesClaimed taskId = count := by
  rw [perform]
  rcases claimNextAvailable_cases queue.tasks name taskKey locked claimedAt with same | ⟨next, member, queued, same⟩
  · rw [same]
    simpa [Ended, Has, timesClaimed] using ended
  · have different : taskId ≠ next.id := by
      intro equal
      rcases has_unique ended.1 ⟨next, member, equal.symm, List.mem_singleton.mpr queued⟩ with ⟨status, final, waiting⟩
      rw [List.mem_singleton.mp waiting] at final
      simp at final
    have identity : ((becomeClaimedTask claimedAt).apply next).id = next.id := rfl
    rw [same]
    refine ⟨(has_update_other different).mpr ended.1, ?_⟩
    simpa [timesClaimed, identity, Ne.symm different] using ended.2

/-- The step keeps the ended tasks ended, and nobody claims them. -/
def EndedKept (queue : TaskQueue) (operation : QueueOperation) : Prop :=
  ∀ taskId count, queue.Ended taskId ∧ queue.timesClaimed taskId = count →
    (queue.perform operation).Ended taskId ∧ (queue.perform operation).timesClaimed taskId = count

/-- A report keeps the ended tasks if it does not queue one of them again. -/
theorem report_ended {report : TaskReport} {count : Nat} (final : report.requeues → ¬ queue.Ended other)
    (ended : queue.Ended taskId ∧ queue.timesClaimed taskId = count) :
    Ended { queue with tasks := (reportTask queue.tasks other report).2 } taskId ∧
      timesClaimed { queue with tasks := (reportTask queue.tasks other report).2 } taskId = count := by
  refine ⟨?_, ended.2⟩
  by_cases same : taskId = other
  · subst other
    apply (ended_report ended.1).mpr
    rw [← Bool.not_eq_true]
    exact fun requeues => final requeues ended.1
  · exact (has_report_other same).mpr ended.1

theorem endedKept_of_inTime {operation : QueueOperation} (inTime : ReportInTime queue operation) :
    EndedKept queue operation := by
  intro taskId count ended
  cases operation with
  | insert execution createdAt id task => exact ⟨has_insert ended.1, ended.2⟩
  | claim worker name taskKey locked claimedAt => exact claim_ended ended
  | listStale name taskKey claimedBefore limit => exact ended
  | report worker reported report =>
    rw [perform]
    split
    · rename_i claimant
      exact report_ended (inTime claimant).2 ended
    · exact ended
  | sweep swept report =>
    rw [perform]
    split
    · rename_i listed
      exact report_ended (inTime listed) ended
    · exact ended

theorem holderKept_of_inTime {operation : QueueOperation} (inTime : ReportInTime queue operation) :
    HolderKept queue operation := by
  intro worker taskId report holder same holds different
  subst operation
  rw [perform]
  split
  · rename_i claimant
    exact absurd ((inTime claimant).1 holder holds) different
  · exact holds

theorem not_ended_of_kept {report : TaskReport} {operation : QueueOperation} (kept : EndedKept queue operation)
    (taken : queue.perform operation = { queue with tasks := (reportTask queue.tasks taskId report).2 })
    (requeues : report.requeues) : ¬ queue.Ended taskId := by
  intro ended
  have still := (kept taskId _ ⟨ended, rfl⟩).1
  rw [taken] at still
  rw [(ended_report ended).mp still] at requeues
  cases requeues

theorem inTime_of_kept {operation : QueueOperation} (ended : EndedKept queue operation)
    (held : HolderKept queue operation) : ReportInTime queue operation := by
  cases operation with
  | insert execution createdAt id task => trivial
  | claim worker name taskKey locked claimedAt => trivial
  | listStale name taskKey claimedBefore limit => trivial
  | report worker taskId report =>
    intro claimant
    have taken : queue.perform (.report worker taskId report) =
        { queue with tasks := (reportTask queue.tasks taskId report).2 } := if_pos claimant
    refine ⟨?_, not_ended_of_kept ended taken⟩
    intro holder holds
    by_cases own : holder = worker
    · exact own
    · have still := held worker taskId report holder rfl holds own
      rw [taken] at still
      exact absurd still not_holds_report
  | sweep taskId report =>
    intro listed
    exact not_ended_of_kept ended (if_pos listed)

end TaskQueue

/-- In any interleaving of claims, late reports and sweeps, an ended task stays ended and unclaimed, and no worker
ends or queues again what another worker holds, exactly when every report arrives in time. -/
theorem tasks_settled_iff (queue : TaskQueue) (operations : List QueueOperation) :
    ((∀ taskId count, Persists TaskQueue.perform
        (fun reached => reached.Ended taskId ∧ reached.timesClaimed taskId = count) queue operations) ∧
      Guarded TaskQueue.perform HolderKept queue operations) ↔
    Guarded TaskQueue.perform ReportInTime queue operations := by
  simp only [persists_iff_guarded]
  constructor
  · intro kept earlier operation before
    refine TaskQueue.inTime_of_kept ?_ (kept.2 earlier operation before)
    intro taskId count
    exact kept.1 taskId count earlier operation before
  · intro inTime
    constructor
    · intro taskId count earlier operation before
      exact TaskQueue.endedKept_of_inTime (inTime earlier operation before) taskId count
    · intro earlier operation before
      exact TaskQueue.holderKept_of_inTime (inTime earlier operation before)

def sampleExecution : WorkflowExecution where
  id := ⟨"execution"⟩
  tenantId := ⟨"tenant"⟩
  datasetId := none
  reportPlanId := none
  kind := .staticPageRender
  version := "1"
  stage := "queued"
  status := .pending
  attempt := 0
  context := .null
  createdAt := 0
  updatedAt := 0

/-- A task is claimed by one worker, found stale, and recovered with the given report. -/
def recoveredTask (recovery : TaskReport) : List QueueOperation := [
  .insert sampleExecution 0 ⟨"task"⟩ ⟨"static_page", "render_static_page", .null, 0, 3⟩,
  .claim 1 "static_page" none [] 10,
  .listStale "static_page" none 20 1,
  .sweep ⟨"task"⟩ recovery]

/-- A slow worker queues the task again that a sweep has failed, and another worker's claim of a recovered task is
ended by the worker that has lost it. -/
theorem late_reports_unfenced :
    ¬ (∀ taskId count, Persists TaskQueue.perform
      (fun reached => reached.Ended taskId ∧ reached.timesClaimed taskId = count) ⟨.empty, [], []⟩
      (recoveredTask (.failed "expired" 30) ++ [.report 1 ⟨"task"⟩ (.requeued "timeout" 40 40)])) ∧
    ¬ Guarded TaskQueue.perform HolderKept ⟨.empty, [], []⟩
      (recoveredTask (.requeued "expired" 30 30) ++
        [.claim 2 "static_page" none [] 40, .report 1 ⟨"task"⟩ (.succeeded 50)]) := by
  constructor
  · intro persists
    let failed := (recoveredTask (.failed "expired" 30)).foldl TaskQueue.perform ⟨.empty, [], []⟩
    have ended : failed.Has ⟨"task"⟩ [.succeeded, .failed] ∧ failed.timesClaimed ⟨"task"⟩ = 1 := by decide
    have still := persists ⟨"task"⟩ 1 _ _ (List.prefix_append ..) List.prefix_rfl ended
    rw [List.foldl_append] at still
    have queued : ¬ (failed.perform (.report 1 ⟨"task"⟩ (.requeued "timeout" 40 40))).Has ⟨"task"⟩
        [.succeeded, .failed] := by decide
    exact queued still.1
  · intro kept
    let again := recoveredTask (.requeued "expired" 30 30) ++ [QueueOperation.claim 2 "static_page" none [] 40]
    let reclaimed := again.foldl TaskQueue.perform ⟨.empty, [], []⟩
    have holds : reclaimed.Has ⟨"task"⟩ [.claimed] ∧ reclaimed.lastClaimant ⟨"task"⟩ = some 2 := by decide
    have still := kept again (.report 1 ⟨"task"⟩ (.succeeded 50)) (by simp [again]) 1 ⟨"task"⟩ (.succeeded 50) 2 rfl
      holds (by decide)
    have lost : ¬ (reclaimed.perform (.report 1 ⟨"task"⟩ (.succeeded 50))).Has ⟨"task"⟩ [.claimed] := by
      decide
    exact lost still.1

end DataMax.Workflow
