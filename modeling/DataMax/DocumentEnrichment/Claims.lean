import DataMax.DocumentEnrichment.Queue
import DataMax.Library.Run
import Mathlib.Data.List.Perm.Basic

/-! Why the unguarded reports are safe: a run is running exactly while one worker has yet to
report on it, so a report always finds the run that its worker has claimed. -/

namespace DataMax.DocumentEnrichment

open Domain Library

def EnrichmentClaim.isOf (runId : EnrichmentRunId) (claim : EnrichmentClaim) : Bool := claim.runId = runId

def EnrichmentQueue.holders (queue : EnrichmentQueue) (runId : EnrichmentRunId) : Nat :=
  queue.unreported.countP (EnrichmentClaim.isOf runId)

def EnrichmentStatus.hasEnded : EnrichmentStatus → Bool
  | .pending | .running => false
  | .succeeded | .failed => true

def HasEnded (runId : EnrichmentRunId) (queue : EnrichmentQueue) : Prop :=
  ∃ run ∈ queue.runs.rows, run.id = runId ∧ run.status.hasEnded = true

/-- The limits of a run, with the number of its claims and of those not reported on. -/
structure IsSoundRun (holders claims : Nat) (run : DocumentEnrichmentRun) : Prop where
  single : holders ≤ 1
  held : 0 < holders → run.status = .running
  nonnegative : 0 ≤ run.attemptCount
  limited : run.attemptCount ≤ run.maxAttempts
  counted : run.attemptCount = claims
  claimable : run.status = .pending → run.attemptCount < run.maxAttempts

structure IsSound (queue : EnrichmentQueue) : Prop where
  distinct : (queue.runs.rows.map DocumentEnrichmentRun.input).Nodup
  runs : ∀ run ∈ queue.runs.rows, IsSoundRun (queue.holders run.id) (queue.claimed.count run.id) run

def EnrichmentOperation.IsPositive : EnrichmentOperation → Prop
  | .createOrGet _ _ newRun _ => 0 < newRun.maxAttempts
  | .claim _ _ _ _ _ | .report _ _ => True

/-- A run is running exactly while one claim of it is not reported on. -/
structure IsAccounted (queue : EnrichmentQueue) : Prop where
  runs : ∀ run ∈ queue.runs.rows, IsSoundRun (queue.holders run.id) (queue.claimed.count run.id) run ∧
    (run.status = .running → queue.holders run.id = 1)
  claims : ∀ claim ∈ queue.unreported, ∃ run ∈ queue.runs.rows, run.id = claim.runId ∧ run.tenantId = claim.tenantId
  claimed : ∀ runId ∈ queue.claimed, ∃ run ∈ queue.runs.rows, run.id = runId

variable {queue next : EnrichmentQueue}

section OneRun

variable {old : DocumentEnrichmentRun} {change : Change enrichmentSchema}

/-- A step that changes one run, and with it only what is counted of that run. -/
structure ChangesRun (queue next : EnrichmentQueue) (old : DocumentEnrichmentRun) (change : Change enrichmentSchema) :
    Prop where
  stored : old ∈ queue.runs.rows
  rows : ∀ row, row ∈ next.runs.rows ↔ row = change.apply old ∨ row ∈ queue.runs.rows ∧ row ≠ old
  tenant : (change.apply old).tenantId = old.tenantId
  holders : ∀ runId, runId ≠ old.id → next.holders runId = queue.holders runId
  claimed : ∀ runId, runId ≠ old.id → next.claimed.count runId = queue.claimed.count runId
  claims : ∀ claim ∈ next.unreported, claim ∈ queue.unreported ∨
    claim.runId = old.id ∧ claim.tenantId = old.tenantId
  known : ∀ runId ∈ next.claimed, runId ∈ queue.claimed ∨ runId = old.id

/-- The other runs stay as they were, so the changed one decides. -/
theorem ChangesRun.accounted (step : ChangesRun queue next old change) (accounted : IsAccounted queue)
    (own : IsSoundRun (next.holders old.id) (next.claimed.count old.id) (change.apply old))
    (running : (change.apply old).status = .running → next.holders old.id = 1) : IsAccounted next := by
  have identity : (change.apply old).id = old.id := change.identity old
  have kept (run : DocumentEnrichmentRun) (stored : run ∈ queue.runs.rows) :
      ∃ row ∈ next.runs.rows, row.id = run.id ∧ row.tenantId = run.tenantId := by
    by_cases same : run = old
    · exact ⟨change.apply old, (step.rows _).mpr (.inl rfl), by rw [same, identity], by rw [same, step.tenant]⟩
    · exact ⟨run, (step.rows run).mpr (.inr ⟨stored, same⟩), rfl, rfl⟩
  refine ⟨?_, ?_, ?_⟩
  · intro row listed
    rcases (step.rows row).mp listed with rfl | ⟨stored, apart⟩
    · rw [identity]
      exact ⟨own, running⟩
    · have other : row.id ≠ old.id := fun same => apart (queue.runs.identity_inj stored step.stored same)
      rw [step.holders row.id other, step.claimed row.id other]
      exact accounted.runs row stored
  · intro claim listed
    rcases step.claims claim listed with earlier | ⟨about, tenant⟩
    · obtain ⟨run, stored, same, owner⟩ := accounted.claims claim earlier
      obtain ⟨row, present, identical, tenant⟩ := kept run stored
      exact ⟨row, present, identical.trans same, tenant.trans owner⟩
    · obtain ⟨row, present, identical, owner⟩ := kept old step.stored
      exact ⟨row, present, identical.trans about.symm, owner.trans tenant.symm⟩
  · intro runId listed
    rcases step.known runId listed with earlier | rfl
    · obtain ⟨run, stored, same⟩ := accounted.claimed runId earlier
      obtain ⟨row, present, identical, _⟩ := kept run stored
      exact ⟨row, present, identical.trans same⟩
    · obtain ⟨row, present, identical, _⟩ := kept old step.stored
      exact ⟨row, present, identical⟩

/-- A run that has ended stays so unless it is the changed one. -/
theorem ChangesRun.ended (step : ChangesRun queue next old change) {runId : EnrichmentRunId}
    (kept : old.status.hasEnded = true → (change.apply old).status.hasEnded = true) (ended : HasEnded runId queue) :
    HasEnded runId next := by
  obtain ⟨run, stored, same, status⟩ := ended
  by_cases changed : run = old
  · exact ⟨change.apply old, (step.rows _).mpr (.inl rfl), by rw [← same, changed]; exact change.identity old,
      kept (changed ▸ status)⟩
  · exact ⟨run, (step.rows run).mpr (.inr ⟨stored, changed⟩), same, status⟩

end OneRun

section Steps

variable (documentExists : DocumentId → Bool)

/-- A creation is refused, merged into the run of the same input, or adds a pending run. -/
theorem createOrGet_cases (queue : EnrichmentQueue) (tenantId : TenantId) (newId : EnrichmentRunId)
    (newRun : NewDocumentEnrichmentRun) (createdAt : DateTime) :
    let next := queue.perform documentExists (.createOrGet tenantId newId newRun createdAt)
    next = queue ∨ (∃ old, ChangesRun queue next old (becomeMerged newRun createdAt) ∧
        next.holders old.id = queue.holders old.id ∧ next.claimed = queue.claimed) ∨
      next.runs.rows = queue.runs.rows ++ [pendingRun tenantId newId newRun createdAt] ∧
        (∀ run ∈ queue.runs.rows, run.id ≠ newId) ∧ next.unreported = queue.unreported ∧
        next.claimed = queue.claimed := by
  simp only [EnrichmentQueue.perform, createOrGet]
  split
  · exact .inl rfl
  · exact .inl rfl
  · rename_i merged run outcome
    obtain ⟨old, stored, input, _, rfl, _⟩ := Table.insertOrUpdate_updated outcome
    refine .inr (.inl ⟨old, ⟨stored, ?_, rfl, fun _ _ => rfl, fun _ _ => rfl, fun _ => .inl, fun _ => .inl⟩, rfl, trivial⟩)
    intro row
    apply Table.mem_update_single stored
    intro other listed
    rw [decide_eq_true_eq, ← input]
    exact ⟨queue.runs.key_inj listed stored, congrArg _⟩
  · rename_i created run outcome
    obtain ⟨_, _, fresh, rows, _⟩ := Table.insertOrUpdate_inserted outcome
    refine .inr (.inr ⟨rows, fun other listed same => fresh (List.mem_map.mpr ⟨other, listed, same⟩), trivial, trivial⟩)

/-- A claim hands out nothing, or a pending run with an attempt left. -/
theorem claim_cases (queue : EnrichmentQueue) (worker : Nat) (tenantId : TenantId) (locked : List EnrichmentRunId)
    (enrichmentKind : Option String) (claimedAt : DateTime) :
    let next := queue.perform documentExists (.claim worker tenantId locked enrichmentKind claimedAt)
    next = queue ∨ ∃ old, ChangesRun queue next old (becomeRunning claimedAt) ∧ old.status = .pending ∧
      old.attemptCount < old.maxAttempts ∧ next.holders old.id = queue.holders old.id + 1 ∧
      next.claimed.count old.id = queue.claimed.count old.id + 1 := by
  simp only [EnrichmentQueue.perform]
  cases found : firstBy claimedFirst (queue.runs.rows.filter fun run =>
      isClaimable tenantId enrichmentKind claimedAt run ∧ run.id ∉ locked) with
  | none =>
    have nothing : claimNextAvailable queue.runs tenantId locked enrichmentKind claimedAt = (none, queue.runs) := by
      rw [claimNextAvailable, found]
    rw [nothing]
    exact .inl rfl
  | some old =>
    obtain ⟨stored, met⟩ := List.mem_filter.mp (firstBy_mem found)
    have claimable : isClaimable tenantId enrichmentKind claimedAt old = true := (of_decide_eq_true met).1
    obtain ⟨tenant, pending, _, left, _⟩ := of_decide_eq_true claimable
    have returned : (queue.runs.returning (fun run => decide (run.id = old.id)) (becomeRunning claimedAt)).head? =
        some ((becomeRunning claimedAt).apply old) :=
      (Table.returning_head_some fun run selected => of_decide_eq_true selected).mpr ⟨old, stored, decide_eq_true rfl, rfl⟩
    have handed : claimNextAvailable queue.runs tenantId locked enrichmentKind claimedAt =
        (some ((becomeRunning claimedAt).apply old),
          queue.runs.update (fun run => decide (run.id = old.id)) (becomeRunning claimedAt)) := by
      rw [claimNextAvailable, found]
      exact Prod.ext returned rfl
    rw [handed]
    refine .inr ⟨old, ⟨stored, ?_, rfl, ?_, ?_, ?_, ?_⟩, pending, left, ?_, ?_⟩
    · intro row
      apply Table.mem_update_single stored
      intro other listed
      rw [decide_eq_true_eq]
      exact ⟨queue.runs.identity_inj listed stored, congrArg _⟩
    · intro runId apart
      simp [EnrichmentQueue.holders, EnrichmentClaim.isOf, becomeRunning, apart.symm]
    · intro runId apart
      simp [becomeRunning, apart.symm]
    · intro claim listed
      rcases List.mem_append.mp listed with earlier | new
      · exact .inl earlier
      · obtain rfl := List.mem_singleton.mp new
        exact .inr ⟨rfl, tenant.symm⟩
    · intro runId listed
      rcases List.mem_append.mp listed with earlier | new
      · exact .inl earlier
      · exact .inr (List.mem_singleton.mp new)
    · simp [EnrichmentQueue.holders, EnrichmentClaim.isOf, becomeRunning]
    · simp [becomeRunning]

/-- A report finds the run of its claim. -/
theorem report_cases (accounted : IsAccounted queue) (claim : Nat) (report : EnrichmentReport) :
    let next := queue.perform documentExists (.report claim report)
    next = queue ∨ ∃ old, ChangesRun queue next old (becomeReported report) ∧
      queue.holders old.id = next.holders old.id + 1 ∧ next.claimed = queue.claimed := by
  simp only [EnrichmentQueue.perform]
  cases found : queue.unreported[claim]? with
  | none => exact .inl rfl
  | some held =>
    obtain ⟨old, stored, same, tenant⟩ := accounted.claims held (List.mem_of_getElem? found)
    obtain ⟨inside, taken⟩ := List.getElem?_eq_some_iff.mp found
    have holders (runId : EnrichmentRunId) : queue.holders runId =
        (queue.unreported.eraseIdx claim).countP (EnrichmentClaim.isOf runId) + if held.isOf runId then 1 else 0 := by
      rw [← List.countP_cons, ← taken]
      exact ((List.getElem_cons_eraseIdx_perm inside).countP_eq _).symm
    refine .inr ⟨old, ⟨stored, ?_, ?_, ?_, fun _ _ => rfl, ?_, fun _ => .inl⟩, ?_, rfl⟩
    · intro row
      apply Table.mem_update_single stored
      intro other listed
      rw [decide_eq_true_eq, ← same, ← tenant]
      constructor
      · intro selected
        exact queue.runs.identity_inj listed stored selected.2
      · rintro rfl
        exact ⟨rfl, rfl⟩
    · cases report <;> rfl
    · intro runId apart
      have other : held.isOf runId = false := decide_eq_false fun own => apart (own.symm.trans same.symm)
      exact ((holders runId).trans (by rw [other]; rfl)).symm
    · intro other listed
      exact .inl (List.mem_of_mem_eraseIdx listed)
    · have own : held.isOf old.id = true := decide_eq_true same.symm
      exact (holders old.id).trans (by rw [own]; rfl)

/-- No run is claimed or counted before it is created. -/
theorem IsAccounted.fresh (accounted : IsAccounted queue) {runId : EnrichmentRunId}
    (unused : ∀ run ∈ queue.runs.rows, run.id ≠ runId) :
    queue.holders runId = 0 ∧ queue.claimed.count runId = 0 := by
  constructor
  · apply List.countP_eq_zero.mpr
    intro claim listed own
    obtain ⟨run, stored, same, _⟩ := accounted.claims claim listed
    exact unused run stored (same.trans (of_decide_eq_true own))
  · apply List.count_eq_zero.mpr
    intro listed
    obtain ⟨run, stored, same⟩ := accounted.claimed runId listed
    exact unused run stored same

theorem IsAccounted.empty : IsAccounted .empty where
  runs _ stored := nomatch stored
  claims _ listed := nomatch listed
  claimed _ listed := nomatch listed

section Changes

variable {holders claims : Nat} {run : DocumentEnrichmentRun}

theorem pendingRun_sound (tenantId : TenantId) (newId : EnrichmentRunId) {newRun : NewDocumentEnrichmentRun}
    (createdAt : DateTime) (positive : 0 < newRun.maxAttempts) :
    IsSoundRun 0 0 (pendingRun tenantId newId newRun createdAt) where
  single := Nat.zero_le 1
  held absent := absurd absent (Nat.lt_irrefl 0)
  nonnegative := Int.le_refl 0
  limited := Int.le_of_lt positive
  counted := rfl
  claimable _ := positive

theorem IsSoundRun.merged (sound : IsSoundRun holders claims run) (newRun : NewDocumentEnrichmentRun)
    (createdAt : DateTime) : IsSoundRun holders claims ((becomeMerged newRun createdAt).apply run) where
  single := sound.single
  held := sound.held
  nonnegative := sound.nonnegative
  limited := Int.le_trans sound.limited (Int.le_max_left ..)
  counted := sound.counted
  claimable pending := Int.lt_of_lt_of_le (sound.claimable pending) (Int.le_max_left ..)

/-- A pending run has no holder, so its claimer becomes the only one. -/
theorem IsSoundRun.claimed (sound : IsSoundRun holders claims run) (pending : run.status = .pending)
    (claimedAt : DateTime) : holders = 0 ∧ IsSoundRun 1 (claims + 1) ((becomeRunning claimedAt).apply run) := by
  have unheld : holders = 0 := by
    apply Nat.eq_zero_of_not_pos
    intro held
    have running := sound.held held
    rw [pending] at running
    cases running
  refine ⟨unheld, ⟨Nat.le_refl 1, fun _ => rfl, ?_, ?_, ?_, nofun⟩⟩
  · exact Int.le_trans sound.nonnegative (Int.le_add_one (Int.le_refl _))
  · exact sound.claimable pending
  · have counted := sound.counted
    simp only [becomeRunning, counted]
    rfl

/-- The reporting worker was the only holder, and a requeued run has an attempt left. -/
theorem IsSoundRun.reported (sound : IsSoundRun (holders + 1) claims run) (report : EnrichmentReport) :
    holders = 0 ∧ IsSoundRun 0 claims ((becomeReported report).apply run) ∧
      ((becomeReported report).apply run).status ≠ .running := by
  have unheld : holders = 0 := Nat.le_zero.mp (Nat.le_of_succ_le_succ sound.single)
  refine ⟨unheld, ?_⟩
  cases report with
  | succeeded outputSummary finishedAt =>
    exact ⟨⟨Nat.zero_le 1, nofun, sound.nonnegative, sound.limited, sound.counted, nofun⟩, nofun⟩
  | failed errorMessage finishedAt =>
    exact ⟨⟨Nat.zero_le 1, nofun, sound.nonnegative, sound.limited, sound.counted, nofun⟩, nofun⟩
  | requeued errorMessage availableAt updatedAt =>
    by_cases exhausted : run.maxAttempts ≤ run.attemptCount
    · have status : ((becomeReported (.requeued errorMessage availableAt updatedAt)).apply run).status = .failed :=
        if_pos exhausted
      refine ⟨⟨Nat.zero_le 1, nofun, sound.nonnegative, sound.limited, sound.counted, ?_⟩, ?_⟩ <;> rw [status] <;> nofun
    · have status : ((becomeReported (.requeued errorMessage availableAt updatedAt)).apply run).status = .pending :=
        if_neg exhausted
      refine ⟨⟨Nat.zero_le 1, nofun, sound.nonnegative, sound.limited, sound.counted, ?_⟩, ?_⟩
      · intro _
        exact Int.not_le.mp exhausted
      · rw [status]
        nofun

end Changes

theorem perform_accounted (accounted : IsAccounted queue) {operation : EnrichmentOperation}
    (positive : operation.IsPositive) : IsAccounted (queue.perform documentExists operation) := by
  cases operation with
  | createOrGet tenantId newId newRun createdAt =>
    rcases createOrGet_cases documentExists queue tenantId newId newRun createdAt with
      same | ⟨old, step, holders, claimed⟩ | ⟨rows, fresh, unreported, claimed⟩
    · rw [same]
      exact accounted
    · obtain ⟨sound, running⟩ := accounted.runs old step.stored
      apply step.accounted accounted
      · rw [holders, claimed]
        exact sound.merged newRun createdAt
      · rw [holders]
        exact running
    · have counts (runId : EnrichmentRunId) :
          (queue.perform documentExists (.createOrGet tenantId newId newRun createdAt)).holders runId =
            queue.holders runId := by
        rw [EnrichmentQueue.holders, unreported]
        rfl
      have kept (run : DocumentEnrichmentRun) (stored : run ∈ queue.runs.rows) :
          run ∈ (queue.perform documentExists (.createOrGet tenantId newId newRun createdAt)).runs.rows := by
        rw [rows]
        exact List.mem_append_left _ stored
      refine ⟨?_, ?_, ?_⟩
      · intro run listed
        rw [counts, claimed]
        rw [rows] at listed
        rcases List.mem_append.mp listed with earlier | added
        · exact accounted.runs run earlier
        · obtain rfl := List.mem_singleton.mp added
          obtain ⟨unheld, uncounted⟩ := accounted.fresh fresh
          have own : (pendingRun tenantId newId newRun createdAt).id = newId := rfl
          rw [own, unheld, uncounted]
          exact ⟨pendingRun_sound tenantId newId createdAt positive, nofun⟩
      · intro claim listed
        rw [unreported] at listed
        obtain ⟨run, stored, matched⟩ := accounted.claims claim listed
        exact ⟨run, kept run stored, matched⟩
      · intro runId listed
        rw [claimed] at listed
        obtain ⟨run, stored, same⟩ := accounted.claimed runId listed
        exact ⟨run, kept run stored, same⟩
  | claim worker tenantId locked enrichmentKind claimedAt =>
    rcases claim_cases documentExists queue worker tenantId locked enrichmentKind claimedAt with
      same | ⟨old, step, pending, _, holders, claimed⟩
    · rw [same]
      exact accounted
    · obtain ⟨unheld, sound⟩ := (accounted.runs old step.stored).1.claimed pending claimedAt
      apply step.accounted accounted
      · rw [holders, unheld, claimed]
        exact sound
      · intro _
        rw [holders, unheld]
  | report claim report =>
    rcases report_cases documentExists accounted claim report with
      same | ⟨old, step, holders, claimed⟩
    · rw [same]
      exact accounted
    · have held := (accounted.runs old step.stored).1
      rw [holders] at held
      obtain ⟨unheld, sound, stopped⟩ := held.reported report
      apply step.accounted accounted
      · rw [unheld, claimed]
        exact sound
      · intro running
        exact absurd running stopped

theorem perform_ended (accounted : IsAccounted queue) (operation : EnrichmentOperation) {runId : EnrichmentRunId}
    (ended : HasEnded runId queue) : HasEnded runId (queue.perform documentExists operation) := by
  cases operation with
  | createOrGet tenantId newId newRun createdAt =>
    rcases createOrGet_cases documentExists queue tenantId newId newRun createdAt with
      same | ⟨old, step, _⟩ | ⟨rows, _⟩
    · rw [same]
      exact ended
    · exact step.ended id ended
    · obtain ⟨run, stored, matched⟩ := ended
      refine ⟨run, ?_, matched⟩
      rw [rows]
      exact List.mem_append_left _ stored
  | claim worker tenantId locked enrichmentKind claimedAt =>
    rcases claim_cases documentExists queue worker tenantId locked enrichmentKind claimedAt with
      same | ⟨old, step, pending, _⟩
    · rw [same]
      exact ended
    · apply step.ended _ ended
      rw [pending]
      nofun
  | report claim report =>
    rcases report_cases documentExists accounted claim report with
      same | ⟨old, step, holders, _⟩
    · rw [same]
      exact ended
    · -- A held run is running, so no report ever meets one that has ended.
      have running := (accounted.runs old step.stored).1.held (holders ▸ Nat.succ_pos _)
      apply step.ended _ ended
      rw [running]
      nofun

end Steps

theorem IsAccounted.isSound (accounted : IsAccounted queue) : IsSound queue where
  distinct := queue.runs.keys
  runs run stored := (accounted.runs run stored).1

/-- No report compares the status of its run. Every reached state still is sound, and no run that
has ended becomes pending or running again. -/
theorem enrichment_queue_sound (documentExists : DocumentId → Bool) {operations : List EnrichmentOperation}
    (positive : ∀ operation ∈ operations, operation.IsPositive) :
    Always (EnrichmentQueue.perform documentExists) IsSound .empty operations ∧
      ∀ runId, Persists (EnrichmentQueue.perform documentExists) (HasEnded runId) .empty operations := by
  have reached (earlier : List EnrichmentOperation) (shorter : earlier <+: operations) :
      IsAccounted (earlier.foldl (EnrichmentQueue.perform documentExists) .empty) := by
    induction earlier using List.reverseRecOn with
    | nil => exact .empty
    | append_singleton before operation ih =>
      rw [List.foldl_append, List.foldl_cons, List.foldl_nil]
      have member : operation ∈ operations := shorter.subset (List.mem_append_right before List.mem_cons_self)
      exact perform_accounted documentExists (ih ((List.prefix_append ..).trans shorter)) (positive operation member)
  constructor
  · intro earlier shorter
    exact (reached earlier shorter).isSound
  · intro runId
    apply (persists_iff_guarded (EnrichmentQueue.perform documentExists) (HasEnded runId) .empty operations).mpr
    intro earlier operation shorter ended
    exact perform_ended documentExists (reached earlier ((List.prefix_append ..).trans shorter)) operation ended

/-- The only attempt of a run fails, and a later request for the same input allows three. -/
def exhaustedRunRequestedAgain : List EnrichmentOperation := [
  .createOrGet ⟨"tenant"⟩ ⟨"first"⟩ ⟨⟨"document"⟩, "summary", none, "a", 100, 1, 0⟩ 0,
  .claim 0 ⟨"tenant"⟩ [] none 1,
  .report 0 (.requeued "timeout" 4 2),
  .createOrGet ⟨"tenant"⟩ ⟨"second"⟩ ⟨⟨"document"⟩, "summary", none, "a", 50, 3, 3⟩ 3,
  .claim 1 ⟨"tenant"⟩ [] none 5]

theorem exhausted_run_sound :
    Always (EnrichmentQueue.perform fun _ => true) IsSound .empty exhaustedRunRequestedAgain ∧
      Persists (EnrichmentQueue.perform fun _ => true) (HasEnded ⟨"first"⟩) .empty exhaustedRunRequestedAgain ∧
      HasEnded ⟨"first"⟩ (exhaustedRunRequestedAgain.foldl (EnrichmentQueue.perform fun _ => true) .empty) := by
  have positive : ∀ operation ∈ exhaustedRunRequestedAgain, operation.IsPositive := by
    simp [exhaustedRunRequestedAgain, EnrichmentOperation.IsPositive]
  obtain ⟨sound, persists⟩ := enrichment_queue_sound (fun _ => true) positive
  refine ⟨sound, persists ⟨"first"⟩, ?_⟩
  unfold HasEnded
  decide

end DataMax.DocumentEnrichment
