import DataMax.Library.Run
import DataMax.SemanticLink.ForeignKeys

/-! The builds among the link snapshots and the runs that are to finish them. -/

namespace DataMax.SemanticLink

open Domain Library

variable {owner : SnapshotOwner} {store : LinkStore} {system : LinkSystem} {inputs : LinkInputs}
  {runs : Table runSchema} {run : DatasetSemanticLinkRun}

/-- The statuses in which a run is still to be worked on. -/
def LinkRunStatus.isLive : LinkRunStatus → Bool
  | .pending | .running | .retryWait => true
  | .succeeded | .deadLetter => false

theorem LinkRunStatus.isLive_iff {status : LinkRunStatus} :
    status.isLive = true ↔ status ≠ .succeeded ∧ status ≠ .deadLetter := by
  cases status <;> decide

def HasLiveRun (runs : Table runSchema) (inputs : LinkInputs) : Prop :=
  ∃ run ∈ runs.rows, run.inputs = inputs ∧ run.status.isLive = true

/-- No snapshot is building with nobody to build it. -/
def LinkStore.Paired (store : LinkStore) : Prop :=
  ∀ link ∈ store.links.rows, link.status = .building → HasLiveRun store.runs link.inputs

/-- There is one run for the inputs, so its status decides. -/
theorem hasLiveRun_iff (member : run ∈ runs.rows) :
    HasLiveRun runs run.inputs ↔ run.status.isLive = true := by
  constructor
  · rintro ⟨other, inside, same, alive⟩
    rw [← runs.key_inj inside member same]
    exact alive
  · intro alive
    exact ⟨run, member, rfl, alive⟩

theorem HasLiveRun.update {condition : DatasetSemanticLinkRun → Bool} {change : Change runSchema}
    (alive : HasLiveRun runs inputs)
    (kept : ∀ run ∈ runs.rows, condition run = true → run.inputs = inputs → run.status.isLive = true →
      (change.apply run).status.isLive = true) : HasLiveRun (runs.update condition change) inputs := by
  obtain ⟨run, member, same, live⟩ := alive
  have inputsKept : (change.on condition run).inputs = run.inputs := change.key_on condition run
  refine ⟨change.on condition run, Table.mem_update.mpr ⟨run, member, rfl⟩, inputsKept.trans same, ?_⟩
  rcases change.on_cases condition run with ⟨met, moved⟩ | ⟨_, moved⟩
  · rw [moved]
    exact kept run member met same live
  · rw [moved]
    exact live

/-- An update of the runs that may leave runs dead or finished keeps the pairing
if it comes with the failure of their builds. -/
theorem LinkStore.Paired.settle {condition : DatasetSemanticLinkRun → Bool} {change : Change runSchema}
    {links : Table linkSchema} (paired : store.Paired)
    (builds : ∀ link ∈ links.rows, link.status = .building → link ∈ store.links.rows)
    (settled : ∀ link ∈ links.rows, link.status = .building → ∀ run ∈ store.runs.rows,
      condition run = true → link.inputs = run.inputs → (change.apply run).status.isLive = true) :
    LinkStore.Paired ⟨links, store.runs.update condition change⟩ := by
  intro link member building
  apply (paired link (builds link member building) building).update
  intro run inside met same _
  exact settled link member building run inside met same.symm

theorem LinkStore.Paired.updateRuns {condition : DatasetSemanticLinkRun → Bool} {change : Change runSchema}
    (paired : store.Paired)
    (kept : ∀ run, condition run = true → run.status.isLive = true →
      (change.apply run).status.isLive = true) :
    LinkStore.Paired { store with runs := store.runs.update condition change } := by
  intro link member building
  apply (paired link member building).update
  intro run _ met _ alive
  exact kept run met alive

theorem LinkStore.Paired.quiet {after : LinkStore} (paired : store.Paired)
    (quiet : NoNewBuild owner store.links after.links) (runs : after.runs = store.runs) : after.Paired := by
  intro link member building
  rw [runs]
  exact paired link (quiet.builds link member building) building

/-- A begun build needs a live run of its inputs, and nothing else. -/
theorem BuildOpened.paired_iff {before after : Table linkSchema} {opened : Option LinkInputs}
    {live : LinkInputs → Prop} (begun : BuildOpened owner before opened after)
    (paired : ∀ link ∈ before.rows, link.status = .building → live link.inputs) :
    (∀ link ∈ after.rows, link.status = .building → live link.inputs) ↔
      ∀ inputs, opened = some inputs → live inputs := by
  cases begun with
  | nothing =>
    constructor
    · intro _ inputs impossible
      cases impossible
    · intro _
      exact paired
  | again existing member same snapshot now =>
    rename_i opened
    have moved : (becomeBuilding snapshot now).on (fun other => other.inputs = opened) existing =
        (becomeBuilding snapshot now).apply existing := by
      simp [Change.on, same]
    constructor
    · intro after inputs found
      cases found
      have built := after _ (Table.mem_update.mpr ⟨existing, member, moved⟩) rfl
      have inputsKept : ((becomeBuilding snapshot now).apply existing).inputs = existing.inputs :=
        (becomeBuilding snapshot now).key existing
      rw [inputsKept, same] at built
      exact built
    · intro alive
      apply Table.forall_update paired
      intro link _ met _ _
      have inputsKept : ((becomeBuilding snapshot now).apply link).inputs = link.inputs :=
        (becomeBuilding snapshot now).key link
      rw [inputsKept, of_decide_eq_true met]
      exact alive opened rfl
  | first created same building linked rows =>
    rename_i opened
    rw [rows]
    constructor
    · intro after inputs found
      cases found
      rw [← same]
      exact after created (List.mem_append_right _ List.mem_cons_self) building
    · intro alive link member stillBuilding
      rcases List.mem_append.mp member with old | new
      · exact paired link old stillBuilding
      · rw [List.mem_singleton.mp new, same]
        exact alive opened rfl

theorem tryBeginBuild_paired (paired : store.Paired) (tenantId : TenantId) (newId : Uuid)
    (snapshot : NewDatasetSemanticLinkSnapshot) (now : DateTime) :
    (tryBeginBuild store tenantId owner newId snapshot now).2.Paired ↔
      ∀ inputs, openedInputs owner store.links tenantId newId snapshot = some inputs →
        HasLiveRun store.runs inputs := by
  have begun := @tryBeginBuild_links owner store tenantId newId snapshot now
  unfold LinkStore.Paired
  rw [tryBeginBuild_runs]
  exact begun.paired_iff paired

theorem openedInputs_eq_some {links : Table linkSchema} {snapshot : NewDatasetSemanticLinkSnapshot}
    (opened : openedInputs owner links tenantId newId snapshot = some inputs) :
    ∃ pair, canonicalDatasetSemanticLinkPair snapshot.leftDatasetId snapshot.rightDatasetId
        snapshot.leftSnapshotId snapshot.rightSnapshotId = .ok pair ∧
      inputs = pairInputs tenantId pair snapshot.generationVersion := by
  unfold openedInputs at opened
  split at opened
  · split at opened
    · cases opened
    · rename_i pair canonical
      refine ⟨pair, canonical, ?_⟩
      dsimp only at opened
      split at opened
      · split at opened
        · cases opened
          rfl
        · cases opened
      · split at opened
        · cases opened
          rfl
        · cases opened
  · cases opened

theorem createOrGetRun_paired (paired : store.Paired) (newRunId : Uuid) (tenantId : TenantId)
    (run : NewDatasetSemanticLinkRun) (now : DateTime) :
    (createOrGetRun store tenantId owner newRunId run now).2.Paired := by
  rcases createOrGetRun_cases owner store tenantId newRunId run now with
    ⟨error, made, _⟩ | ⟨pair, existing, _, _, _, _, made⟩ | ⟨pair, runs, _, rows, _, made⟩
  · rw [made]
    exact paired
  · rw [made]
    exact paired.updateRuns fun _ _ alive => alive
  · rw [made]
    intro link member building
    obtain ⟨old, inside, same, alive⟩ := paired link member building
    refine ⟨old, ?_, same, alive⟩
    rw [rows]
    exact List.mem_append_left _ inside

/-- A merged run is as live as it was. -/
theorem merged_live_iff {existing : DatasetSemanticLinkRun} (given : NewDatasetSemanticLinkRun)
    (now : DateTime) (member : existing ∈ runs.rows) (same : existing.inputs = inputs) :
    HasLiveRun (runs.update (fun other => other.inputs = inputs) (becomeMerged given now)) inputs ↔
      existing.status.isLive = true := by
  have moved : (becomeMerged given now).on (fun other => other.inputs = inputs) existing =
      (becomeMerged given now).apply existing := by
    simp [Change.on, same]
  have merged := hasLiveRun_iff (Table.mem_update.mpr ⟨existing, member, moved⟩)
  have sameInputs : ((becomeMerged given now).apply existing).inputs = inputs := same
  rw [sameInputs] at merged
  exact merged

/-- The build that is announced for a run has the inputs of the run. -/
theorem openedInputs_announced {links : Table linkSchema} {run : NewDatasetSemanticLinkRun}
    (canonical : canonicalDatasetSemanticLinkPair run.leftDatasetId run.rightDatasetId run.leftSnapshotId
      run.rightSnapshotId = .ok pair)
    (opened : openedInputs owner links tenantId newId (announcedSnapshot run) = some inputs) :
    inputs = pairInputs tenantId pair run.generationVersion := by
  obtain ⟨other, otherCanonical, given⟩ := openedInputs_eq_some opened
  have equal : other = pair := Except.ok.inj (otherCanonical.symm.trans canonical)
  rw [given, equal]
  rfl

/-- The source announces a build for every run that is not dead, so also for
one that has succeeded and will not be run again. -/
theorem ensureDatasetSemanticLinkRun_paired (paired : store.Paired) (newRunId newLinkId : Uuid)
    (tenantId : TenantId) (run : NewDatasetSemanticLinkRun) (now : DateTime) :
    (ensureDatasetSemanticLinkRun store owner newRunId newLinkId tenantId run now).2.Paired ↔
      (0 < run.maxAttempts → ∀ inputs,
        openedInputs owner store.links tenantId newLinkId (announcedSnapshot run) = some inputs →
        ∀ old ∈ store.runs.rows, old.inputs = inputs → old.status ≠ .succeeded) := by
  have created := @createOrGetRun_paired owner store paired newRunId tenantId run now
  rw [ensureDatasetSemanticLinkRun_store]
  rcases createOrGetRun_cases owner store tenantId newRunId run now with
    ⟨error, made, alone⟩ | ⟨pair, existing, positive, canonical, member, same, made⟩ |
    ⟨pair, runs, canonical, rows, new, made⟩
  · simp only [made]
    refine iff_of_true paired ?_
    intro positive inputs opened old inside equal
    obtain ⟨pair, canonical, given⟩ := openedInputs_eq_some opened
    exact False.elim (alone positive pair canonical old inside (equal.trans given))
  · rw [made] at created
    have status : ((becomeMerged run now).apply existing).status = existing.status := rfl
    simp only [made, status]
    by_cases dead : existing.status = .deadLetter
    · rw [if_pos dead]
      refine iff_of_true created ?_
      intro _ inputs opened old inside equal
      rw [openedInputs_announced canonical opened, ← same] at equal
      rw [store.runs.key_inj inside member equal, dead]
      decide
    · rw [if_neg dead, tryBeginBuild_paired created]
      constructor
      · intro built _ inputs opened old inside equal
        have alive := built inputs opened
        rw [openedInputs_announced canonical opened] at alive equal
        rw [store.runs.key_inj inside member (equal.trans same.symm)]
        exact (LinkRunStatus.isLive_iff.mp ((merged_live_iff run now member same).mp alive)).1
      · intro unfinished inputs opened
        have ended := unfinished positive inputs opened existing member
        rw [openedInputs_announced canonical opened] at ended ⊢
        exact (merged_live_iff run now member same).mpr (LinkRunStatus.isLive_iff.mpr ⟨ended same, dead⟩)
  · rw [made] at created
    have queued : HasLiveRun runs (pairInputs tenantId pair run.generationVersion) := by
      refine ⟨queuedRun tenantId newRunId pair run now, ?_, rfl, rfl⟩
      rw [rows]
      exact List.mem_append_right _ List.mem_cons_self
    have waiting : (queuedRun tenantId newRunId pair run now).status ≠ .deadLetter := by simp [queuedRun]
    simp only [made, if_neg waiting]
    rw [tryBeginBuild_paired created]
    constructor
    · intro _ _ inputs opened old inside equal
      exact False.elim (new.alone old inside (equal.trans (openedInputs_announced canonical opened)))
    · intro _ inputs opened
      rw [openedInputs_announced canonical opened]
      exact queued

theorem claimReadyRunForDatasets_paired (paired : store.Paired) (tenantId : TenantId) (locked : List Uuid)
    (claimedAt : DateTime) (allowed : List DatasetId) :
    (claimReadyRunForDatasets store tenantId locked claimedAt allowed).2.Paired := by
  unfold claimReadyRunForDatasets
  split
  · exact paired
  · split
    · exact paired
    · exact paired.updateRuns fun _ _ _ => rfl

/-- The builds of the runs that are given up in a recovery fail with them. -/
theorem recoverStaleRuns_paired (paired : store.Paired)
    (linked : ∀ link ∈ store.links.rows, LinkReferenced owner link)
    (queued : ∀ run ∈ store.runs.rows, RunReferenced owner run) (tenantId : TenantId)
    (claimedBefore now : DateTime) (allowed : List DatasetId) :
    (recoverStaleRuns store tenantId claimedBefore now allowed).2.Paired := by
  unfold recoverStaleRuns
  split
  · exact paired
  · let expired := becomeFailedAttempt "worker_lease_expired" now now
    let recovered := store.runs.returning (isStale tenantId claimedBefore allowed) expired
    obtain ⟨quiet, survivors⟩ := @failRecoveredBuilds_links owner tenantId now recovered store.links
    apply paired.settle quiet.builds
    intro link member building run inside stale same
    have returned : expired.apply run ∈ recovered :=
      List.mem_map.mpr ⟨run, List.mem_filter.mpr ⟨inside, stale⟩, rfl⟩
    have spared := survivors link member building (expired.apply run) returned
    have tenant : run.tenantId = tenantId := (of_decide_eq_true stale).1
    have built := @buildOfRun_of_inputs owner link (expired.apply run)
      (linked link (quiet.builds link member building)) (queued run inside) same building
    have sameTenant : (expired.apply run).tenantId = tenantId := tenant
    rw [sameTenant, spared] at built
    cases built

section Reports

variable {claimed : DatasetSemanticLinkRun}

/-- What a claim says about its run still holds when the worker reports. -/
structure Handed (owner : SnapshotOwner) (store : LinkStore) (claimed : DatasetSemanticLinkRun) : Prop where
  links : ∀ link ∈ store.links.rows, LinkReferenced owner link
  referenced : RunReferenced owner claimed
  inputs : ∀ run ∈ store.runs.rows, run.id = claimed.id → run.inputs = claimed.inputs

theorem Referenced.handed (keys : Referenced owner system) (member : claimed ∈ system.claims) :
    Handed owner system.store claimed := by
  obtain ⟨referenced, run, inside, identity, inputs⟩ := keys.claims claimed member
  refine ⟨keys.links, referenced, ?_⟩
  intro other otherInside same
  rw [system.store.runs.identity_inj otherInside inside (same.trans identity.symm)]
  exact inputs

/-- No build of the claimed run is left once its builds have failed. -/
theorem Handed.settled (handed : Handed owner store claimed)
    (member : link ∈ (failBuildForRun claimed.tenantId store.links claimed failureCode now).rows)
    (building : link.status = .building) (inside : run ∈ store.runs.rows)
    (running : isRunning claimed.tenantId claimed.id run = true) : link.inputs ≠ run.inputs := by
  intro same
  obtain ⟨before, spared⟩ := failBuildForRun_survivor member building
  have equal := same.trans (handed.inputs run inside (of_decide_eq_true running).2.1)
  rw [buildOfRun_of_inputs (handed.links link before) handed.referenced equal building] at spared
  cases spared

theorem markObsoleteRunSucceeded_paired (paired : store.Paired) (handed : Handed owner store claimed)
    (failureCode : String) (finishedAt : DateTime) :
    (markObsoleteRunSucceeded store claimed.tenantId claimed failureCode finishedAt).2.Paired := by
  simp only [markObsoleteRunSucceeded, ne_eq, not_true_eq_false, if_false]
  split
  · have quiet : NoNewBuild owner store.links
        (failBuildForRun claimed.tenantId store.links claimed (trim failureCode) finishedAt) :=
      (quiet_failed _ _ finishedAt).noNewBuild
    apply paired.settle quiet.builds
    intro link member building run inside running same
    exact False.elim (handed.settled member building inside running same)
  · rename_i unmoved
    have idle := Table.returning_head_none.mp (Option.not_isSome_iff_eq_none.mp unmoved)
    apply paired.settle fun _ member _ => member
    intro link member building run inside running same
    rw [idle run inside] at running
    cases running

theorem retryOrDeadLetter_paired (paired : store.Paired) (handed : Handed owner store claimed)
    (failureCode : String) (availableAt now : DateTime) :
    (retryOrDeadLetter store claimed.tenantId claimed failureCode availableAt now).2.Paired := by
  simp only [retryOrDeadLetter, ne_eq, not_true_eq_false, if_false]
  split
  · have quiet : NoNewBuild owner store.links
        (failBuildForRun claimed.tenantId store.links claimed (trim failureCode) now) :=
      (quiet_failed _ _ now).noNewBuild
    apply paired.settle quiet.builds
    intro link member building run inside running same
    exact False.elim (handed.settled member building inside running same)
  · rename_i spared
    apply paired.settle fun _ member _ => member
    intro link member building run inside running same
    let failed := becomeFailedAttempt (trim failureCode) availableAt now
    have single : ∀ other, isRunning claimed.tenantId claimed.id other = true → other.id = claimed.id :=
      fun other met => (of_decide_eq_true met).2.1
    have returned : (store.runs.returning (isRunning claimed.tenantId claimed.id) failed).head? =
        some (failed.apply run) :=
      (Table.returning_head_some single).mpr ⟨run, inside, running, rfl⟩
    have alive : (failed.apply run).status ≠ .deadLetter := by
      rw [returned] at spared
      simpa using spared
    apply LinkRunStatus.isLive_iff.mpr
    refine ⟨?_, alive⟩
    simp only [becomeFailedAttempt]
    split <;> simp

/-- Success does not look at the builds of its run. -/
theorem markRunSucceeded_paired (paired : store.Paired) (tenantId : TenantId) (runId : Uuid)
    (finishedAt : DateTime) :
    (markRunSucceeded store tenantId runId finishedAt).2.Paired ↔
      ∀ run ∈ store.runs.rows, isRunning tenantId runId run = true →
        ∀ link ∈ store.links.rows, link.status = .building → link.inputs ≠ run.inputs := by
  constructor
  · intro after run inside running link member building same
    have moved : (becomeSucceeded finishedAt).on (isRunning tenantId runId) run =
        (becomeSucceeded finishedAt).apply run := if_pos running
    have finished : (becomeSucceeded finishedAt).apply run ∈
        (store.runs.update (isRunning tenantId runId) (becomeSucceeded finishedAt)).rows :=
      Table.mem_update.mpr ⟨run, inside, moved⟩
    have sameInputs : ((becomeSucceeded finishedAt).apply run).inputs = run.inputs :=
      (becomeSucceeded finishedAt).key run
    have alive := after link member building
    rw [same, ← sameInputs] at alive
    cases (hasLiveRun_iff finished).mp alive
  · intro unbuilt
    apply paired.settle fun _ member _ => member
    intro link member building run inside running same
    exact False.elim (unbuilt run inside running link member building same)

end Reports

/-- The operations that leave no build behind: a build is begun for inputs with
a live run only, a run is ensured again only while it has not succeeded, and a
run succeeds only when none of its inputs' snapshots is still building. -/
def KeepsPaired (owner : SnapshotOwner) (system : LinkSystem) : LinkOperation → Prop
  | .ensureRun _ newLinkId tenantId run _ => 0 < run.maxAttempts → ∀ inputs,
    openedInputs owner system.store.links tenantId newLinkId (announcedSnapshot run) = some inputs →
    ∀ old ∈ system.store.runs.rows, old.inputs = inputs → old.status ≠ .succeeded
  | .tryBeginBuild newLinkId tenantId snapshot _ => ∀ inputs,
    openedInputs owner system.store.links tenantId newLinkId snapshot = some inputs →
    HasLiveRun system.store.runs inputs
  | .report claim (.succeeded _) => ∀ claimed, system.claims[claim]? = some claimed →
    ∀ run ∈ system.store.runs.rows, isRunning claimed.tenantId claimed.id run = true →
    ∀ link ∈ system.store.links.rows, link.status = .building → link.inputs ≠ run.inputs
  | _ => True

theorem perform_paired_iff (keys : Referenced owner system) (paired : system.store.Paired)
    (operation : LinkOperation) :
    (system.perform owner operation).store.Paired ↔ KeepsPaired owner system operation := by
  cases operation with
  | ensureRun newRunId newLinkId tenantId run now =>
    exact ensureDatasetSemanticLinkRun_paired paired newRunId newLinkId tenantId run now
  | tryBeginBuild newLinkId tenantId snapshot now =>
    exact tryBeginBuild_paired paired tenantId newLinkId snapshot now
  | report claim report =>
    cases found : system.claims[claim]? with
    | none =>
      simp only [LinkSystem.perform, found]
      cases report with
      | succeeded finishedAt => simpa [KeepsPaired, found] using paired
      | _ => exact iff_of_true paired trivial
    | some claimed =>
      have handed := keys.handed (List.mem_of_getElem? found)
      simp only [LinkSystem.perform, found]
      cases report with
      | succeeded finishedAt =>
        simp only [KeepsPaired, found, Option.some.injEq, forall_eq']
        exact markRunSucceeded_paired paired claimed.tenantId claimed.id finishedAt
      | obsolete failureCode finishedAt =>
        exact iff_of_true (markObsoleteRunSucceeded_paired paired handed failureCode finishedAt) trivial
      | failed failureCode availableAt now =>
        exact iff_of_true (retryOrDeadLetter_paired paired handed failureCode availableAt now) trivial
      | deferred availableAt now => exact iff_of_true (paired.updateRuns fun _ _ _ => rfl) trivial
  | createOrGetRun newRunId tenantId run now =>
    exact iff_of_true (createOrGetRun_paired paired newRunId tenantId run now) trivial
  | markReady tenantId left right linkSnapshotId manifest nodeCount edgeCount generatedAt =>
    have quiet := @markReady_links owner system.store tenantId left right linkSnapshotId manifest nodeCount
      edgeCount generatedAt
    have runs := markReady_runs system.store tenantId left right linkSnapshotId manifest nodeCount edgeCount
      generatedAt
    exact iff_of_true (paired.quiet quiet runs) trivial
  | markFailed tenantId left right linkSnapshotId failureCode now =>
    have quiet := @markFailed_links owner system.store tenantId left right linkSnapshotId failureCode now
    have runs := markFailed_runs system.store tenantId left right linkSnapshotId failureCode now
    exact iff_of_true (paired.quiet quiet runs) trivial
  | markStale tenantId datasetId now =>
    have quiet := @markReadyLinksStaleForDataset_links owner system.store tenantId datasetId now
    exact iff_of_true (paired.quiet quiet rfl) trivial
  | claim tenantId locked claimedAt allowed =>
    exact iff_of_true (claimReadyRunForDatasets_paired paired tenantId locked claimedAt allowed) trivial
  | recover tenantId claimedBefore now allowed =>
    exact iff_of_true (recoverStaleRuns_paired paired keys.links keys.runs tenantId claimedBefore now allowed)
      trivial
  | revive tenantId runId now => exact iff_of_true (paired.updateRuns fun _ _ _ => rfl) trivial

/-- In every state of a run each build has a live run of its inputs, exactly
when every operation of the run keeps them paired. -/
theorem builds_paired_iff (owner : SnapshotOwner) (operations : List LinkOperation) :
    Always (LinkSystem.perform owner) (·.store.Paired) .empty operations ↔
      Guarded (LinkSystem.perform owner) (KeepsPaired owner) .empty operations := by
  have initial : LinkSystem.empty.store.Paired := by
    intro link member
    cases member
  apply always_iff_guarded (LinkSystem.perform owner) _ _ (referenced_empty owner) initial
  · intro system operation keys
    exact perform_referenced keys operation
  · intro system operation keys paired
    exact perform_paired_iff keys paired operation

def ensuredAgain : List LinkOperation := [
  .ensureRun ⟨"run"⟩ ⟨"link"⟩ ⟨"tenant"⟩ sampleRun 0,
  .claim ⟨"tenant"⟩ [] 10 [⟨"dataset 1"⟩, ⟨"dataset 2"⟩],
  .report 0 (.obsolete "semantic_link_input_stale" 20),
  .ensureRun ⟨"run 2"⟩ ⟨"link 2"⟩ ⟨"tenant"⟩ sampleRun 30]

/-- A run that ended obsolete is ensured again: its snapshot is building once
more and nobody will build it. -/
theorem obsolete_run_reopened :
    let system := ensuredAgain.foldl (LinkSystem.perform sampleOwner) .empty
    system.store.links.rows.map (·.status) = [.building] ∧
      system.store.runs.rows.map (·.status) = [.succeeded] ∧ ¬ system.store.Paired := by
  intro system
  have builds : system.store.links.rows.map (·.status) = [.building] := by decide
  have finished : system.store.runs.rows.map (·.status) = [.succeeded] := by decide
  refine ⟨builds, finished, ?_⟩
  intro paired
  have opened : LinkSnapshotStatus.building ∈ system.store.links.rows.map (·.status) := by
    rw [builds]
    exact List.mem_cons_self
  obtain ⟨link, member, building⟩ := List.mem_map.mp opened
  obtain ⟨run, inside, _, alive⟩ := paired link member building
  have ended : run.status ∈ system.store.runs.rows.map (·.status) := List.mem_map.mpr ⟨run, inside, rfl⟩
  rw [finished] at ended
  rw [List.mem_singleton.mp ended] at alive
  cases alive

end DataMax.SemanticLink
