import DataMax.SemanticLink.Builds

/-! The foreign keys of links and runs, and the rows that claims refer to. -/

namespace DataMax.SemanticLink

open Domain Library

variable {owner : SnapshotOwner} {system : LinkSystem}

theorem BuildOpened.referenced (opened : BuildOpened owner before inputs after)
    (linked : ∀ link ∈ before.rows, LinkReferenced owner link) :
    ∀ link ∈ after.rows, LinkReferenced owner link := by
  cases opened with
  | nothing => exact linked
  | again existing member same snapshot now =>
    apply Table.forall_update linked
    intro link _ _ link_referenced
    exact @referenced_apply owner link (becomeBuilding snapshot now) link_referenced rfl rfl
  | first created same building created_referenced rows =>
    intro link member
    rw [rows] at member
    rcases List.mem_append.mp member with old | new
    · exact linked link old
    · rw [List.mem_singleton.mp new]
      exact created_referenced

theorem RunChange.referenced (change : RunChange event run next) (queued : RunReferenced owner run) :
    RunReferenced owner next := by
  obtain ⟨tenant, leftSnapshot, rightSnapshot, _⟩ := LinkInputs.mk.inj change.inputs
  obtain ⟨left, right⟩ := change.datasets
  unfold RunReferenced
  rw [tenant, leftSnapshot, rightSnapshot, left, right]
  exact queued

theorem RunsStep.referenced (step : RunsStep owner event before after)
    (queued : ∀ run ∈ before.rows, RunReferenced owner run) :
    ∀ run ∈ after.rows, RunReferenced owner run := by
  intro run member
  rcases step.origin member with ⟨old, inside, change⟩ | ⟨_, new⟩
  · exact change.referenced (queued old inside)
  · exact ⟨new.left, new.right⟩

theorem createOrGetRun_links (owner : SnapshotOwner) (store : LinkStore) (tenantId : TenantId)
    (newRunId : Uuid) (run : NewDatasetSemanticLinkRun) (now : DateTime) :
    (createOrGetRun store tenantId owner newRunId run now).2.links = store.links := by
  rcases createOrGetRun_cases owner store tenantId newRunId run now with
    ⟨_, same, _⟩ | ⟨_, _, _, _, _, _, same⟩ | ⟨_, _, _, _, _, same⟩
  all_goals rw [same]

theorem ensureDatasetSemanticLinkRun_links (owner : SnapshotOwner) (store : LinkStore)
    (newRunId newLinkId : Uuid) (tenantId : TenantId) (run : NewDatasetSemanticLinkRun) (now : DateTime) :
    let created := createOrGetRun store tenantId owner newRunId run now
    let after := (ensureDatasetSemanticLinkRun store owner newRunId newLinkId tenantId run now).2.links
    (after = store.links ∧ ∀ persisted, created.1 = .ok persisted → persisted.status = .deadLetter) ∨
      ∃ persisted, created.1 = .ok persisted ∧ persisted.status ≠ .deadLetter ∧
        BuildOpened owner store.links
          (openedInputs owner store.links tenantId newLinkId (announcedSnapshot run)) after := by
  have links := createOrGetRun_links owner store tenantId newRunId run now
  intro created after
  have same := @ensureDatasetSemanticLinkRun_store owner store newRunId newLinkId tenantId run now
  simp only [after, same]
  split
  · rename_i made
    rw [made] at links
    exact .inl ⟨links, by simp [created, made]⟩
  · rename_i persisted store' made
    rw [made] at links
    by_cases dead : persisted.status = .deadLetter
    · rw [if_pos dead]
      refine .inl ⟨links, ?_⟩
      intro other found
      simp only [created, made, Except.ok.injEq] at found
      exact found ▸ dead
    · rw [if_neg dead]
      have opened := @tryBeginBuild_links owner store' tenantId newLinkId (announcedSnapshot run) now
      simp only at links
      rw [links] at opened
      exact .inr ⟨persisted, by simp [created, made], dead, opened⟩

theorem reportOn_links (store : LinkStore) (claimed : DatasetSemanticLinkRun) (report : WorkerReport) :
    NoNewBuild owner store.links (reportOn store claimed report).links := by
  cases report with
  | succeeded finishedAt => exact .refl owner store.links
  | obsolete failureCode finishedAt =>
    simp only [reportOn, markObsoleteRunSucceeded, ne_eq, not_true_eq_false, if_false]
    split
    · exact (quiet_failed _ (trim failureCode) finishedAt).noNewBuild
    · exact .refl owner store.links
  | failed failureCode availableAt now =>
    simp only [reportOn, retryOrDeadLetter, ne_eq, not_true_eq_false, if_false]
    split
    · exact (quiet_failed _ (trim failureCode) now).noNewBuild
    · exact .refl owner store.links
  | deferred availableAt now => exact .refl owner store.links

/-- All foreign keys hold and the runs that were handed out are still in the queue. -/
structure Referenced (owner : SnapshotOwner) (system : LinkSystem) : Prop where
  links : ∀ link ∈ system.store.links.rows, LinkReferenced owner link
  runs : ∀ run ∈ system.store.runs.rows, RunReferenced owner run
  claims : ∀ claimed ∈ system.claims, RunReferenced owner claimed ∧
    ∃ run ∈ system.store.runs.rows, run.id = claimed.id ∧ run.inputs = claimed.inputs

theorem perform_links (linked : ∀ link ∈ system.store.links.rows, LinkReferenced owner link)
    (operation : LinkOperation) :
    ∀ link ∈ (system.perform owner operation).store.links.rows, LinkReferenced owner link := by
  cases operation with
  | ensureRun newRunId newLinkId tenantId run now =>
    rcases ensureDatasetSemanticLinkRun_links owner system.store newRunId newLinkId tenantId run now with
      ⟨same, _⟩ | ⟨_, _, _, opened⟩
    · simp only [LinkSystem.perform, same]
      exact linked
    · exact opened.referenced linked
  | createOrGetRun newRunId tenantId run now =>
    simp only [LinkSystem.perform, createOrGetRun_links]
    exact linked
  | tryBeginBuild newLinkId tenantId snapshot now =>
    exact (tryBeginBuild_links system.store tenantId newLinkId snapshot now).referenced linked
  | markReady tenantId left right linkSnapshotId manifest nodeCount edgeCount generatedAt =>
    exact (markReady_links system.store tenantId left right linkSnapshotId manifest nodeCount edgeCount
      generatedAt).referenced linked
  | markFailed tenantId left right linkSnapshotId failureCode now =>
    exact (markFailed_links system.store tenantId left right linkSnapshotId failureCode now).referenced linked
  | markStale tenantId datasetId now =>
    exact (markReadyLinksStaleForDataset_links system.store tenantId datasetId now).referenced linked
  | claim tenantId locked claimedAt allowed =>
    simp only [LinkSystem.perform, claimReadyRunForDatasets]
    split
    · exact linked
    · split <;> exact linked
  | recover tenantId claimedBefore now allowed =>
    simp only [LinkSystem.perform, recoverStaleRuns]
    split
    · exact linked
    · exact (failRecoveredBuilds_links tenantId now _ system.store.links).1.referenced linked
  | revive tenantId runId now => exact linked
  | report claim report =>
    simp only [LinkSystem.perform]
    split
    · exact linked
    · exact (reportOn_links system.store _ report).referenced linked

/-- A claim hands out a row of the queue as it is after the claim. -/
theorem claimReadyRunForDatasets_handed {store : LinkStore}
    (handed : (claimReadyRunForDatasets store tenantId locked claimedAt allowed).1 = some claimed) :
    claimed ∈ (claimReadyRunForDatasets store tenantId locked claimedAt allowed).2.runs.rows := by
  unfold claimReadyRunForDatasets at handed ⊢
  split at handed
  · cases handed
  · rename_i given
    rw [if_neg given]
    split at handed
    · cases handed
    · rename_i next found
      obtain ⟨old, inside, same⟩ := List.mem_map.mp (List.mem_of_mem_head? handed)
      obtain ⟨member, met⟩ := List.mem_filter.mp inside
      apply Table.mem_update.mpr
      exact ⟨old, member, by rw [← same, Change.on, if_pos met]⟩

theorem perform_claims (operation : LinkOperation)
    (handed : claimed ∈ (system.perform owner operation).claims) :
    claimed ∈ system.claims ∨ claimed ∈ (system.perform owner operation).store.runs.rows := by
  cases operation with
  | claim tenantId locked claimedAt allowed =>
    rcases List.mem_append.mp handed with earlier | new
    · exact .inl earlier
    · exact .inr (claimReadyRunForDatasets_handed (Option.mem_toList.mp new))
  | report claim report =>
    simp only [LinkSystem.perform] at handed
    split at handed
    · exact .inl handed
    · exact .inl handed
  | _ => exact .inl handed

theorem perform_referenced (keys : Referenced owner system) (operation : LinkOperation) :
    Referenced owner (system.perform owner operation) := by
  have step := @perform_runs owner system operation
  have queued := step.referenced keys.runs
  refine ⟨perform_links keys.links operation, queued, ?_⟩
  intro claimed handed
  rcases perform_claims operation handed with earlier | new
  · obtain ⟨referenced, run, member, identity, inputs⟩ := keys.claims claimed earlier
    obtain ⟨next, inside, change⟩ := step.kept member
    exact ⟨referenced, next, inside, change.id.trans identity, change.inputs.trans inputs⟩
  · exact ⟨queued claimed new, claimed, new, rfl, rfl⟩

theorem referenced_empty (owner : SnapshotOwner) : Referenced owner .empty := by
  constructor <;> simp [LinkSystem.empty, LinkStore.empty, Table.empty]

end DataMax.SemanticLink
