import DataMax.SemanticLink.System

/-! What the operations do to the builds among the link snapshots: which of them
open a build, and which builds survive. -/

namespace DataMax.SemanticLink

open Domain Json Library

variable {owner : SnapshotOwner} {store : LinkStore} {links : Table linkSchema}
  {link : DatasetSemanticLinkSnapshot}

/-- The foreign keys of a link snapshot hold. -/
def LinkReferenced (owner : SnapshotOwner) (link : DatasetSemanticLinkSnapshot) : Prop :=
  owner link.leftSnapshotId = some (link.tenantId, link.leftDatasetId) ∧
    owner link.rightSnapshotId = some (link.tenantId, link.rightDatasetId)

def RunReferenced (owner : SnapshotOwner) (run : DatasetSemanticLinkRun) : Prop :=
  owner run.leftSnapshotId = some (run.tenantId, run.leftDatasetId) ∧
    owner run.rightSnapshotId = some (run.tenantId, run.rightDatasetId)

/-- With the foreign keys, equal inputs mean equal datasets. -/
theorem buildOfRun_of_inputs {run : DatasetSemanticLinkRun} (linked : LinkReferenced owner link)
    (queued : RunReferenced owner run) (same : link.inputs = run.inputs)
    (building : link.status = .building) : buildOfRun run.tenantId run link = true := by
  obtain ⟨tenant, left, right, _⟩ := LinkInputs.mk.inj same
  have leftOwner := linked.1.symm.trans (left ▸ queued.1)
  have rightOwner := linked.2.symm.trans (right ▸ queued.2)
  simp only [Option.some.injEq, Prod.mk.injEq] at leftOwner rightOwner
  simp [buildOfRun, tenant, left, right, leftOwner.2, rightOwner.2, building]

/-- A change of a link snapshot that keeps its datasets and starts no build. -/
structure Quiet (condition : DatasetSemanticLinkSnapshot → Bool) (change : Change linkSchema) : Prop where
  left : ∀ link, (change.apply link).leftDatasetId = link.leftDatasetId
  right : ∀ link, (change.apply link).rightDatasetId = link.rightDatasetId
  ends : ∀ link, condition link = true → (change.apply link).status ≠ .building

theorem referenced_apply {change : Change linkSchema} (linked : LinkReferenced owner link)
    (left : (change.apply link).leftDatasetId = link.leftDatasetId)
    (right : (change.apply link).rightDatasetId = link.rightDatasetId) :
    LinkReferenced owner (change.apply link) := by
  obtain ⟨tenant, leftSnapshot, rightSnapshot, _⟩ := LinkInputs.mk.inj (change.key link)
  unfold LinkReferenced
  rw [tenant, leftSnapshot, rightSnapshot, left, right]
  exact linked

/-- The builds after some operations were builds before them, and all foreign
keys still hold. -/
structure NoNewBuild (owner : SnapshotOwner) (before after : Table linkSchema) : Prop where
  referenced : (∀ link ∈ before.rows, LinkReferenced owner link) →
    ∀ link ∈ after.rows, LinkReferenced owner link
  builds : ∀ link ∈ after.rows, link.status = .building → link ∈ before.rows

theorem NoNewBuild.refl (owner : SnapshotOwner) (links : Table linkSchema) :
    NoNewBuild owner links links :=
  ⟨fun referenced => referenced, fun _ member _ => member⟩

theorem NoNewBuild.trans (first : NoNewBuild owner before middle) (second : NoNewBuild owner middle after) :
    NoNewBuild owner before after where
  referenced := fun referenced => second.referenced (first.referenced referenced)
  builds := fun link member building => first.builds link (second.builds link member building) building

/-- A build that a quiet update leaves is one it did not select. -/
theorem Quiet.survivor (quiet : Quiet condition change) (member : link ∈ (links.update condition change).rows)
    (building : link.status = .building) : link ∈ links.rows ∧ condition link = false := by
  obtain ⟨old, inside, rfl⟩ := Table.mem_update.mp member
  rcases change.on_cases condition old with ⟨met, same⟩ | ⟨unmet, same⟩
  · rw [same] at building
    exact False.elim (quiet.ends old met building)
  · rw [same]
    exact ⟨inside, unmet⟩

theorem Quiet.noNewBuild (quiet : Quiet condition change) :
    NoNewBuild owner links (links.update condition change) where
  referenced := by
    intro referenced
    apply Table.forall_update referenced
    intro link _ _ linked
    exact referenced_apply linked (quiet.left link) (quiet.right link)
  builds := fun _ member building => (quiet.survivor member building).1

theorem quiet_failed (condition : DatasetSemanticLinkSnapshot → Bool) (failureCode : String)
    (now : DateTime) :
    Quiet condition (becomeFailed failureCode now) :=
  ⟨fun _ => rfl, fun _ => rfl, fun _ _ => by simp [becomeFailed]⟩

theorem quiet_ready (condition : DatasetSemanticLinkSnapshot → Bool) (manifest : Value)
    (nodeCount edgeCount : Int) (generatedAt : DateTime) :
    Quiet condition (becomeReady manifest nodeCount edgeCount generatedAt) :=
  ⟨fun _ => rfl, fun _ => rfl, fun _ _ => by simp [becomeReady]⟩

theorem quiet_superseded (condition : DatasetSemanticLinkSnapshot → Bool) (now : DateTime) :
    Quiet condition (becomeSuperseded now) :=
  ⟨fun _ => rfl, fun _ => rfl, fun _ _ => by simp [becomeSuperseded]⟩

theorem quiet_stale {condition : DatasetSemanticLinkSnapshot → Bool} (now : DateTime)
    (ready : ∀ link, condition link = true → link.status = .ready) : Quiet condition (becomeStale now) :=
  ⟨fun _ => rfl, fun _ => rfl, fun link met => by simp [becomeStale, ready link met]⟩

theorem markReady_links (store : LinkStore) (tenantId : TenantId) (left right : DatasetId)
    (linkSnapshotId : Uuid) (manifest : Value) (nodeCount edgeCount : Int) (generatedAt : DateTime) :
    NoNewBuild owner store.links (markReady store tenantId left right linkSnapshotId manifest nodeCount
      edgeCount generatedAt).2.links := by
  unfold markReady
  split
  · exact .refl owner store.links
  · split
    · exact .refl owner store.links
    · dsimp only
      split
      · exact .refl owner store.links
      · exact (quiet_ready _ manifest nodeCount edgeCount generatedAt).noNewBuild.trans
          (quiet_superseded _ generatedAt).noNewBuild

theorem markFailed_links (store : LinkStore) (tenantId : TenantId) (left right : DatasetId)
    (linkSnapshotId : Uuid) (failureCode : String) (now : DateTime) :
    NoNewBuild owner store.links
      (markFailed store tenantId left right linkSnapshotId failureCode now).2.links := by
  unfold markFailed
  split
  · exact .refl owner store.links
  · exact (quiet_failed _ _ now).noNewBuild

theorem markReadyLinksStaleForDataset_links (store : LinkStore) (tenantId : TenantId)
    (datasetId : DatasetId) (now : DateTime) :
    NoNewBuild owner store.links (markReadyLinksStaleForDataset store tenantId datasetId now).links := by
  apply Quiet.noNewBuild
  apply quiet_stale now
  intro link met
  exact (of_decide_eq_true met).2.1

theorem failBuildForRun_survivor {tenantId : TenantId} {run : DatasetSemanticLinkRun}
    (member : link ∈ (failBuildForRun tenantId links run failureCode now).rows)
    (building : link.status = .building) : link ∈ links.rows ∧ buildOfRun tenantId run link = false :=
  (quiet_failed _ failureCode now).survivor member building

theorem failRecoveredBuild_links (tenantId : TenantId) (now : DateTime) (links : Table linkSchema)
    (run : DatasetSemanticLinkRun) :
    NoNewBuild owner links (failRecoveredBuild tenantId now links run) ∧
      ∀ link ∈ (failRecoveredBuild tenantId now links run).rows, link.status = .building →
        buildOfRun tenantId run link = false := by
  have failed : NoNewBuild owner links (failBuildForRun tenantId links run "worker_lease_expired" now) :=
    (quiet_failed _ _ now).noNewBuild
  unfold failRecoveredBuild
  dsimp only
  split
  · have marked : Quiet (fun link => onPair tenantId ⟨run.leftDatasetId, run.rightDatasetId⟩ link ∧
        link.status = .ready) (becomeStale now) :=
      quiet_stale now fun link met => (of_decide_eq_true met).2
    refine ⟨failed.trans marked.noNewBuild, ?_⟩
    intro link member building
    exact (failBuildForRun_survivor (marked.survivor member building).1 building).2
  · exact ⟨failed, fun link member building => (failBuildForRun_survivor member building).2⟩

/-- A build that is left after the recovery belongs to none of the recovered runs. -/
theorem failRecoveredBuilds_links (tenantId : TenantId) (now : DateTime) (runs : List DatasetSemanticLinkRun)
    (links : Table linkSchema) :
    NoNewBuild owner links (runs.foldl (failRecoveredBuild tenantId now) links) ∧
      ∀ link ∈ (runs.foldl (failRecoveredBuild tenantId now) links).rows, link.status = .building →
        ∀ run ∈ runs, buildOfRun tenantId run link = false := by
  induction runs generalizing links with
  | nil => exact ⟨.refl owner links, by simp⟩
  | cons run rest ih =>
    have first := @failRecoveredBuild_links owner tenantId now links run
    obtain ⟨later, others⟩ := ih (failRecoveredBuild tenantId now links run)
    refine ⟨first.1.trans later, ?_⟩
    intro link member building other chosen
    rcases List.mem_cons.mp chosen with same | after
    · rw [same]
      exact first.2 link (later.builds link member building) building
    · exact others link member building other after

/-- The inputs for which a begun build is opened: nothing has been built for
them yet, or the last build of them has failed or was superseded. -/
def openedInputs (owner : SnapshotOwner) (links : Table linkSchema) (tenantId : TenantId) (newId : Uuid)
    (snapshot : NewDatasetSemanticLinkSnapshot) : Option LinkInputs :=
  if snapshot.manifest.isObject then
    match canonicalDatasetSemanticLinkPair snapshot.leftDatasetId snapshot.rightDatasetId
        snapshot.leftSnapshotId snapshot.rightSnapshotId with
    | .error _ => none
    | .ok pair =>
      let inputs := pairInputs tenantId pair snapshot.generationVersion
      match links.findKey inputs with
      | some link => if isEnded link then some inputs else none
      | none => if referenced owner tenantId pair ∧ newId ∉ links.rows.map DatasetSemanticLinkSnapshot.id
          then some inputs else none
  else none

/-- What beginning a build does to the link snapshots. -/
inductive BuildOpened (owner : SnapshotOwner) (before : Table linkSchema) :
    Option LinkInputs → Table linkSchema → Prop where
  | nothing : BuildOpened owner before none before
  | again (existing : DatasetSemanticLinkSnapshot) (member : existing ∈ before.rows)
      (same : existing.inputs = inputs) (snapshot : NewDatasetSemanticLinkSnapshot) (now : DateTime) :
      BuildOpened owner before (some inputs)
        (before.update (fun other => other.inputs = inputs) (becomeBuilding snapshot now))
  | first (created : DatasetSemanticLinkSnapshot) (same : created.inputs = inputs)
      (building : created.status = .building) (linked : LinkReferenced owner created)
      (rows : after.rows = before.rows ++ [created]) :
      BuildOpened owner before (some inputs) after

theorem tryBeginBuild_links (store : LinkStore) (tenantId : TenantId) (newId : Uuid)
    (snapshot : NewDatasetSemanticLinkSnapshot) (now : DateTime) :
    BuildOpened owner store.links (openedInputs owner store.links tenantId newId snapshot)
      (tryBeginBuild store tenantId owner newId snapshot now).2.links := by
  by_cases object : snapshot.manifest.isObject
  · cases canonical : canonicalDatasetSemanticLinkPair snapshot.leftDatasetId snapshot.rightDatasetId
        snapshot.leftSnapshotId snapshot.rightSnapshotId with
    | error error =>
      simp only [tryBeginBuild, openedInputs, validateDatasetSemanticLinkManifest, object, canonical, if_true]
      exact .nothing
    | ok pair =>
      simp only [tryBeginBuild, openedInputs, validateDatasetSemanticLinkManifest, object, canonical, if_true]
      have sameInputs : linkSchema.key (buildingLink tenantId newId pair snapshot now) =
          pairInputs tenantId pair snapshot.generationVersion := rfl
      cases outcome : store.links.insertOrUpdate (buildingLink tenantId newId pair snapshot now)
          (referenced owner tenantId pair) isEnded (becomeBuilding snapshot now) with
      | refused =>
        obtain ⟨absent, refused⟩ := Table.insertOrUpdate_refused outcome
        rw [sameInputs] at absent
        simp only [absent]
        have notFresh : ¬ (referenced owner tenantId pair = true ∧
            newId ∉ store.links.rows.map DatasetSemanticLinkSnapshot.id) := refused
        rw [if_neg notFresh]
        exact .nothing
      | skipped =>
        obtain ⟨existing, found, unmet⟩ := Table.insertOrUpdate_skipped outcome
        rw [sameInputs] at found
        simp only [found, unmet, Bool.false_eq_true, if_false]
        exact .nothing
      | updated links returned =>
        obtain ⟨existing, member, same, met, rfl, _⟩ := Table.insertOrUpdate_updated outcome
        rw [sameInputs] at same
        have found := Table.findKey_eq_some.mpr ⟨member, same⟩
        simp only [found, met, if_true]
        exact .again existing member same snapshot now
      | inserted links returned =>
        obtain ⟨alone, admitted, fresh, rows, _⟩ := Table.insertOrUpdate_inserted outcome
        rw [sameInputs] at alone
        have absent := Table.findKey_eq_none.mpr alone
        simp only [absent]
        have newest : newId ∉ store.links.rows.map DatasetSemanticLinkSnapshot.id := fresh
        rw [if_pos ⟨admitted, newest⟩]
        exact .first (buildingLink tenantId newId pair snapshot now) rfl rfl (referenced_iff.mp admitted) rows
  · simp only [tryBeginBuild, openedInputs, validateDatasetSemanticLinkManifest, object, if_false,
      Bool.false_eq_true]
    exact .nothing

end DataMax.SemanticLink
