import DataMax.SemanticLink.Planning

/-! Two ready snapshots ask for one and the same link, whichever of them plans
it. -/

namespace DataMax.SemanticLink

open Domain Library SemanticSnapshot

section Pairs

variable {leftDatasetId rightDatasetId : DatasetId} {leftSnapshotId rightSnapshotId : Uuid} {pair : LinkPair}

theorem canonicalPair_comm : canonicalDatasetSemanticLinkPair leftDatasetId rightDatasetId leftSnapshotId
    rightSnapshotId = canonicalDatasetSemanticLinkPair rightDatasetId leftDatasetId rightSnapshotId
      leftSnapshotId := by
  by_cases datasets : leftDatasetId = rightDatasetId
  · simp [canonicalDatasetSemanticLinkPair, datasets]
  by_cases snapshots : leftSnapshotId = rightSnapshotId
  · simp [canonicalDatasetSemanticLinkPair, datasets, Ne.symm datasets, snapshots]
  by_cases less : leftDatasetId < rightDatasetId
  · simp [canonicalDatasetSemanticLinkPair, datasets, Ne.symm datasets, snapshots, Ne.symm snapshots, less,
      Uuid.lt_asymm less]
  · have more := Uuid.lt_of_ne datasets less
    simp [canonicalDatasetSemanticLinkPair, datasets, Ne.symm datasets, snapshots, Ne.symm snapshots, less, more]

theorem canonicalPair_ok (found : canonicalDatasetSemanticLinkPair leftDatasetId rightDatasetId leftSnapshotId
      rightSnapshotId = .ok pair) :
    leftDatasetId ≠ rightDatasetId ∧ leftSnapshotId ≠ rightSnapshotId ∧
      (leftDatasetId < rightDatasetId ∧
          pair = ⟨⟨leftDatasetId, rightDatasetId⟩, leftSnapshotId, rightSnapshotId⟩ ∨
        rightDatasetId < leftDatasetId ∧
          pair = ⟨⟨rightDatasetId, leftDatasetId⟩, rightSnapshotId, leftSnapshotId⟩) := by
  unfold canonicalDatasetSemanticLinkPair at found
  split at found
  · cases found
  split at found
  · cases found
  next datasets snapshots =>
    refine ⟨datasets, snapshots, ?_⟩
    split at found
    next less =>
      cases found
      exact .inl ⟨less, rfl⟩
    next notLess =>
      cases found
      exact .inr ⟨Uuid.lt_of_ne datasets notLess, rfl⟩

/-- Distinct endpoints always have a canonical order, the same from both sides. -/
theorem canonicalPair_exists (datasets : leftDatasetId ≠ rightDatasetId)
    (snapshots : leftSnapshotId ≠ rightSnapshotId) :
    ∃ pair, canonicalDatasetSemanticLinkPair leftDatasetId rightDatasetId leftSnapshotId rightSnapshotId =
      .ok pair := by
  by_cases less : leftDatasetId < rightDatasetId <;>
    simp [canonicalDatasetSemanticLinkPair, datasets, snapshots, less]

/-- A canonical pair is in its own order. -/
theorem canonicalPair_canonical (found : canonicalDatasetSemanticLinkPair leftDatasetId rightDatasetId
      leftSnapshotId rightSnapshotId = .ok pair) :
    pair.leftDatasetId < pair.rightDatasetId ∧ canonicalDatasetSemanticLinkPair pair.leftDatasetId
      pair.rightDatasetId pair.leftSnapshotId pair.rightSnapshotId = .ok pair := by
  obtain ⟨datasets, snapshots, ⟨less, rfl⟩ | ⟨less, rfl⟩⟩ := canonicalPair_ok found
  · exact ⟨less, found⟩
  · exact ⟨less, canonicalPair_comm.symm.trans found⟩

theorem fingerprint_canonical {sha256 : String → List UInt8} {leftSourceFingerprint rightSourceFingerprint : String}
    (found : canonicalDatasetSemanticLinkPair leftDatasetId rightDatasetId leftSnapshotId rightSnapshotId =
      .ok pair) :
    datasetSemanticLinkSourceFingerprint sha256 pair.leftDatasetId pair.rightDatasetId pair.leftSnapshotId
        pair.rightSnapshotId leftSourceFingerprint rightSourceFingerprint =
      some (linkDigest sha256 pair leftSourceFingerprint rightSourceFingerprint) := by
  obtain ⟨less, same⟩ := canonicalPair_canonical found
  simp [datasetSemanticLinkSourceFingerprint, less, same]

theorem orderedFingerprints_comm {first second : ReadyDatasetSemanticLinkEndpoint}
    (datasets : first.datasetId ≠ second.datasetId) :
    orderedFingerprints first second = orderedFingerprints second first := by
  by_cases less : first.datasetId < second.datasetId
  · simp [orderedFingerprints, less, Uuid.lt_asymm less]
  · simp [orderedFingerprints, less, Uuid.lt_of_ne datasets less]

end Pairs

section Plans

variable {sha256 : String → List UInt8} {parseUuid : String → Option Uuid} {enabled : Bool}
  {tenantAllowlist datasetAllowlist : Option String} {current candidate : ReadyDatasetSemanticLinkEndpoint}
  {candidates : List ReadyDatasetSemanticLinkEndpoint} {availableAt : DateTime}

/-- The run that a candidate gives rise to, if any. -/
def linkRun (sha256 : String → List UInt8) (current : ReadyDatasetSemanticLinkEndpoint) (availableAt : DateTime)
    (candidate : ReadyDatasetSemanticLinkEndpoint) : Option NewDatasetSemanticLinkRun :=
  (linkedPair current candidate).map fun linked =>
    newRun availableAt linked.2 (linkDigest sha256 linked.2 (orderedFingerprints current candidate).1
      (orderedFingerprints current candidate).2)

theorem linkedPair_some {linked : ReadyDatasetSemanticLinkEndpoint × LinkPair}
    (found : linkedPair current candidate = some linked) :
    linked.1 = candidate ∧ canonicalDatasetSemanticLinkPair current.datasetId candidate.datasetId
      current.snapshotId candidate.snapshotId = .ok linked.2 := by
  unfold linkedPair at found
  split at found
  · cases found
  next pair canonical =>
    cases found
    exact ⟨rfl, canonical⟩

theorem mapM_some {Item Result : Type} {step : Item → Option Result} {result : Item → Result} {items : List Item}
    (steps : ∀ item ∈ items, step item = some (result item)) : items.mapM step = some (items.map result) := by
  induction items with
  | nil => rfl
  | cons head rest ih =>
    rw [List.mapM_cons, steps head List.mem_cons_self, ih fun item inside => steps item (.tail _ inside)]
    rfl

/-- No fingerprint panics, and every unique candidate gives at most one run. -/
theorem plan_eq : planDatasetSemanticLinkRunsFromValues sha256 parseUuid enabled tenantAllowlist datasetAllowlist
      current candidates availableAt =
    some ((uniqueCandidates parseUuid enabled tenantAllowlist datasetAllowlist current candidates).filterMap
      (linkRun sha256 current availableAt)) := by
  have runs : ∀ linked ∈ (uniqueCandidates parseUuid enabled tenantAllowlist datasetAllowlist current
      candidates).filterMap (linkedPair current), plannedRun sha256 current availableAt linked =
        some (newRun availableAt linked.2 (linkDigest sha256 linked.2 (orderedFingerprints current linked.1).1
          (orderedFingerprints current linked.1).2)) := by
    intro linked inside
    obtain ⟨candidate, _, found⟩ := List.mem_filterMap.mp inside
    obtain ⟨rfl, canonical⟩ := linkedPair_some found
    rw [plannedRun, fingerprint_canonical canonical]
    rfl
  rw [planDatasetSemanticLinkRunsFromValues, mapM_some runs, List.map_filterMap]
  apply congrArg some
  apply List.filterMap_congr
  intro candidate _
  cases found : linkedPair current candidate with
  | none => simp [linkRun, found]
  | some linked => simp [linkRun, found, (linkedPair_some found).1]

theorem linkRun_some {run : NewDatasetSemanticLinkRun}
    (found : linkRun sha256 current availableAt candidate = some run) :
    ∃ pair, canonicalDatasetSemanticLinkPair current.datasetId candidate.datasetId current.snapshotId
        candidate.snapshotId = .ok pair ∧
      run = newRun availableAt pair (linkDigest sha256 pair (orderedFingerprints current candidate).1
        (orderedFingerprints current candidate).2) := by
  obtain ⟨linked, linkedFound, rfl⟩ := Option.map_eq_some_iff.mp found
  exact ⟨linked.2, (linkedPair_some linkedFound).2, rfl⟩

theorem mem_uniqueCandidates (inside : candidate ∈ uniqueCandidates parseUuid enabled tenantAllowlist
      datasetAllowlist current candidates) :
    candidate ∈ candidates ∧ isLinkable parseUuid enabled tenantAllowlist datasetAllowlist current candidate =
      true :=
  List.mem_filter.mp (SortedMap.mem_keyed inside)

end Plans

section Statements

/-- The run links the snapshots of the two endpoints, in whichever order. -/
def joins (first second : ReadyDatasetSemanticLinkEndpoint) (run : NewDatasetSemanticLinkRun) : Bool :=
  let left := (run.leftDatasetId, run.leftSnapshotId)
  let right := (run.rightDatasetId, run.rightSnapshotId)
  left = endpointKey first && right = endpointKey second || left = endpointKey second && right = endpointKey first

/-- Of the candidates with the tenant and the snapshot of the endpoint the last
one carries its fingerprint. -/
def IsListed (endpoint : ReadyDatasetSemanticLinkEndpoint)
    (candidates : List ReadyDatasetSemanticLinkEndpoint) : Prop :=
  ∃ last, candidates.reverse.find? (fun candidate =>
      candidate.tenantId = endpoint.tenantId && endpointKey candidate = endpointKey endpoint) = some last ∧
    trim last.sourceFingerprint = trim endpoint.sourceFingerprint

/-- The snapshot behind the endpoint is stored and ready. -/
def HasSource (snapshots : SnapshotTable) (endpoint : ReadyDatasetSemanticLinkEndpoint) : Prop :=
  ∃ row, loadReadyById snapshots endpoint.tenantId endpoint.datasetId endpoint.snapshotId = some row ∧
    row.sourceFingerprint = endpoint.sourceFingerprint

/-- The fingerprint that the worker computes from the snapshots that it loads. -/
def recomputedFingerprint (sha256 : String → List UInt8) (snapshots : SnapshotTable) (tenantId : TenantId)
    (run : DatasetSemanticLinkRun) : Option String := do
  let leftSnapshot ← loadReadyById snapshots tenantId run.leftDatasetId run.leftSnapshotId
  let rightSnapshot ← loadReadyById snapshots tenantId run.rightDatasetId run.rightSnapshotId
  expectedFingerprint sha256 run leftSnapshot rightSnapshot

variable (sha256 : String → List UInt8) (parseUuid : String → Option Uuid) (enabled : Bool)
  (tenantAllowlist datasetAllowlist : Option String)

/-- Both endpoints plan exactly one run for the two of them, with the same ends
and the same fingerprint, and the worker arrives at that fingerprint too. -/
structure AgreedRun (first second : ReadyDatasetSemanticLinkEndpoint)
    (fromFirst fromSecond : List ReadyDatasetSemanticLinkEndpoint) (firstTime secondTime : DateTime)
    (pair : LinkPair) (fingerprint : String) : Prop where
  planned : ∃ runs, planDatasetSemanticLinkRunsFromValues sha256 parseUuid enabled tenantAllowlist
    datasetAllowlist first fromFirst firstTime = some runs ∧
      runs.filter (joins first second) = [newRun firstTime pair fingerprint]
  plannedBack : ∃ runs, planDatasetSemanticLinkRunsFromValues sha256 parseUuid enabled tenantAllowlist
    datasetAllowlist second fromSecond secondTime = some runs ∧
      runs.filter (joins first second) = [newRun secondTime pair fingerprint]
  recomputed : ∀ snapshots, HasSource snapshots first → HasSource snapshots second → ∀ newId availableAt now,
    let stored := queuedRun first.tenantId newId pair (newRun availableAt pair fingerprint) now
    stored.sourceFingerprint = fingerprint ∧
      recomputedFingerprint sha256 snapshots first.tenantId stored = some fingerprint

/-- Every planned run joins the current dataset to another one of its tenant,
both of them allowed. -/
structure Confined (current : ReadyDatasetSemanticLinkEndpoint)
    (candidates : List ReadyDatasetSemanticLinkEndpoint) (run : NewDatasetSemanticLinkRun) : Prop where
  source : ∃ candidate ∈ candidates, candidate.tenantId = current.tenantId ∧
    candidate.datasetId ≠ current.datasetId ∧ joins current candidate run = true
  datasets : run.leftDatasetId ≠ run.rightDatasetId
  allowed : datasetCrossSemanticGraphAccessFromValues parseUuid enabled tenantAllowlist datasetAllowlist
    current.tenantId run.leftDatasetId run.rightDatasetId = .allowed

end Statements

section Access

variable {parseUuid : String → Option Uuid} {enabled : Bool} {tenantAllowlist datasetAllowlist : Option String}
  {tenantId : TenantId} {leftDatasetId rightDatasetId : DatasetId}

theorem access_allowed : datasetCrossSemanticGraphAccessFromValues parseUuid enabled tenantAllowlist
      datasetAllowlist tenantId leftDatasetId rightDatasetId = .allowed ↔
    enabled = true ∧ semanticUuidCsvContains parseUuid tenantAllowlist tenantId = true ∧
      semanticUuidCsvContains parseUuid datasetAllowlist leftDatasetId = true ∧
        semanticUuidCsvContains parseUuid datasetAllowlist rightDatasetId = true := by
  cases on : enabled
  · simp [datasetCrossSemanticGraphAccessFromValues]
  cases tenant : semanticUuidCsvContains parseUuid tenantAllowlist tenantId
  · simp [datasetCrossSemanticGraphAccessFromValues, tenant]
  cases left : semanticUuidCsvContains parseUuid datasetAllowlist leftDatasetId
  · simp [datasetCrossSemanticGraphAccessFromValues, tenant, left]
  cases right : semanticUuidCsvContains parseUuid datasetAllowlist rightDatasetId
  · simp [datasetCrossSemanticGraphAccessFromValues, tenant, left, right]
  · simp [datasetCrossSemanticGraphAccessFromValues, tenant, left, right]

theorem access_comm (allowed : datasetCrossSemanticGraphAccessFromValues parseUuid enabled tenantAllowlist
      datasetAllowlist tenantId leftDatasetId rightDatasetId = .allowed) :
    datasetCrossSemanticGraphAccessFromValues parseUuid enabled tenantAllowlist datasetAllowlist tenantId
      rightDatasetId leftDatasetId = .allowed := by
  obtain ⟨on, tenant, left, right⟩ := access_allowed.mp allowed
  exact access_allowed.mpr ⟨on, tenant, right, left⟩

end Access

section Symmetry

variable {sha256 : String → List UInt8} {parseUuid : String → Option Uuid} {enabled : Bool}
  {tenantAllowlist datasetAllowlist : Option String}
  {current candidate first second : ReadyDatasetSemanticLinkEndpoint}
  {candidates : List ReadyDatasetSemanticLinkEndpoint} {availableAt : DateTime} {pair : LinkPair}
  {run : NewDatasetSemanticLinkRun}

theorem isLinkable_iff : isLinkable parseUuid enabled tenantAllowlist datasetAllowlist current candidate = true ↔
    candidate.tenantId = current.tenantId ∧ candidate.datasetId ≠ current.datasetId ∧
      datasetCrossSemanticGraphAccessFromValues parseUuid enabled tenantAllowlist datasetAllowlist
        current.tenantId current.datasetId candidate.datasetId = .allowed := by
  simp [isLinkable, DatasetCrossSemanticGraphAccess.isAllowed, and_assoc]

theorem joins_comm : joins first second = joins second first := by
  funext run
  simp only [joins, Bool.or_comm]

/-- A run joins the current endpoint to those of its candidate's snapshot. -/
theorem joins_linkRun (found : linkRun sha256 current availableAt candidate = some run)
    (apart : second.datasetId ≠ current.datasetId) :
    joins current second run = true ↔ endpointKey candidate = endpointKey second := by
  have keys : endpointKey current ≠ endpointKey second := fun same => apart (congrArg Prod.fst same).symm
  obtain ⟨pair, canonical, rfl⟩ := linkRun_some found
  obtain ⟨_, _, ⟨_, rfl⟩ | ⟨_, rfl⟩⟩ := canonicalPair_ok canonical
  · change (decide (endpointKey current = endpointKey current) && decide (endpointKey candidate = endpointKey second) ||
      decide (endpointKey current = endpointKey second) && decide (endpointKey candidate = endpointKey current)) =
        true ↔ _
    simp [keys]
  · change (decide (endpointKey candidate = endpointKey current) && decide (endpointKey current = endpointKey second) ||
      decide (endpointKey candidate = endpointKey second) && decide (endpointKey current = endpointKey current)) =
        true ↔ _
    simp [keys]

theorem plan_confined (inside : run ∈ (uniqueCandidates parseUuid enabled tenantAllowlist datasetAllowlist
      current candidates).filterMap (linkRun sha256 current availableAt)) :
    Confined parseUuid enabled tenantAllowlist datasetAllowlist current candidates run := by
  obtain ⟨candidate, unique, found⟩ := List.mem_filterMap.mp inside
  obtain ⟨listed, linkable⟩ := mem_uniqueCandidates unique
  obtain ⟨tenant, dataset, allowed⟩ := isLinkable_iff.mp linkable
  have source := (joins_linkRun found dataset).mpr rfl
  obtain ⟨pair, canonical, rfl⟩ := linkRun_some found
  obtain ⟨different, _, ⟨_, rfl⟩ | ⟨_, rfl⟩⟩ := canonicalPair_ok canonical
  · exact ⟨⟨candidate, listed, tenant, dataset, source⟩, different, allowed⟩
  · exact ⟨⟨candidate, listed, tenant, dataset, source⟩, different.symm, access_comm allowed⟩

/-- The candidates with the listed endpoint's snapshot come down to the last. -/
theorem uniqueCandidates_filter (tenant : first.tenantId = second.tenantId)
    (datasets : first.datasetId ≠ second.datasetId)
    (allowed : datasetCrossSemanticGraphAccessFromValues parseUuid enabled tenantAllowlist datasetAllowlist
      first.tenantId first.datasetId second.datasetId = .allowed) :
    (uniqueCandidates parseUuid enabled tenantAllowlist datasetAllowlist first candidates).filter
        (fun candidate => decide (endpointKey candidate = endpointKey second)) =
      (candidates.reverse.find? fun candidate =>
        candidate.tenantId = second.tenantId && endpointKey candidate = endpointKey second).toList := by
  rw [uniqueCandidates, SortedMap.filter_keyed, ← List.filter_reverse, List.find?_filter]
  apply congrArg Option.toList
  apply congrArg (List.find? · _)
  funext candidate
  by_cases key : endpointKey candidate = endpointKey second
  · have dataset : candidate.datasetId = second.datasetId := congrArg Prod.fst key
    have linkable : isLinkable parseUuid enabled tenantAllowlist datasetAllowlist first candidate = true ↔
        candidate.tenantId = second.tenantId := by
      rw [isLinkable_iff, dataset, tenant]
      exact and_iff_left ⟨datasets.symm, tenant ▸ allowed⟩
    simp [key, linkable]
  · simp [key]

/-- Of a candidate's fingerprint only the trimmed text counts. -/
theorem linkRun_listed (canonical : canonicalDatasetSemanticLinkPair first.datasetId second.datasetId
      first.snapshotId second.snapshotId = .ok pair) (key : endpointKey candidate = endpointKey second)
    (fingerprint : trim candidate.sourceFingerprint = trim second.sourceFingerprint) :
    linkRun sha256 first availableAt candidate = some (newRun availableAt pair (linkDigest sha256 pair
      (orderedFingerprints first second).1 (orderedFingerprints first second).2)) := by
  have dataset : candidate.datasetId = second.datasetId := congrArg Prod.fst key
  have snapshot : candidate.snapshotId = second.snapshotId := congrArg Prod.snd key
  have linked : linkedPair first candidate = some (candidate, pair) := by
    rw [linkedPair, dataset, snapshot, canonical]
  rw [linkRun, linked, Option.map_some]
  by_cases less : first.datasetId < second.datasetId <;>
    simp [linkDigest, orderedFingerprints, dataset, less, fingerprint]

/-- Exactly one run joins the current endpoint to a listed one. -/
theorem plan_filter (tenant : first.tenantId = second.tenantId)
    (datasets : first.datasetId ≠ second.datasetId)
    (allowed : datasetCrossSemanticGraphAccessFromValues parseUuid enabled tenantAllowlist datasetAllowlist
      first.tenantId first.datasetId second.datasetId = .allowed)
    (canonical : canonicalDatasetSemanticLinkPair first.datasetId second.datasetId first.snapshotId
      second.snapshotId = .ok pair) (listed : IsListed second candidates) :
    ∃ runs, planDatasetSemanticLinkRunsFromValues sha256 parseUuid enabled tenantAllowlist datasetAllowlist first
        candidates availableAt = some runs ∧
      runs.filter (joins first second) = [newRun availableAt pair (linkDigest sha256 pair
        (orderedFingerprints first second).1 (orderedFingerprints first second).2)] := by
  obtain ⟨last, found, fingerprint⟩ := listed
  have key : endpointKey last = endpointKey second := by
    have fits := List.find?_some found
    simp only [Bool.and_eq_true, decide_eq_true_eq] at fits
    exact fits.2
  refine ⟨_, plan_eq, ?_⟩
  have chosen : ∀ candidate ∈ uniqueCandidates parseUuid enabled tenantAllowlist datasetAllowlist first candidates,
      (linkRun sha256 first availableAt candidate).filter (joins first second) =
        if decide (endpointKey candidate = endpointKey second) = true then
          linkRun sha256 first availableAt candidate else none := by
    intro candidate _
    cases made : linkRun sha256 first availableAt candidate with
    | none => simp
    | some run =>
      rw [Option.filter_some]
      exact if_congr (by simp [joins_linkRun made datasets.symm]) rfl rfl
  rw [List.filter_filterMap, List.filterMap_congr chosen, ← List.filterMap_filter,
    uniqueCandidates_filter tenant datasets allowed, found]
  simp [linkRun_listed canonical key fingerprint]

/-- The worker loads the snapshots of the pair and finds the planned fingerprint. -/
theorem recomputed_eq {snapshots : SnapshotTable} (tenant : first.tenantId = second.tenantId)
    (canonical : canonicalDatasetSemanticLinkPair first.datasetId second.datasetId first.snapshotId
      second.snapshotId = .ok pair) (source : HasSource snapshots first) (otherSource : HasSource snapshots second)
    (run : DatasetSemanticLinkRun) (ends : run.leftDatasetId = pair.leftDatasetId ∧
      run.rightDatasetId = pair.rightDatasetId ∧ run.leftSnapshotId = pair.leftSnapshotId ∧
        run.rightSnapshotId = pair.rightSnapshotId) :
    recomputedFingerprint sha256 snapshots first.tenantId run = some (linkDigest sha256 pair
      (orderedFingerprints first second).1 (orderedFingerprints first second).2) := by
  obtain ⟨row, loaded, fingerprint⟩ := source
  obtain ⟨other, otherLoaded, otherFingerprint⟩ := otherSource
  obtain ⟨leftDataset, rightDataset, leftSnapshot, rightSnapshot⟩ := ends
  have computed := @fingerprint_canonical _ _ _ _ _ sha256 (orderedFingerprints first second).1
    (orderedFingerprints first second).2 canonical
  rw [← tenant] at otherLoaded
  simp only [← computed, recomputedFingerprint, expectedFingerprint, leftDataset, rightDataset, leftSnapshot,
    rightSnapshot]
  obtain ⟨different, _, ⟨less, rfl⟩ | ⟨less, rfl⟩⟩ := canonicalPair_ok canonical
  · simp [loaded, otherLoaded, orderedFingerprints, less, fingerprint, otherFingerprint]
  · simp [loaded, otherLoaded, orderedFingerprints, Uuid.lt_asymm less, fingerprint, otherFingerprint]

/-- A planned run that was stored is validated while its snapshots are the latest. -/
theorem processClaimedRun_validated {snapshots : SnapshotTable} {leftLatest rightLatest : DatasetSemanticSnapshot}
    (tenant : first.tenantId = second.tenantId)
    (allowed : datasetCrossSemanticGraphAccessFromValues parseUuid enabled tenantAllowlist datasetAllowlist
      first.tenantId first.datasetId second.datasetId = .allowed)
    (canonical : canonicalDatasetSemanticLinkPair first.datasetId second.datasetId first.snapshotId
      second.snapshotId = .ok pair) (source : HasSource snapshots first) (otherSource : HasSource snapshots second)
    (run : DatasetSemanticLinkRun) (runTenant : run.tenantId = first.tenantId)
    (ends : run.leftDatasetId = pair.leftDatasetId ∧ run.rightDatasetId = pair.rightDatasetId ∧
      run.leftSnapshotId = pair.leftSnapshotId ∧ run.rightSnapshotId = pair.rightSnapshotId)
    (fingerprint : run.sourceFingerprint = linkDigest sha256 pair (orderedFingerprints first second).1
      (orderedFingerprints first second).2)
    (leftFound : loadLatestReady snapshots first.tenantId run.leftDatasetId = some leftLatest)
    (rightFound : loadLatestReady snapshots first.tenantId run.rightDatasetId = some rightLatest)
    (isCurrent : semanticLinkRunInputsAreCurrent run leftLatest rightLatest = true) :
    processClaimedRun sha256 parseUuid enabled tenantAllowlist datasetAllowlist snapshots first.tenantId run =
      .validated run.sourceFingerprint := by
  have computed := @recomputed_eq sha256 _ _ _ _ tenant canonical source otherSource run ends
  have gate : datasetCrossSemanticGraphAccessFromValues parseUuid enabled tenantAllowlist datasetAllowlist
      first.tenantId run.leftDatasetId run.rightDatasetId = .allowed := by
    rw [ends.1, ends.2.1]
    obtain ⟨_, _, ⟨_, rfl⟩ | ⟨_, rfl⟩⟩ := canonicalPair_ok canonical
    · exact allowed
    · exact access_comm allowed
  have generation : run.generationVersion = datasetSemanticGraphGenerationVersion := by
    simp only [semanticLinkRunInputsAreCurrent, Bool.and_eq_true, decide_eq_true_eq] at isCurrent
    exact isCurrent.1.1.1.1.1.1
  simp only [recomputedFingerprint, Option.bind_eq_bind, Option.bind_eq_some_iff, ← fingerprint] at computed
  obtain ⟨leftSnapshot, leftLoaded, rightSnapshot, rightLoaded, expected⟩ := computed
  simp [processClaimedRun, runTenant, gate, DatasetCrossSemanticGraphAccess.isAllowed, leftLoaded, rightLoaded,
    leftFound, rightFound, isCurrent, expected, generation]

/-- Whatever else is listed, two ready snapshots of one tenant are linked by one
run, planned alike from both sides and recognised by the worker, and no plan
leaves the tenant or the allowed datasets. -/
theorem plan_agreed (sha256 : String → List UInt8) (parseUuid : String → Option Uuid) (enabled : Bool)
    (tenantAllowlist datasetAllowlist : Option String) :
    (∀ (first second : ReadyDatasetSemanticLinkEndpoint) (fromFirst fromSecond) (firstTime secondTime : DateTime),
      first.tenantId = second.tenantId → first.datasetId ≠ second.datasetId →
      first.snapshotId ≠ second.snapshotId →
      datasetCrossSemanticGraphAccessFromValues parseUuid enabled tenantAllowlist datasetAllowlist first.tenantId
        first.datasetId second.datasetId = .allowed →
      IsListed second fromFirst → IsListed first fromSecond →
      ∃ pair fingerprint, canonicalDatasetSemanticLinkPair first.datasetId second.datasetId first.snapshotId
          second.snapshotId = .ok pair ∧
        AgreedRun sha256 parseUuid enabled tenantAllowlist datasetAllowlist first second fromFirst fromSecond
          firstTime secondTime pair fingerprint) ∧
    ∀ current candidates availableAt, ∃ runs, planDatasetSemanticLinkRunsFromValues sha256 parseUuid enabled
        tenantAllowlist datasetAllowlist current candidates availableAt = some runs ∧
      ∀ run ∈ runs, Confined parseUuid enabled tenantAllowlist datasetAllowlist current candidates run := by
  constructor
  · intro first second fromFirst fromSecond firstTime secondTime tenant datasets snapshots allowed listed listedBack
    obtain ⟨pair, canonical⟩ := canonicalPair_exists datasets snapshots
    refine ⟨pair, _, canonical, plan_filter tenant datasets allowed canonical listed, ?_, ?_⟩
    · have back := @plan_filter sha256 _ _ _ _ _ _ _ secondTime _ tenant.symm datasets.symm
        (tenant ▸ access_comm allowed) (canonicalPair_comm.symm.trans canonical) listedBack
      rwa [orderedFingerprints_comm datasets.symm, joins_comm] at back
    · intro table source otherSource newId availableAt now
      exact ⟨by simp [queuedRun, newRun, linkDigest],
        recomputed_eq tenant canonical source otherSource _ ⟨rfl, rfl, rfl, rfl⟩⟩
  · intro current candidates availableAt
    exact ⟨_, plan_eq, fun run inside => plan_confined inside⟩

end Symmetry

section Conflict

/-- An endpoint of the one tenant and the two datasets that are allowed. -/
def allowedEndpoint (dataset snapshot fingerprint : String) : ReadyDatasetSemanticLinkEndpoint :=
  ⟨⟨"tenant"⟩, ⟨dataset⟩, ⟨snapshot⟩, fingerprint⟩

def allowedAgreed (fromFirst : List ReadyDatasetSemanticLinkEndpoint) (pair : LinkPair) (fingerprint : String) :
    Prop :=
  AgreedRun utf8 (fun text => some ⟨text⟩) true (some "tenant") (some "a,b") (allowedEndpoint "a" "1" "first")
    (allowedEndpoint "b" "2" "second") fromFirst [allowedEndpoint "a" "1" "first"] 0 0 pair fingerprint

theorem plan_agreed_allowed : ∃ pair fingerprint,
    allowedAgreed [allowedEndpoint "c" "3" "third", allowedEndpoint "b" "2" "second"] pair fingerprint := by
  obtain ⟨pair, fingerprint, _, agreed⟩ := (plan_agreed utf8 (fun text => some ⟨text⟩) true (some "tenant")
    (some "a,b")).1 (allowedEndpoint "a" "1" "first") (allowedEndpoint "b" "2" "second")
      [allowedEndpoint "c" "3" "third", allowedEndpoint "b" "2" "second"] [allowedEndpoint "a" "1" "first"] 0 0
      rfl (by decide) (by decide) (by decide) ⟨allowedEndpoint "b" "2" "second", by decide, rfl⟩
      ⟨allowedEndpoint "a" "1" "first", by decide, rfl⟩
  exact ⟨pair, fingerprint, agreed⟩

/-- Both endpoints are allowed and each is among the other's candidates, but a
second candidate for the one snapshot, listed later, carries another fingerprint. -/
theorem plan_disagrees :
    datasetCrossSemanticGraphAccessFromValues (fun text => some ⟨text⟩) true (some "tenant") (some "a,b")
        ⟨"tenant"⟩ ⟨"a"⟩ ⟨"b"⟩ = .allowed ∧
      ¬ ∃ pair fingerprint,
        allowedAgreed [allowedEndpoint "b" "2" "second", allowedEndpoint "b" "2" "other"] pair fingerprint := by
  refine ⟨by decide, ?_⟩
  rintro ⟨pair, fingerprint, ⟨runs, plan, only⟩, ⟨runsBack, planBack, onlyBack⟩, _⟩
  let fingerprints := fun planned : Option (List NewDatasetSemanticLinkRun) => planned.map fun runs =>
    (runs.filter (joins (allowedEndpoint "a" "1" "first") (allowedEndpoint "b" "2" "second"))).map
      (·.sourceFingerprint)
  have differ : fingerprints (planDatasetSemanticLinkRunsFromValues utf8 (fun text => some ⟨text⟩) true
        (some "tenant") (some "a,b") (allowedEndpoint "a" "1" "first")
        [allowedEndpoint "b" "2" "second", allowedEndpoint "b" "2" "other"] 0) ≠
      fingerprints (planDatasetSemanticLinkRunsFromValues utf8 (fun text => some ⟨text⟩) true (some "tenant")
        (some "a,b") (allowedEndpoint "b" "2" "second") [allowedEndpoint "a" "1" "first"] 0) := by
    decide
  apply differ
  rw [plan, planBack]
  simp [fingerprints, only, onlyBack, newRun]

end Conflict

end DataMax.SemanticLink
