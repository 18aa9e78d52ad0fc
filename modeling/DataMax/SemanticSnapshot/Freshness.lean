import DataMax.Library.Run
import DataMax.SemanticSnapshot.Rebuild

/-! Which snapshot is the latest ready one after a sequence of rebuilds. -/

namespace DataMax.SemanticSnapshot

open Domain Json Library

structure Rebuild (Understanding : Type) where
  newId : Uuid
  preview : DatasetSemanticSnapshotPreview Understanding
  generatedAt : DateTime

/-- The fingerprint of the sources at the rebuild. -/
def Rebuild.sourceFingerprint (request : Rebuild Understanding) : String := request.preview.sourceFingerprint

section Runs

variable {Understanding : Type} (support : UnderstandingSupport Understanding) (tenantId : TenantId)
  (datasetId : DatasetId)

def performRebuild (table : SnapshotTable) (request : Rebuild Understanding) : SnapshotTable :=
  (rebuildDatasetSemanticSnapshotFromStorage support table tenantId datasetId request.newId request.preview
    request.generatedAt).2

/-- After the rebuild the latest ready snapshot has the fingerprint of the sources. -/
def LeavesCurrent (table : SnapshotTable) (request : Rebuild Understanding) : Prop :=
  (loadLatestReady (performRebuild support tenantId datasetId table request) tenantId datasetId).map
    (·.sourceFingerprint) = some request.sourceFingerprint

/-- No fingerprint comes back after a different one. -/
def NeverReturns (requests : List (Rebuild Understanding)) : Prop :=
  Stepwise (fun earlier request => request.sourceFingerprint ∈ earlier.map Rebuild.sourceFingerprint →
    earlier.getLast?.map Rebuild.sourceFingerprint = some request.sourceFingerprint) requests

/-- Rebuilds one after the other that all pass the quality gate, on a table
that has no snapshot of this generation for the dataset yet. -/
structure Sequential (table : SnapshotTable) (requests : List (Rebuild Understanding)) : Prop where
  passed : ∀ request ∈ requests,
    (support.auditSemanticSnapshotQuality request.preview.snapshot).qualityGatePassed = true
  increasing : requests.Pairwise fun first second => first.generatedAt < second.generatedAt
  fresh : (requests.map Rebuild.newId).Nodup
  new : ∀ request ∈ requests, ∀ row ∈ table.rows, row.id ≠ request.newId
  generation : ∀ row ∈ table.rows, row.tenantId = tenantId → row.datasetId = datasetId →
    row.generationVersion ≠ datasetSemanticGenerationVersion
  older : ∀ row ∈ table.rows, isReadyOf tenantId datasetId row = true → ∃ time, row.generatedAt = some time ∧
    ∀ request ∈ requests, time < request.generatedAt

def rebuiltInputs (request : Rebuild Understanding) : SnapshotInputs :=
  ⟨tenantId, datasetId, datasetSemanticGenerationVersion, request.sourceFingerprint⟩

/-- The row that a rebuild leaves ready. -/
def readySnapshot (request : Rebuild Understanding) : DatasetSemanticSnapshot :=
  (becomeReady (support.toValue request.preview.snapshot)
    (support.objectCount request.preview.snapshot + support.fieldCount request.preview.snapshot)
    (support.relationCount request.preview.snapshot) request.generatedAt).apply
    (buildingSnapshot tenantId request.newId (newSnapshot datasetId request.preview) request.generatedAt)

end Runs

variable {Understanding : Type} {support : UnderstandingSupport Understanding} {tenantId : TenantId}
  {datasetId : DatasetId} {table initial : SnapshotTable} {request : Rebuild Understanding}
  {requests : List (Rebuild Understanding)}

/-- A build that was just appended becomes ready where it stands. -/
theorem markReady_appended {begun : SnapshotTable} {building : DatasetSemanticSnapshot}
    (rows : begun.rows = table.rows ++ [building]) (new : ∀ row ∈ table.rows, row.id ≠ building.id)
    (own : isBuilding tenantId datasetId building.id building = true) (manifest : Value)
    (nodeCount edgeCount : Int) (generatedAt : DateTime) :
    (markReady begun tenantId datasetId building.id manifest nodeCount edgeCount generatedAt).2.rows =
      table.rows ++ [(becomeReady manifest nodeCount edgeCount generatedAt).apply building] := by
  let selected := isBuilding tenantId datasetId building.id
  let change := becomeReady manifest nodeCount edgeCount generatedAt
  have others : table.rows.map (change.on selected) = table.rows := by
    conv_rhs => rw [← List.map_id table.rows]
    apply List.map_congr_left
    intro row member
    rcases change.on_cases selected row with ⟨met, _⟩ | ⟨_, same⟩
    · exact False.elim (new row member (of_decide_eq_true met).2.2.1)
    · exact same
  have moved : change.on selected building = change.apply building := if_pos own
  have mapped : (markReady begun tenantId datasetId building.id manifest nodeCount edgeCount
      generatedAt).2.rows = begun.rows.map (change.on selected) := rfl
  rw [mapped, rows, List.map_append, others, List.map_singleton, moved]

/-- A rebuild finds its snapshot current, finds one of its inputs that is not
the latest, or appends a new one. -/
theorem performRebuild_cases
    (passed : (support.auditSemanticSnapshotQuality request.preview.snapshot).qualityGatePassed = true)
    (new : ∀ row ∈ table.rows, row.id ≠ request.newId)
    (ready : ∀ row ∈ table.rows, row.inputs = rebuiltInputs tenantId datasetId request →
      row.status = .ready) :
    let current := (loadLatestReady table tenantId datasetId).any (isCurrent request.preview)
    let after := performRebuild support tenantId datasetId table request
    (current = true ∧ after = table) ∨
      (current = false ∧ (∃ row ∈ table.rows, row.inputs = rebuiltInputs tenantId datasetId request) ∧
        after = table) ∨
      (current = false ∧ (∀ row ∈ table.rows, row.inputs ≠ rebuiltInputs tenantId datasetId request) ∧
        after.rows = table.rows ++ [readySnapshot support tenantId datasetId request]) := by
  intro current after
  cases found : current with
  | true =>
    refine .inl ⟨rfl, ?_⟩
    simp only [after, performRebuild, rebuildDatasetSemanticSnapshotFromStorage]
    rw [if_pos found]
  | false =>
    right
    have stale : ¬ (loadLatestReady table tenantId datasetId).any (isCurrent request.preview) = true :=
      Bool.eq_false_iff.mp found
    let building := buildingSnapshot tenantId request.newId (newSnapshot datasetId request.preview)
      request.generatedAt
    have sameInputs : snapshotSchema.key building = rebuiltInputs tenantId datasetId request := rfl
    simp only [after, performRebuild, rebuildDatasetSemanticSnapshotFromStorage, if_neg stale, tryBeginBuild]
    cases outcome : table.insertOrUpdate building true isEnded
        (becomeBuilding (newSnapshot datasetId request.preview) request.generatedAt) with
    | refused =>
      obtain ⟨_, refused⟩ := Table.insertOrUpdate_refused outcome
      have fresh : snapshotSchema.identity building ∉ table.rows.map snapshotSchema.identity := by
        intro clash
        obtain ⟨row, member, same⟩ := List.mem_map.mp clash
        exact new row member same
      exact False.elim (refused ⟨rfl, fresh⟩)
    | skipped =>
      obtain ⟨existing, inputs, _⟩ := Table.insertOrUpdate_skipped outcome
      obtain ⟨member, same⟩ := Table.findKey_eq_some.mp inputs
      exact .inl ⟨trivial, ⟨existing, member, same⟩, rfl⟩
    | updated updated row =>
      obtain ⟨existing, member, same, ended, _⟩ := Table.insertOrUpdate_updated outcome
      have status := ready existing member same
      simp [isEnded, status] at ended
    | inserted inserted row =>
      obtain ⟨alone, _, _, rows, rfl⟩ := Table.insertOrUpdate_inserted outcome
      refine .inr ⟨trivial, alone, ?_⟩
      have own : isBuilding tenantId datasetId building.id building = true := by
        simp [isBuilding, building, buildingSnapshot, newSnapshot]
      have ready := markReady_appended rows new own (support.toValue request.preview.snapshot)
        (support.objectCount request.preview.snapshot + support.fieldCount request.preview.snapshot)
        (support.relationCount request.preview.snapshot) request.generatedAt
      simp only [passed, if_true]
      split
      · rename_i same
        rw [same] at ready
        exact ready
      · rename_i same
        rw [same] at ready
        exact ready

theorem loadLatestReady_mem {row : DatasetSemanticSnapshot}
    (found : loadLatestReady table tenantId datasetId = some row) :
    row ∈ table.rows ∧ isReadyOf tenantId datasetId row = true :=
  List.mem_filter.mp (firstBy_mem found)

theorem latest_isCurrent
    (current : (loadLatestReady table tenantId datasetId).any (isCurrent request.preview) = true) :
    ∃ latest, loadLatestReady table tenantId datasetId = some latest ∧
      latest.sourceFingerprint = request.sourceFingerprint ∧
      latest.generationVersion = datasetSemanticGenerationVersion := by
  obtain ⟨latest, found, identical⟩ := (Option.any_eq_true _ _).mp current
  exact ⟨latest, found, of_decide_eq_true identical⟩

/-- What the table holds of the dataset after some rebuilds of a sequence. -/
structure Rebuilt (support : UnderstandingSupport Understanding) (tenantId : TenantId) (datasetId : DatasetId)
    (initial : SnapshotTable) (earlier : List (Rebuild Understanding)) (table : SnapshotTable) : Prop where
  rows : ∀ row ∈ table.rows, row ∈ initial.rows ∨
    ∃ request ∈ earlier, row = readySnapshot support tenantId datasetId request
  built : ∀ request ∈ earlier, ∃ row ∈ table.rows, row.inputs = rebuiltInputs tenantId datasetId request
  generation : earlier ≠ [] → ∀ row, loadLatestReady table tenantId datasetId = some row →
    row.generationVersion = datasetSemanticGenerationVersion

theorem Rebuilt.start : Rebuilt support tenantId datasetId initial [] initial :=
  ⟨fun _ member => .inl member, by simp, by simp⟩

theorem Sequential.earlier
    (sequential : Sequential support tenantId datasetId initial (requests ++ [request])) :
    Sequential support tenantId datasetId initial requests where
  passed := fun other member => sequential.passed other (List.mem_append_left _ member)
  increasing := (List.pairwise_append.mp sequential.increasing).1
  fresh := by
    have fresh := sequential.fresh
    rw [List.map_append] at fresh
    exact fresh.of_append_left
  new := fun other member => sequential.new other (List.mem_append_left _ member)
  generation := sequential.generation
  older := by
    intro row member ready
    obtain ⟨time, generated, before⟩ := sequential.older row member ready
    exact ⟨time, generated, fun other later => before other (List.mem_append_left _ later)⟩

section Step

variable (sequential : Sequential support tenantId datasetId initial (requests ++ [request]))
  (rebuilt : Rebuilt support tenantId datasetId initial requests table)

include sequential rebuilt

theorem Rebuilt.new : ∀ row ∈ table.rows, row.id ≠ request.newId := by
  intro row member
  rcases rebuilt.rows row member with old | ⟨other, before, rfl⟩
  · exact sequential.new request (List.mem_append_right _ List.mem_cons_self) row old
  · have fresh := sequential.fresh
    rw [List.map_append] at fresh
    have apart := (List.nodup_append.mp fresh).2.2 other.newId (List.mem_map.mpr ⟨other, before, rfl⟩)
      request.newId (by simp)
    exact apart

/-- A row of the rebuilt inputs comes from an earlier rebuild. -/
theorem Rebuilt.origin {row : DatasetSemanticSnapshot} (member : row ∈ table.rows)
    (same : row.inputs = rebuiltInputs tenantId datasetId request) :
    row.status = .ready ∧ request.sourceFingerprint ∈ requests.map Rebuild.sourceFingerprint := by
  obtain ⟨tenant, dataset, generation, fingerprint⟩ := SnapshotInputs.mk.inj same
  rcases rebuilt.rows row member with old | ⟨other, before, rfl⟩
  · exact False.elim (sequential.generation row old tenant dataset generation)
  · exact ⟨rfl, List.mem_map.mpr ⟨other, before, fingerprint⟩⟩

theorem Rebuilt.older {row : DatasetSemanticSnapshot} (member : row ∈ table.rows)
    (ready : isReadyOf tenantId datasetId row = true) :
    ∃ time, row.generatedAt = some time ∧ time < request.generatedAt := by
  rcases rebuilt.rows row member with old | ⟨other, before, rfl⟩
  · obtain ⟨time, generated, earlier⟩ := sequential.older row old ready
    exact ⟨time, generated, earlier request (List.mem_append_right _ List.mem_cons_self)⟩
  · have ordered := (List.pairwise_append.mp sequential.increasing).2.2 other before request (by simp)
    exact ⟨other.generatedAt, rfl, ordered⟩

/-- A new row is the latest ready one. -/
theorem Rebuilt.latest {after : SnapshotTable}
    (rows : after.rows = table.rows ++ [readySnapshot support tenantId datasetId request]) :
    loadLatestReady after tenantId datasetId = some (readySnapshot support tenantId datasetId request) := by
  let created := readySnapshot support tenantId datasetId request
  have selected : isReadyOf tenantId datasetId created = true := by
    simp [isReadyOf, created, readySnapshot, becomeReady, buildingSnapshot, newSnapshot]
  apply firstBy_eq_some
  · apply List.mem_filter.mpr
    rw [rows]
    exact ⟨List.mem_append_right _ List.mem_cons_self, selected⟩
  · intro other inside different
    obtain ⟨member, ready⟩ := List.mem_filter.mp inside
    rw [rows] at member
    rcases List.mem_append.mp member with old | new
    · obtain ⟨time, generated, before⟩ := rebuilt.older sequential old ready
      have now : (readySnapshot support tenantId datasetId request).generatedAt =
          some request.generatedAt := rfl
      have notAfter : ¬ request.generatedAt < time := Int.not_lt.mpr (Int.le_of_lt before)
      have apart : time ≠ request.generatedAt := Int.ne_of_lt before
      simp [latestFirst, generatedLater, generated, now, before, notAfter, apart]
    · exact False.elim (different (List.mem_singleton.mp new))

theorem Rebuilt.cases :
    let current := (loadLatestReady table tenantId datasetId).any (isCurrent request.preview)
    let after := performRebuild support tenantId datasetId table request
    (current = true ∧ after = table) ∨
      (current = false ∧ request.sourceFingerprint ∈ requests.map Rebuild.sourceFingerprint ∧ after = table) ∨
      (request.sourceFingerprint ∉ requests.map Rebuild.sourceFingerprint ∧
        after.rows = table.rows ++ [readySnapshot support tenantId datasetId request]) := by
  have passed := sequential.passed request (List.mem_append_right _ List.mem_cons_self)
  rcases @performRebuild_cases _ support tenantId datasetId table request passed (rebuilt.new sequential)
    (fun row member same => (rebuilt.origin sequential member same).1) with
    skipped | ⟨stale, ⟨row, member, same⟩, kept⟩ | ⟨_, alone, rows⟩
  · exact .inl skipped
  · exact .inr (.inl ⟨stale, (rebuilt.origin sequential member same).2, kept⟩)
  · refine .inr (.inr ⟨?_, rows⟩)
    intro seen
    obtain ⟨other, before, fingerprint⟩ := List.mem_map.mp seen
    obtain ⟨row, member, same⟩ := rebuilt.built other before
    apply alone row member
    rw [same, rebuiltInputs, fingerprint]
    rfl

theorem Rebuilt.step : Rebuilt support tenantId datasetId initial (requests ++ [request])
    (performRebuild support tenantId datasetId table request) := by
  have inherited : ∀ row ∈ table.rows, row ∈ initial.rows ∨
      ∃ other ∈ requests ++ [request], row = readySnapshot support tenantId datasetId other := by
    intro row member
    rcases rebuilt.rows row member with old | ⟨other, before, same⟩
    · exact .inl old
    · exact .inr ⟨other, List.mem_append_left _ before, same⟩
  rcases rebuilt.cases sequential with ⟨current, same⟩ | ⟨_, seen, same⟩ | ⟨_, rows⟩
  · obtain ⟨latest, found, fingerprint, generation⟩ := latest_isCurrent current
    obtain ⟨member, ready⟩ := loadLatestReady_mem found
    rw [same]
    refine ⟨inherited, ?_, ?_⟩
    · intro other inside
      rcases List.mem_append.mp inside with before | now
      · exact rebuilt.built other before
      · obtain ⟨tenant, dataset, _⟩ := of_decide_eq_true ready
        refine ⟨latest, member, ?_⟩
        rw [List.mem_singleton.mp now, DatasetSemanticSnapshot.inputs, rebuiltInputs, tenant, dataset,
          fingerprint, generation]
    · intro _ row loaded
      cases found.symm.trans loaded
      exact generation
  · obtain ⟨other, before, fingerprint⟩ := List.mem_map.mp seen
    rw [same]
    refine ⟨inherited, ?_, fun _ => rebuilt.generation (List.ne_nil_of_mem before)⟩
    intro another inside
    rcases List.mem_append.mp inside with old | now
    · exact rebuilt.built another old
    · obtain ⟨row, member, inputs⟩ := rebuilt.built other before
      refine ⟨row, member, ?_⟩
      rw [inputs, List.mem_singleton.mp now, rebuiltInputs, rebuiltInputs, fingerprint]
  · refine ⟨?_, ?_, ?_⟩
    · intro row member
      rw [rows] at member
      rcases List.mem_append.mp member with old | new
      · exact inherited row old
      · exact .inr ⟨request, List.mem_append_right _ List.mem_cons_self, List.mem_singleton.mp new⟩
    · intro other inside
      rw [rows]
      rcases List.mem_append.mp inside with before | now
      · obtain ⟨row, member, inputs⟩ := rebuilt.built other before
        exact ⟨row, List.mem_append_left _ member, inputs⟩
      · refine ⟨readySnapshot support tenantId datasetId request,
          List.mem_append_right _ List.mem_cons_self, ?_⟩
        rw [List.mem_singleton.mp now]
        rfl
    · intro _ row loaded
      cases (rebuilt.latest sequential rows).symm.trans loaded
      rfl

/-- While the latest ready snapshot is that of the last rebuild, a rebuild
leaves its own exactly if its fingerprint is new or has just been built. -/
theorem Rebuilt.leavesCurrent_iff
    (shown : ∀ last, requests.getLast? = some last →
      (loadLatestReady table tenantId datasetId).map (·.sourceFingerprint) = some last.sourceFingerprint) :
    LeavesCurrent support tenantId datasetId table request ↔
      (request.sourceFingerprint ∈ requests.map Rebuild.sourceFingerprint →
        requests.getLast?.map Rebuild.sourceFingerprint = some request.sourceFingerprint) := by
  have last : request.sourceFingerprint ∈ requests.map Rebuild.sourceFingerprint →
      requests.getLast?.map Rebuild.sourceFingerprint =
        (loadLatestReady table tenantId datasetId).map (·.sourceFingerprint) := by
    intro seen
    cases final : requests.getLast? with
    | none =>
      rw [List.getLast?_eq_none_iff.mp final] at seen
      cases seen
    | some last => exact (shown last final).symm
  unfold LeavesCurrent
  rcases rebuilt.cases sequential with ⟨current, same⟩ | ⟨stale, seen, same⟩ | ⟨unseen, rows⟩
  · obtain ⟨latest, found, identical, _⟩ := latest_isCurrent current
    have fingerprint : (loadLatestReady table tenantId datasetId).map (·.sourceFingerprint) =
        some request.sourceFingerprint := by
      rw [found, Option.map_some, identical]
    rw [same]
    exact iff_of_true fingerprint fun seen => (last seen).trans fingerprint
  · have filled : requests ≠ [] := by
      rintro rfl
      cases seen
    have different : (loadLatestReady table tenantId datasetId).map (·.sourceFingerprint) ≠
        some request.sourceFingerprint := by
      intro equal
      obtain ⟨latest, found, fingerprint⟩ := Option.map_eq_some_iff.mp equal
      have generation := rebuilt.generation filled latest found
      rw [found] at stale
      have unlike : isCurrent request.preview latest = false := stale
      have alike : isCurrent request.preview latest = true := decide_eq_true ⟨fingerprint, generation⟩
      rw [unlike] at alike
      cases alike
    rw [same]
    refine iff_of_false different ?_
    intro returned
    exact different ((last seen).symm.trans (returned seen))
  · rw [rebuilt.latest sequential rows]
    exact iff_of_true rfl fun seen => False.elim (unseen seen)

end Step

theorem rebuilt_run (sequential : Sequential support tenantId datasetId initial requests) :
    Rebuilt support tenantId datasetId initial requests
      (requests.foldl (performRebuild support tenantId datasetId) initial) := by
  induction requests using List.reverseRecOn with
  | nil => exact .start
  | append_singleton earlier request ih =>
    rw [List.foldl_append]
    exact (ih sequential.earlier).step sequential

/-- A run of rebuilds whose steps all left their own snapshot shows the last one. -/
theorem latest_shown (current : Guarded (performRebuild support tenantId datasetId)
      (LeavesCurrent support tenantId datasetId) initial requests) :
    ∀ last, requests.getLast? = some last →
      (loadLatestReady (requests.foldl (performRebuild support tenantId datasetId) initial) tenantId
        datasetId).map (·.sourceFingerprint) = some last.sourceFingerprint := by
  intro last final
  obtain ⟨earlier, rfl⟩ := List.getLast?_eq_some_iff.mp final
  have left := current earlier last List.prefix_rfl
  rw [List.foldl_append]
  exact left

/-- The latest ready snapshot is the current one after each rebuild of a
sequence exactly when the sources never return to an earlier state. -/
theorem rebuilds_current_iff (sequential : Sequential support tenantId datasetId initial requests) :
    Guarded (performRebuild support tenantId datasetId) (LeavesCurrent support tenantId datasetId) initial
      requests ↔ NeverReturns requests := by
  induction requests using List.reverseRecOn with
  | nil => exact iff_of_true (guarded_nil _ _ _) (stepwise_nil _)
  | append_singleton earlier request ih =>
    have before := sequential.earlier
    unfold NeverReturns at ih ⊢
    rw [guarded_concat, stepwise_concat, ← ih before]
    apply and_congr_right
    intro current
    exact (rebuilt_run before).leavesCurrent_iff sequential (latest_shown current)

/-- An understanding that is its own manifest and passes the audit. -/
def sampleSupport : UnderstandingSupport Value where
  objectCount := fun _ => 1
  fieldCount := fun _ => 0
  relationCount := fun _ => 0
  auditSemanticSnapshotQuality := fun _ => ⟨2, true⟩
  toValue := id
  fromValue := some
  semanticSnapshotFailureFallback := fun understanding _ => understanding

def sampleRebuild (newId fingerprint : String) (generatedAt : DateTime) : Rebuild Value :=
  ⟨⟨newId⟩, ⟨fingerprint, 1, 0, 0, json []⟩, generatedAt⟩

/-- Three rebuilds of a dataset whose sources have these fingerprints in turn. -/
def sampleRebuilds (first second third : String) : List (Rebuild Value) := [
  sampleRebuild "snapshot 1" first 10, sampleRebuild "snapshot 2" second 20,
  sampleRebuild "snapshot 3" third 30]

theorem sampleRebuilds_sequential (first second third : String) :
    Sequential sampleSupport ⟨"tenant"⟩ ⟨"dataset"⟩ .empty (sampleRebuilds first second third) where
  passed := fun _ _ => rfl
  increasing := by simp [sampleRebuilds, sampleRebuild]
  fresh := by simp [sampleRebuilds, sampleRebuild]
  new := by simp [Table.empty]
  generation := by simp [Table.empty]
  older := by simp [Table.empty]

theorem rebuilds_current_growing : Guarded (performRebuild sampleSupport ⟨"tenant"⟩ ⟨"dataset"⟩)
    (LeavesCurrent sampleSupport ⟨"tenant"⟩ ⟨"dataset"⟩) .empty
    (sampleRebuilds "one document" "one document" "two documents") := by
  apply (rebuilds_current_iff (sampleRebuilds_sequential _ _ _)).mpr
  let first := sampleRebuild "snapshot 1" "one document" 10
  let second := sampleRebuild "snapshot 2" "one document" 20
  refine (stepwise_concat _ [first, second] _).mpr ⟨(stepwise_concat _ [first] _).mpr
    ⟨(stepwise_concat _ [] _).mpr ⟨stepwise_nil _, ?_⟩, ?_⟩, ?_⟩
  · intro seen
    cases seen
  · intro _
    rfl
  · intro seen
    simp [Rebuild.sourceFingerprint, sampleRebuild, first, second] at seen

/-- A membership is added and expires: the fingerprint is the first one again,
but the latest ready snapshot still is the one with the added document. -/
theorem expired_membership_shown :
    let requests := sampleRebuilds "one document" "two documents" "one document"
    let rebuild := performRebuild sampleSupport ⟨"tenant"⟩ ⟨"dataset"⟩
    Sequential sampleSupport ⟨"tenant"⟩ ⟨"dataset"⟩ .empty requests ∧
      (loadLatestReady (requests.foldl rebuild .empty) ⟨"tenant"⟩ ⟨"dataset"⟩).map (·.sourceFingerprint) =
        some "two documents" ∧
      ¬ Guarded rebuild (LeavesCurrent sampleSupport ⟨"tenant"⟩ ⟨"dataset"⟩) .empty requests := by
  intro requests rebuild
  have shown : (loadLatestReady (requests.foldl rebuild .empty) ⟨"tenant"⟩ ⟨"dataset"⟩).map
      (·.sourceFingerprint) = some "two documents" := by decide
  refine ⟨sampleRebuilds_sequential _ _ _, shown, ?_⟩
  intro current
  have last := current (requests.take 2) (sampleRebuild "snapshot 3" "one document" 30) List.prefix_rfl
  have wrong := shown.symm.trans last
  simp [Rebuild.sourceFingerprint, sampleRebuild] at wrong

end DataMax.SemanticSnapshot
