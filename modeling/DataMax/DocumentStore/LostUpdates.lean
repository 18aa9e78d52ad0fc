import DataMax.DocumentStore.Repository
import DataMax.Library.Delivery

/-! Two operations on one document: each merges its metadata into what it has read, so the
one that writes last keeps only what it had seen of the other. -/

namespace DataMax.DocumentStore

open Domain Json Library

/-- Two sequences are interleaved. -/
inductive Interleaving {Item : Type} : List Item → List Item → List Item → Prop where
  | nil : Interleaving [] [] []
  | left (rest : Interleaving first second merged) : Interleaving (item :: first) second (item :: merged)
  | right (rest : Interleaving first second merged) : Interleaving first (item :: second) (item :: merged)

def DocumentChange.metadataUpdates : DocumentChange → Value
  | .updateState _ _ metadataUpdates _ => metadataUpdates
  | .moveToDataset _ metadataUpdates _ => metadataUpdates

def mergeEntries (metadata : Map) (updates : List (String × Value)) : Map :=
  updates.foldl (fun merged entry => merged.insert entry.1 entry.2) metadata

section Merging

variable {metadata other : Map} {updates : List (String × Value)} {key : String}

theorem get?_mergeEntries_absent (absent : key ∉ updates.map (·.1)) :
    (mergeEntries metadata updates).get? key = metadata.get? key := by
  induction updates generalizing metadata with
  | nil => rfl
  | cons entry rest ih =>
    rw [List.map_cons, List.mem_cons, not_or] at absent
    obtain ⟨apart, later⟩ := absent
    rw [mergeEntries, List.foldl_cons]
    exact (ih later).trans (SortedMap.get?_insert_other metadata entry.2 apart)

/-- An updated key does not depend on what was there before. -/
theorem get?_mergeEntries_present (present : key ∈ updates.map (·.1)) :
    (mergeEntries metadata updates).get? key = (mergeEntries other updates).get? key := by
  induction updates generalizing metadata other with
  | nil => cases present
  | cons entry rest ih =>
    rw [mergeEntries, mergeEntries, List.foldl_cons, List.foldl_cons]
    by_cases later : key ∈ rest.map (·.1)
    · exact ih later
    · have same : key = entry.1 := (List.mem_cons.mp present).resolve_right later
      have kept (merged : Map) : (mergeEntries (merged.insert entry.1 entry.2) rest).get? key = some entry.2 := by
        rw [get?_mergeEntries_absent later, same, SortedMap.get?_insert_self]
      exact (kept metadata).trans (kept other).symm

/-- Updates of different keys can be merged in either order. -/
theorem mergeEntries_comm {first second : List (String × Value)}
    (disjoint : ∀ key, key ∈ first.map (·.1) → key ∉ second.map (·.1)) :
    mergeEntries (mergeEntries metadata first) second = mergeEntries (mergeEntries metadata second) first := by
  apply SortedMap.ext_get?
  intro key
  by_cases inFirst : key ∈ first.map (·.1)
  · rw [get?_mergeEntries_absent (disjoint key inFirst), get?_mergeEntries_present inFirst]
  · rw [get?_mergeEntries_absent inFirst]
    by_cases inSecond : key ∈ second.map (·.1)
    · exact get?_mergeEntries_present inSecond
    · rw [get?_mergeEntries_absent inSecond, get?_mergeEntries_absent inSecond, get?_mergeEntries_absent inFirst]

/-- The later updates alone are both when the earlier ones change nothing. -/
theorem mergeEntries_eq_iff {first second : List (String × Value)}
    (disjoint : ∀ key, key ∈ first.map (·.1) → key ∉ second.map (·.1)) :
    mergeEntries metadata second = mergeEntries (mergeEntries metadata first) second ↔
      mergeEntries metadata first = metadata := by
  constructor
  · intro same
    apply SortedMap.ext_get?
    intro key
    by_cases inFirst : key ∈ first.map (·.1)
    · have values := congrArg (fun merged : Map => merged.get? key) same
      simp only [get?_mergeEntries_absent (disjoint key inFirst)] at values
      exact values.symm
    · exact get?_mergeEntries_absent inFirst
  · intro nothing
    rw [nothing]

end Merging

/-- The operations on one document as jobs that read the table and write to it later. -/
def documentProtocol (tenantId : TenantId) (documentId : DocumentId) :
    Protocol DocumentTable DocumentChange (Except DocumentError DocumentWrite) where
  read documents change := change.read documents tenantId documentId
  commit documents _ read := match read with
    | .error _ => none
    | .ok write => some (write.run documents tenantId documentId)

/-- The steps of an operation: a read and a write. -/
def callSteps (slot : Nat) (change : DocumentChange) : List (Action DocumentChange) :=
  [.read slot change, .commit slot]

def finalMetadata (tenantId : TenantId) (documentId : DocumentId) (documents : DocumentTable)
    (steps : List (Action DocumentChange)) : Option Map :=
  let protocol := documentProtocol tenantId documentId
  (getById (steps.foldl protocol.act (Protocol.start documents)).store tenantId documentId).map DocumentRow.metadata

/-- The operation whose write comes first. -/
def firstToWrite (first second : DocumentChange) (steps : List (Action DocumentChange)) : DocumentChange :=
  match steps.getLast? with
  | some (.commit 0) => second
  | _ => first

/-- One operation ends before the other one reads. -/
def IsInTurn (first second : DocumentChange) (steps : List (Action DocumentChange)) : Prop :=
  steps = callSteps 0 first ++ callSteps 1 second ∨ steps = callSteps 1 second ++ callSteps 0 first

/-- The object holds the updates already. -/
def IsApplied (metadata : Map) (metadataUpdates : Value) : Prop :=
  mergeDocumentMetadata metadata metadataUpdates = .ok metadata

section Calls

variable {tenantId : TenantId} {documentId : DocumentId} {documents : DocumentTable} {document : DocumentRow}

def DocumentWrite.metadata : DocumentWrite → Map
  | .state _ _ metadata _ => metadata
  | .move _ metadata _ => metadata

theorem read_stored {change : DocumentChange} {updates : List (String × Value)}
    (found : getById documents tenantId documentId = some document) (object : change.metadataUpdates = .object updates) :
    ∃ write, change.read documents tenantId documentId = .ok write ∧
      write.metadata = mergeEntries document.metadata updates := by
  cases change with
  | updateState lifecycle title metadataUpdates updatedAt =>
    obtain rfl : metadataUpdates = .object updates := object
    exact ⟨_, by simp only [DocumentChange.read, found]; rfl, rfl⟩
  | moveToDataset datasetId metadataUpdates updatedAt =>
    obtain rfl : metadataUpdates = .object updates := object
    exact ⟨_, by simp only [DocumentChange.read, found]; rfl, rfl⟩

/-- A write replaces the metadata of the document. -/
theorem run_stored (write : DocumentWrite) (found : getById documents tenantId documentId = some document) :
    ∃ written, getById (write.run documents tenantId documentId) tenantId documentId = some written ∧
      written.metadata = write.metadata := by
  have selected : isDocument tenantId documentId document = true := List.find?_some found
  have kept (row : DocumentRow) : isDocument tenantId documentId (write.change.on (isDocument tenantId documentId) row) =
      isDocument tenantId documentId row := by
    rcases write.change.on_cases (isDocument tenantId documentId) row with ⟨_, same⟩ | ⟨_, same⟩
    · rw [same]
      cases write <;> rfl
    · rw [same]
  refine ⟨write.change.on (isDocument tenantId documentId) document, ?_, ?_⟩
  · have unmoved : isDocument tenantId documentId ∘ write.change.on (isDocument tenantId documentId) =
        isDocument tenantId documentId := funext kept
    rw [getById, DocumentWrite.run, Table.update, List.find?_map, unmoved]
    exact congrArg _ found
  · rw [Change.on, if_pos selected]
    cases write <;> rfl

variable {earlier later : DocumentChange} {earlierUpdates laterUpdates : List (String × Value)} {own other : Nat}

/-- An operation that reads after the other one has written keeps the updates of both. -/
theorem finalMetadata_serial (found : getById documents tenantId documentId = some document)
    (earlierObject : earlier.metadataUpdates = .object earlierUpdates)
    (laterObject : later.metadataUpdates = .object laterUpdates) :
    finalMetadata tenantId documentId documents (callSteps own earlier ++ callSteps other later) =
      some (mergeEntries (mergeEntries document.metadata earlierUpdates) laterUpdates) := by
  obtain ⟨write, read, merged⟩ := read_stored found earlierObject
  obtain ⟨written, stored, metadata⟩ := run_stored write found
  obtain ⟨next, reread, remerged⟩ := read_stored stored laterObject
  obtain ⟨final, kept, last⟩ := run_stored next stored
  have store : ((callSteps own earlier ++ callSteps other later).foldl (documentProtocol tenantId documentId).act
      (Protocol.start documents)).store = next.run (write.run documents tenantId documentId) tenantId documentId := by
    simp [callSteps, Protocol.act, Protocol.start, documentProtocol, read, reread]
  rw [finalMetadata, store, kept, Option.map_some, last, remerged, metadata, merged]

/-- An operation that writes last after it has read first keeps only its own updates. -/
theorem finalMetadata_overlapping (apart : own ≠ other) (found : getById documents tenantId documentId = some document)
    (earlierObject : earlier.metadataUpdates = .object earlierUpdates)
    (laterObject : later.metadataUpdates = .object laterUpdates) {reads : List (Action DocumentChange)}
    (both : reads = [.read own earlier, .read other later] ∨ reads = [.read other later, .read own earlier]) :
    finalMetadata tenantId documentId documents (reads ++ ([.commit own, .commit other] : List (Action DocumentChange))) =
      some (mergeEntries document.metadata laterUpdates) := by
  obtain ⟨write, read, _⟩ := read_stored found earlierObject
  obtain ⟨written, stored, _⟩ := run_stored write found
  obtain ⟨next, reread, remerged⟩ := read_stored found laterObject
  obtain ⟨final, kept, last⟩ := run_stored next stored
  have store : ((reads ++ ([.commit own, .commit other] : List (Action DocumentChange))).foldl
      (documentProtocol tenantId documentId).act (Protocol.start documents)).store = next.run (write.run documents tenantId documentId) tenantId documentId := by
    rcases both with rfl | rfl
    · simp [Protocol.act, Protocol.start, documentProtocol, read, reread, apart, apart.symm]
    · simp [Protocol.act, Protocol.start, documentProtocol, read, reread, apart.symm]
  rw [finalMetadata, store, kept, Option.map_some, last, remerged]

/-- The six interleavings: one operation follows the other, or both read before one writes. -/
theorem interleaving_cases {first second : DocumentChange} {steps : List (Action DocumentChange)}
    (interleaved : Interleaving (callSteps 0 first) (callSteps 1 second) steps) :
    IsInTurn first second steps ∨ ∃ reads, (reads = [.read 0 first, .read 1 second] ∨
      reads = [.read 1 second, .read 0 first]) ∧
        (steps = reads ++ [.commit 0, .commit 1] ∨ steps = reads ++ [.commit 1, .commit 0]) := by
  unfold callSteps at interleaved
  cases interleaved with
  | left rest => cases rest with
    | left rest =>
      obtain _ | _ | ⟨_ | _ | ⟨_ | _ | _⟩⟩ := rest
      exact .inl (.inl rfl)
    | right rest =>
      obtain _ | ⟨_ | _ | ⟨_ | _ | _⟩⟩ | ⟨_ | ⟨_ | _ | _⟩ | _⟩ := rest
      · exact .inr ⟨_, .inl rfl, .inl rfl⟩
      · exact .inr ⟨_, .inl rfl, .inr rfl⟩
  | right rest => cases rest with
    | left rest =>
      obtain _ | ⟨_ | _ | ⟨_ | _ | _⟩⟩ | ⟨_ | ⟨_ | _ | _⟩ | _⟩ := rest
      · exact .inr ⟨_, .inr rfl, .inl rfl⟩
      · exact .inr ⟨_, .inr rfl, .inr rfl⟩
    | right rest =>
      obtain _ | ⟨_ | ⟨_ | _ | _⟩ | _⟩ | _ := rest
      exact .inl (.inr rfl)

end Calls

/-- Both updates are in the metadata in the end exactly when one operation followed the
other, or what the first one to write changes was there from the start. -/
theorem both_updates_kept_iff (documents : DocumentTable) (tenantId : TenantId) (documentId : DocumentId)
    (document : DocumentRow) (first second : DocumentChange) (firstUpdates secondUpdates : List (String × Value))
    (steps : List (Action DocumentChange)) (found : getById documents tenantId documentId = some document)
    (firstObject : first.metadataUpdates = .object firstUpdates)
    (secondObject : second.metadataUpdates = .object secondUpdates)
    (disjoint : ∀ key, key ∈ firstUpdates.map (·.1) → key ∉ secondUpdates.map (·.1))
    (interleaved : Interleaving (callSteps 0 first) (callSteps 1 second) steps) :
    finalMetadata tenantId documentId documents steps =
        some (mergeEntries (mergeEntries document.metadata firstUpdates) secondUpdates) ↔
      IsInTurn first second steps ∨ IsApplied document.metadata (firstToWrite first second steps).metadataUpdates := by
  rcases interleaving_cases interleaved with inTurn | ⟨reads, both, order⟩
  · refine iff_of_true ?_ (.inl inTurn)
    rcases inTurn with rfl | rfl
    · exact finalMetadata_serial found firstObject secondObject
    · rw [finalMetadata_serial found secondObject firstObject, mergeEntries_comm disjoint]
  · have overlapping : ¬ IsInTurn first second steps := by
      rcases both with rfl | rfl <;> rcases order with rfl | rfl <;> simp [IsInTurn, callSteps]
    rw [or_iff_right overlapping]
    have applied (updates : List (String × Value)) : IsApplied document.metadata (.object updates) ↔
        mergeEntries document.metadata updates = document.metadata := Except.ok.injEq .. ▸ Iff.rfl
    rcases order with rfl | rfl
    · have last : firstToWrite first second (reads ++ [.commit 0, .commit 1]) = first := by
        simp [firstToWrite]
      rw [last, firstObject, applied, finalMetadata_overlapping (by decide) found firstObject secondObject both,
        Option.some_inj, mergeEntries_eq_iff disjoint]
    · have last : firstToWrite first second (reads ++ [.commit 1, .commit 0]) = second := by
        simp [firstToWrite]
      have apart (key : String) (inSecond : key ∈ secondUpdates.map (·.1)) : key ∉ firstUpdates.map (·.1) :=
        fun inFirst => disjoint key inFirst inSecond
      rw [last, secondObject, applied, finalMetadata_overlapping (by decide) found secondObject firstObject both.symm,
        Option.some_inj, mergeEntries_comm disjoint, mergeEntries_eq_iff apart]

section Samples

def sampleTable : DocumentTable := ⟨[sampleDocument "report"], List.nodup_singleton _, List.nodup_singleton _⟩

def reviewed : DocumentChange := .updateState .indexed none (.object [("reviewed", .bool true)]) 1

def moved : DocumentChange := .moveToDataset ⟨"archive"⟩ (.object [("moved", .bool true)]) 2

theorem sampleTable_found : getById sampleTable ⟨"tenant"⟩ ⟨"report"⟩ = some (sampleDocument "report") := rfl

theorem sample_disjoint (key : String) (inFirst : key ∈ [("reviewed", Value.bool true)].map (·.1)) :
    key ∉ [("moved", Value.bool true)].map (·.1) := by
  obtain rfl := List.mem_singleton.mp inFirst
  decide

/-- A move after a review keeps both marks. -/
theorem review_then_move_kept : finalMetadata ⟨"tenant"⟩ ⟨"report"⟩ sampleTable (callSteps 0 reviewed ++ callSteps 1 moved) =
    some (mergeEntries (mergeEntries .empty [("reviewed", .bool true)]) [("moved", .bool true)]) :=
  (both_updates_kept_iff sampleTable ⟨"tenant"⟩ ⟨"report"⟩ (sampleDocument "report") reviewed moved
    [("reviewed", .bool true)] [("moved", .bool true)] _ sampleTable_found rfl rfl sample_disjoint
    (.left (.left (.right (.right .nil))))).mpr (.inl (.inl rfl))

/-- A move that reads before the review writes loses its mark. -/
theorem overlapping_move_loses_review : finalMetadata ⟨"tenant"⟩ ⟨"report"⟩ sampleTable
    [.read 0 reviewed, .read 1 moved, .commit 0, .commit 1] ≠
      some (mergeEntries (mergeEntries .empty [("reviewed", .bool true)]) [("moved", .bool true)]) := by
  intro kept
  have overwritten : finalMetadata ⟨"tenant"⟩ ⟨"report"⟩ sampleTable
      [.read 0 reviewed, .read 1 moved, .commit 0, .commit 1] = some (mergeEntries .empty [("moved", .bool true)]) :=
    finalMetadata_overlapping (by decide) sampleTable_found rfl rfl (.inl rfl)
  have marks := congrArg (fun metadata : Map => metadata.get? "reviewed") (Option.some.inj (overwritten.symm.trans kept))
  cases marks

end Samples

end DataMax.DocumentStore
