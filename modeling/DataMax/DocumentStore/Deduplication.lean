import DataMax.DocumentStore.Repository
import DataMax.Library.Run

/-! Documents with the same content are resolved to one of them, as long as the content of
a document that others were resolved to does not change. -/

namespace DataMax.DocumentStore

open Domain Library

/-- A call that records the content of a document. -/
structure Recording where
  tenantId : TenantId
  documentId : DocumentId
  contentSha256 : String
  contentSizeBytes : Int
  recordedAt : DateTime

def record (store : ContentStore) (call : Recording) : ContentStore :=
  (recordContentFingerprint store call.tenantId call.documentId call.contentSha256 call.contentSizeBytes
    call.recordedAt).2

/-- A document resolves to one with the same content that resolves to itself, and it is a
duplicate exactly when that is another document. -/
structure ResolvesWell (store : ContentStore) (document canonical : DocumentRow) : Prop where
  tenant : canonical.tenantId = document.tenantId
  resolved : resolveCanonicalDocumentId store document.tenantId document.id = canonical.id
  content : canonical.contentSha256 = document.contentSha256
  final : resolveCanonicalDocumentId store canonical.tenantId canonical.id = canonical.id
  duplicate : document.dedupState = .duplicate ↔ canonical.id ≠ document.id

instance (store : ContentStore) (document canonical : DocumentRow) : Decidable (ResolvesWell store document canonical) :=
  decidable_of_iff (canonical.tenantId = document.tenantId ∧
      resolveCanonicalDocumentId store document.tenantId document.id = canonical.id ∧
      canonical.contentSha256 = document.contentSha256 ∧
      resolveCanonicalDocumentId store canonical.tenantId canonical.id = canonical.id ∧
      (document.dedupState = .duplicate ↔ canonical.id ≠ document.id))
    ⟨fun ⟨tenant, resolved, content, final, duplicate⟩ => ⟨tenant, resolved, content, final, duplicate⟩,
      fun ⟨tenant, resolved, content, final, duplicate⟩ => ⟨tenant, resolved, content, final, duplicate⟩⟩

def IsDeduplicated (store : ContentStore) : Prop :=
  ∀ document ∈ store.documents.rows, document.contentSha256.isSome →
    ∃ canonical ∈ store.documents.rows, ResolvesWell store document canonical

instance (store : ContentStore) : Decidable (IsDeduplicated store) :=
  inferInstanceAs (Decidable (∀ document ∈ store.documents.rows, document.contentSha256.isSome →
    ∃ canonical ∈ store.documents.rows, ResolvesWell store document canonical))

/-- No document has been recorded yet. -/
structure IsUnrecorded (store : ContentStore) : Prop where
  documents : ∀ document ∈ store.documents.rows, document.contentSha256 = none
  unresolved : ∀ document ∈ store.documents.rows, document.canonicalDocumentId = none
  fingerprints : store.fingerprints.rows = []

/-- The recorded document is not what others with another content resolve to, and the
document that the content was first recorded for still has it. -/
structure KeepsContent (store : ContentStore) (call : Recording) : Prop where
  resolvedTo : ∀ other ∈ store.documents.rows, other.id ≠ call.documentId →
    other.canonicalDocumentId = some call.documentId → other.contentSha256 = some call.contentSha256
  firstRecorded : ∀ fingerprint ∈ store.fingerprints.rows,
    fingerprint.content = (call.tenantId, call.contentSha256) → ∀ canonical ∈ store.documents.rows,
      canonical.id = fingerprint.canonicalDocumentId → canonical.id ≠ call.documentId →
        canonical.contentSha256 = some call.contentSha256

instance (store : ContentStore) (call : Recording) : Decidable (KeepsContent store call) :=
  decidable_of_iff ((∀ other ∈ store.documents.rows, other.id ≠ call.documentId →
        other.canonicalDocumentId = some call.documentId → other.contentSha256 = some call.contentSha256) ∧
      ∀ fingerprint ∈ store.fingerprints.rows, fingerprint.content = (call.tenantId, call.contentSha256) →
        ∀ canonical ∈ store.documents.rows, canonical.id = fingerprint.canonicalDocumentId →
          canonical.id ≠ call.documentId → canonical.contentSha256 = some call.contentSha256)
    ⟨fun ⟨resolvedTo, firstRecorded⟩ => ⟨resolvedTo, firstRecorded⟩,
      fun ⟨resolvedTo, firstRecorded⟩ => ⟨resolvedTo, firstRecorded⟩⟩

/-- The call fails for lack of the document, or keeps what others resolve to. -/
def IsKeeping (store : ContentStore) (call : Recording) : Prop :=
  ∀ _ ∈ getById store.documents call.tenantId call.documentId, KeepsContent store call

instance (store : ContentStore) (call : Recording) : Decidable (IsKeeping store call) :=
  inferInstanceAs (Decidable (∀ _ ∈ getById store.documents call.tenantId call.documentId, KeepsContent store call))

/-- What links the two tables after every call. -/
structure IsLinked (store : ContentStore) : Prop where
  recorded : ∀ document ∈ store.documents.rows, ∀ contentSha256, document.contentSha256 = some contentSha256 →
    ∃ fingerprint ∈ store.fingerprints.rows, fingerprint.content = (document.tenantId, contentSha256) ∧
      document.canonicalDocumentId = some fingerprint.canonicalDocumentId ∧
      document.dedupState = if fingerprint.canonicalDocumentId = document.id then .canonical else .duplicate
  unrecorded : ∀ document ∈ store.documents.rows, document.contentSha256 = none → document.canonicalDocumentId = none
  fingerprints : ∀ fingerprint ∈ store.fingerprints.rows, ∃ canonical ∈ store.documents.rows,
    canonical.id = fingerprint.canonicalDocumentId ∧ canonical.tenantId = fingerprint.tenantId ∧
      canonical.contentSha256.isSome

/-- Linked documents have the same content. -/
def SharesContent (store : ContentStore) : Prop :=
  ∀ document ∈ store.documents.rows, ∀ contentSha256, document.contentSha256 = some contentSha256 →
    ∀ canonical ∈ store.documents.rows, document.canonicalDocumentId = some canonical.id →
      canonical.contentSha256 = some contentSha256

section Resolution

variable {store : ContentStore} {document canonical : DocumentRow}

theorem getById_eq_some {documents : DocumentTable} {tenantId : TenantId} {documentId : DocumentId} :
    getById documents tenantId documentId = some document ↔
      document ∈ documents.rows ∧ document.tenantId = tenantId ∧ document.id = documentId := by
  constructor
  · intro found
    have met : isDocument tenantId documentId document = true := List.find?_some found
    exact ⟨List.mem_of_find?_eq_some found, of_decide_eq_true met⟩
  · intro stored
    obtain ⟨member, tenant, identity⟩ := stored
    cases found : getById documents tenantId documentId with
    | none =>
      have absent := List.find?_eq_none.mp found document member
      exact absurd (decide_eq_true ⟨tenant, identity⟩) absent
    | some other =>
      have met : isDocument tenantId documentId other = true := List.find?_some found
      obtain ⟨_, same⟩ := of_decide_eq_true met
      rw [documents.identity_inj (List.mem_of_find?_eq_some found) member (same.trans identity.symm)]

theorem resolve_eq (stored : document ∈ store.documents.rows) :
    resolveCanonicalDocumentId store document.tenantId document.id = document.canonicalDocumentId.getD document.id := by
  rw [resolveCanonicalDocumentId, getById_eq_some.mpr ⟨stored, rfl, rfl⟩]
  rfl

/-- In linked tables the documents resolve well when linked ones share their content. -/
theorem isDeduplicated_iff (linked : IsLinked store) : IsDeduplicated store ↔ SharesContent store := by
  constructor
  · intro deduplicated document stored contentSha256 content canonical member points
    obtain ⟨found, foundMember, resolves⟩ := deduplicated document stored (by rw [content]; rfl)
    have resolved := resolves.resolved
    rw [resolve_eq stored, points] at resolved
    rw [store.documents.identity_inj member foundMember resolved, resolves.content, content]
  · intro shares document stored recorded
    obtain ⟨contentSha256, content⟩ := Option.isSome_iff_exists.mp recorded
    obtain ⟨fingerprint, listed, about, points, state⟩ := linked.recorded document stored contentSha256 content
    obtain ⟨canonical, member, identity, tenant, _⟩ := linked.fingerprints fingerprint listed
    have same := shares document stored contentSha256 content canonical member (by rw [points, identity])
    have owner : fingerprint.tenantId = document.tenantId := congrArg Prod.fst about
    obtain ⟨again, relisted, reabout, itself, _⟩ := linked.recorded canonical member contentSha256 same
    have contents : again.content = fingerprint.content := by rw [reabout, about, tenant, owner]
    have one : again = fingerprint := store.fingerprints.key_inj relisted listed contents
    refine ⟨canonical, member, tenant.trans owner, ?_, same.trans content.symm, ?_, ?_⟩
    · rw [resolve_eq stored, points, identity]
      rfl
    · rw [resolve_eq member, itself, one, identity]
      rfl
    · rw [state, identity]
      split <;> simp_all

end Resolution

section Recording

variable {store : ContentStore} {call : Recording}

/-- What a call does for a document that exists: the first fingerprint of the content
decides what the document resolves to. -/
structure Recorded (store : ContentStore) (call : Recording) (document : DocumentRow)
    (fingerprint : ContentFingerprintRow) (next : ContentStore) : Prop where
  stored : document ∈ store.documents.rows
  tenant : document.tenantId = call.tenantId
  identity : document.id = call.documentId
  about : fingerprint.content = (call.tenantId, call.contentSha256)
  listed : fingerprint ∈ next.fingerprints.rows
  kept : ∀ other ∈ store.fingerprints.rows, other ∈ next.fingerprints.rows
  new : ∀ other ∈ next.fingerprints.rows, other ∈ store.fingerprints.rows ∨
    other = fingerprint ∧ fingerprint.canonicalDocumentId = call.documentId
  documents : next.documents = store.documents.update (isDocument call.tenantId call.documentId)
    (becomeRecorded call.contentSha256 call.contentSizeBytes fingerprint.canonicalDocumentId
      (if fingerprint.canonicalDocumentId = call.documentId then .canonical else .duplicate) call.recordedAt)

/-- Inserting a fingerprint keeps the others, and a content has one fingerprint afterwards. -/
theorem insertFingerprint_stored (known : (store.documents.findIdentity call.documentId).isSome) :
    ∃ fingerprints fingerprint,
      insertFingerprint store call.tenantId call.documentId call.contentSha256 call.contentSizeBytes call.recordedAt =
        some fingerprints ∧ fingerprint ∈ fingerprints.rows ∧
      fingerprint.content = (call.tenantId, call.contentSha256) ∧
      (∀ other ∈ store.fingerprints.rows, other ∈ fingerprints.rows) ∧
      ∀ other ∈ fingerprints.rows, other ∈ store.fingerprints.rows ∨
        other = fingerprint ∧ fingerprint.canonicalDocumentId = call.documentId := by
  unfold insertFingerprint
  split
  · rename_i outcome
    obtain ⟨absent, refused⟩ := Table.insertOrUpdate_refused outcome
    refine absurd ⟨known, fun clash => ?_⟩ refused
    obtain ⟨other, listed, same⟩ := List.mem_map.mp clash
    exact Table.findKey_eq_none.mp absent other listed same
  · rename_i outcome
    obtain ⟨existing, found, _⟩ := Table.insertOrUpdate_skipped outcome
    obtain ⟨listed, about⟩ := Table.findKey_eq_some.mp found
    exact ⟨_, existing, rfl, listed, about, fun _ => id, fun _ => .inl⟩
  · rename_i outcome
    obtain ⟨_, _, _, never, _⟩ := Table.insertOrUpdate_updated outcome
    cases never
  · rename_i fingerprints inserted outcome
    obtain ⟨_, _, _, rows, _⟩ := Table.insertOrUpdate_inserted outcome
    refine ⟨fingerprints, newFingerprint call.tenantId call.documentId call.contentSha256 call.contentSizeBytes
      call.recordedAt, rfl, ?_, rfl, ?_, ?_⟩
    · rw [rows]
      exact List.mem_append_right _ (List.mem_singleton_self _)
    · intro other listed
      rw [rows]
      exact List.mem_append_left _ listed
    · intro other listed
      rw [rows] at listed
      rcases List.mem_append.mp listed with earlier | added
      · exact .inl earlier
      · exact .inr ⟨List.mem_singleton.mp added, rfl⟩

theorem record_missing (missing : getById store.documents call.tenantId call.documentId = none) :
    record store call = store := by
  have unselected : ∀ document ∈ store.documents.rows, isDocument call.tenantId call.documentId document = false :=
    fun document stored => Bool.eq_false_iff.mpr (List.find?_eq_none.mp missing document stored)
  unfold record recordContentFingerprint
  split
  · rfl
  · split
    · rfl
    · dsimp only
      rw [Table.returning_head_none.mpr unselected]

theorem record_stored {document : DocumentRow}
    (found : getById store.documents call.tenantId call.documentId = some document) :
    ∃ fingerprint, Recorded store call document fingerprint (record store call) := by
  obtain ⟨stored, tenant, identity⟩ := getById_eq_some.mp found
  have known : (store.documents.findIdentity call.documentId).isSome :=
    Option.isSome_iff_exists.mpr ⟨document, Table.findIdentity_eq_some.mpr ⟨stored, identity⟩⟩
  obtain ⟨fingerprints, fingerprint, inserted, listed, about, kept, new⟩ := insertFingerprint_stored known
  have selects : fingerprints.findKey (call.tenantId, call.contentSha256) = some fingerprint :=
    Table.findKey_eq_some.mpr ⟨listed, about⟩
  have single : ∀ row, isDocument call.tenantId call.documentId row = true → documentSchema.identity row = call.documentId :=
    fun row met => (of_decide_eq_true met).2
  refine ⟨fingerprint, ?_⟩
  unfold record recordContentFingerprint
  rw [inserted]
  dsimp only
  rw [selects]
  dsimp only
  rw [(Table.returning_head_some single).mpr ⟨document, stored, decide_eq_true ⟨tenant, identity⟩, rfl⟩]
  exact ⟨stored, tenant, identity, about, listed, kept, new, rfl⟩

/-- The recorded document afterwards. -/
def recordedRow (call : Recording) (fingerprint : ContentFingerprintRow) (document : DocumentRow) : DocumentRow :=
  (becomeRecorded call.contentSha256 call.contentSizeBytes fingerprint.canonicalDocumentId
    (if fingerprint.canonicalDocumentId = call.documentId then .canonical else .duplicate) call.recordedAt).apply document

section Effects

variable {document : DocumentRow} {fingerprint : ContentFingerprintRow} {next : ContentStore}
  (recorded : Recorded store call document fingerprint next)

include recorded

theorem mem_recorded {row : DocumentRow} : row ∈ next.documents.rows ↔
    row = recordedRow call fingerprint document ∨ row ∈ store.documents.rows ∧ row.id ≠ call.documentId := by
  have selects (row : DocumentRow) (stored : row ∈ store.documents.rows) :
      isDocument call.tenantId call.documentId row = true ↔ row = document := by
    constructor
    · intro met
      obtain ⟨_, same⟩ := of_decide_eq_true met
      exact store.documents.identity_inj stored recorded.stored (same.trans recorded.identity.symm)
    · intro same
      rw [same]
      exact decide_eq_true ⟨recorded.tenant, recorded.identity⟩
  rw [recorded.documents, Table.mem_update_single recorded.stored selects]
  apply or_congr_right
  apply and_congr_right
  intro stored
  rw [← recorded.identity]
  exact not_congr ⟨congrArg DocumentRow.id, store.documents.identity_inj stored recorded.stored⟩

theorem recordedRow_member : recordedRow call fingerprint document ∈ next.documents.rows :=
  (mem_recorded recorded).mpr (.inl rfl)

theorem recordedRow_id : (recordedRow call fingerprint document).id = call.documentId := recorded.identity

theorem recorded_linked (linked : IsLinked store) : IsLinked next where
  recorded row listed contentSha256 content := by
    rcases (mem_recorded recorded).mp listed with rfl | ⟨stored, _⟩
    · cases content
      refine ⟨fingerprint, recorded.listed, ?_, rfl, ?_⟩
      · rw [recorded.about, ← recorded.tenant]
        rfl
      · rw [recordedRow_id recorded]
        rfl
    · obtain ⟨linking, stillListed, others⟩ := linked.recorded row stored contentSha256 content
      exact ⟨linking, recorded.kept linking stillListed, others⟩
  unrecorded row listed content := by
    rcases (mem_recorded recorded).mp listed with rfl | ⟨stored, _⟩
    · cases content
    · exact linked.unrecorded row stored content
  fingerprints other listed := by
    have own (tenant : other.tenantId = call.tenantId) (first : other.canonicalDocumentId = call.documentId) :
        ∃ canonical ∈ next.documents.rows, canonical.id = other.canonicalDocumentId ∧
          canonical.tenantId = other.tenantId ∧ canonical.contentSha256.isSome :=
      ⟨_, recordedRow_member recorded, (recordedRow_id recorded).trans first.symm,
        recorded.tenant.trans tenant.symm, rfl⟩
    rcases recorded.new other listed with earlier | ⟨rfl, first⟩
    · obtain ⟨canonical, stored, identity, tenant, content⟩ := linked.fingerprints other earlier
      by_cases same : canonical.id = call.documentId
      · have one := store.documents.identity_inj stored recorded.stored (same.trans recorded.identity.symm)
        refine own ?_ (identity.symm.trans same)
        rw [← tenant, one, recorded.tenant]
      · exact ⟨canonical, (mem_recorded recorded).mpr (.inr ⟨stored, same⟩), identity, tenant, content⟩
    · exact own (congrArg Prod.fst recorded.about) first

/-- A call keeps linked documents alike exactly when it keeps what they resolve to. -/
theorem recorded_shares_iff (linked : IsLinked store) (shares : SharesContent store) :
    SharesContent next ↔ KeepsContent store call := by
  constructor
  · intro shared
    refine ⟨fun other stored apart points => ?_, fun first listed about canonical stored identity apart => ?_⟩
    · cases content : other.contentSha256 with
      | none =>
        have unresolved := linked.unrecorded other stored content
        rw [points] at unresolved
        cases unresolved
      | some contentSha256 =>
        have same := shared other ((mem_recorded recorded).mpr (.inr ⟨stored, apart⟩)) contentSha256 content _
          (recordedRow_member recorded) (by rw [points, recordedRow_id recorded])
        exact same.symm
    · have one : first = fingerprint := next.fingerprints.key_inj (recorded.kept first listed) recorded.listed
        (about.trans recorded.about.symm)
      rw [one] at identity
      exact shared _ (recordedRow_member recorded) call.contentSha256 rfl canonical
        ((mem_recorded recorded).mpr (.inr ⟨stored, apart⟩)) (by rw [identity]; rfl)
  · intro keeps row listed contentSha256 content canonical member points
    rcases (mem_recorded recorded).mp listed with rfl | ⟨stored, apart⟩
    · cases content
      rcases (mem_recorded recorded).mp member with rfl | ⟨kept, other⟩
      · rfl
      · have first : canonical.id = fingerprint.canonicalDocumentId := (Option.some.inj points).symm
        rcases recorded.new fingerprint recorded.listed with earlier | ⟨_, own⟩
        · exact keeps.firstRecorded fingerprint earlier recorded.about canonical kept first other
        · exact absurd (first.trans own) other
    · rcases (mem_recorded recorded).mp member with rfl | ⟨kept, _⟩
      · rw [recordedRow_id recorded] at points
        have same := keeps.resolvedTo row stored apart points
        rw [content] at same
        exact same.symm
      · exact shares row stored contentSha256 content canonical kept points

end Effects

theorem record_linked (linked : IsLinked store) (call : Recording) : IsLinked (record store call) := by
  cases found : getById store.documents call.tenantId call.documentId with
  | none => rwa [record_missing found]
  | some document =>
    obtain ⟨fingerprint, recorded⟩ := record_stored found
    exact recorded_linked recorded linked

theorem record_deduplicated_iff (linked : IsLinked store) (deduplicated : IsDeduplicated store) (call : Recording) :
    IsDeduplicated (record store call) ↔ IsKeeping store call := by
  unfold IsKeeping
  cases found : getById store.documents call.tenantId call.documentId with
  | none =>
    rw [record_missing found]
    exact iff_of_true deduplicated (by simp)
  | some document =>
    obtain ⟨fingerprint, recorded⟩ := record_stored found
    rw [isDeduplicated_iff (recorded_linked recorded linked),
      recorded_shares_iff recorded linked ((isDeduplicated_iff linked).mp deduplicated)]
    simp

end Recording

theorem IsUnrecorded.linked {store : ContentStore} (unrecorded : IsUnrecorded store) : IsLinked store where
  recorded document stored contentSha256 content := by
    rw [unrecorded.documents document stored] at content
    cases content
  unrecorded document stored _ := unrecorded.unresolved document stored
  fingerprints fingerprint listed := by
    rw [unrecorded.fingerprints] at listed
    cases listed

theorem IsUnrecorded.deduplicated {store : ContentStore} (unrecorded : IsUnrecorded store) : IsDeduplicated store := by
  intro document stored recorded
  rw [unrecorded.documents document stored] at recorded
  cases recorded

/-- Documents resolve to equal content in exactly the runs whose calls keep the content of
every document that others resolve to, or that would be resolved to next. -/
theorem deduplicated_iff_keeping (store : ContentStore) (calls : List Recording) (unrecorded : IsUnrecorded store) :
    Always record IsDeduplicated store calls ↔ Guarded record IsKeeping store calls := by
  have kept (store : ContentStore) (call : Recording) (linked : IsLinked store) : IsLinked (record store call) :=
    record_linked linked call
  have step (store : ContentStore) (call : Recording) (linked : IsLinked store) (deduplicated : IsDeduplicated store) :
      IsDeduplicated (record store call) ↔ IsKeeping store call := record_deduplicated_iff linked deduplicated call
  exact always_iff_guarded record kept step unrecorded.linked unrecorded.deduplicated calls

section Samples

def sampleStore : ContentStore where
  documents := ⟨[sampleDocument "first", sampleDocument "second"], by decide, by decide⟩
  fingerprints := .empty

theorem sampleStore_unrecorded : IsUnrecorded sampleStore where
  documents := by simp [sampleStore, sampleDocument]
  unresolved := by simp [sampleStore, sampleDocument]
  fingerprints := rfl

def sampleRecording (name contentSha256 : String) (recordedAt : DateTime) : Recording :=
  ⟨⟨"tenant"⟩, ⟨name⟩, contentSha256, 4, recordedAt⟩

/-- A document with the content of an earlier one resolves to it. -/
theorem equal_contents_deduplicated : Always record IsDeduplicated sampleStore
    [sampleRecording "first" "a665" 1, sampleRecording "second" "a665" 2] :=
  (deduplicated_iff_keeping sampleStore _ sampleStore_unrecorded).mpr (by decide)

/-- The first document is recorded again with another content, and the second one still
resolves to it. -/
theorem changed_content_keeps_duplicate : ¬ IsDeduplicated ([sampleRecording "first" "a665" 1,
    sampleRecording "second" "a665" 2, sampleRecording "first" "b3a8" 3].foldl record sampleStore) := by
  decide

end Samples

end DataMax.DocumentStore
