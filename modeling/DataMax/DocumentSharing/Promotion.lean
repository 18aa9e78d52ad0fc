import DataMax.DocumentSharing.Memberships
import DataMax.Library.Outcome

/-! What stays true of a document's datasets over any calls, and what a promotion to
canonical dataset asks of the memberships that stay behind. -/

namespace DataMax.DocumentSharing

open Domain Json Library

section Promoted

variable {document moved : Document} {canonicalDataset promoted other : Dataset}

/-- What the promoted dataset must allow the datasets that stay. -/
structure FollowsPromotion (document : Document) (promoted other : Dataset) : Prop where
  owner : promoted.ownerUserId = other.ownerUserId ∨
    promoted.ownerUserId = none ∧ promoted.visibility = .publicDataset
  thread : datasetLocalThreadScope promoted = datasetLocalThreadScope other ∨
    sourceScopeIsUnrestrictedPublic document promoted
  unrestricted : targetScopeIsUnrestrictedPublic other → sourceScopeIsUnrestrictedPublic document promoted
  secrets : promoted.visibility = .publicDataset ∨
    other.defaultSecretBindingIds ⊆ promoted.defaultSecretBindingIds

/-- Another canonical dataset leaves the scope of the document as it is. -/
structure SameScope (document moved : Document) : Prop where
  tenantId : moved.tenantId = document.tenantId
  ownerUserId : moved.ownerUserId = document.ownerUserId
  secretBindingIds : moved.secretBindingIds = document.secretBindingIds
  localThread : documentLocalThreadScope moved = documentLocalThreadScope document

theorem SameScope.unrestricted (same : SameScope document moved) (dataset : Dataset) :
    sourceScopeIsUnrestrictedPublic moved dataset = sourceScopeIsUnrestrictedPublic document dataset := by
  simp only [sourceScopeIsUnrestrictedPublic, same.ownerUserId, same.secretBindingIds, same.localThread]

theorem owner_follows_iff (same : SameScope document moved)
    (first : CanContribute document canonicalDataset promoted) (second : CanContribute document canonicalDataset other) :
    ownerScopeMismatch moved promoted other = false ↔ promoted.ownerUserId = other.ownerUserId ∨
      promoted.ownerUserId = none ∧ promoted.visibility = .publicDataset := by
  rw [ownerScopeMismatch, same.ownerUserId]
  cases owned : document.ownerUserId with
  | some owner =>
    obtain ⟨_, target, _⟩ := first.owned_document owned
    obtain ⟨_, target', secretless⟩ := second.owned_document owned
    simp [target, target', secretless]
  | none =>
    cases promotedOwner : promoted.ownerUserId with
    | some owner => simp [@eq_comm _ other.ownerUserId]
    | none =>
      by_cases shown : promoted.visibility = .publicDataset
      · simp [shown]
      · cases otherOwner : other.ownerUserId <;> simp [shown]

/-- Both targets have the thread of the document or its dataset; without one they may differ. -/
theorem thread_follows_iff (same : SameScope document moved)
    (first : CanContribute document canonicalDataset promoted) (second : CanContribute document canonicalDataset other) :
    localThreadMismatch moved promoted other = false ↔
      datasetLocalThreadScope promoted = datasetLocalThreadScope other ∨
        sourceScopeIsUnrestrictedPublic document promoted := by
  obtain ⟨⟨source, sourceScope⟩, ⟨own, ownScope⟩, _⟩ := first.scopes
  have readable : ∀ {target}, CanContribute document canonicalDataset target →
      ∃ thread, datasetLocalThreadScope target = .ok thread := by
    intro target checked
    have fits := checked.localThread
    rw [localThreadMismatch] at fits
    split at fits
    · exact ⟨_, by assumption⟩
    · cases fits
  cases own with
  | some name =>
    have bound := first.target_confined (.inl ownScope)
    have bound' := second.target_confined (.inl ownScope)
    simp [localThreadMismatch, same.localThread, ownScope, bound, bound']
  | none =>
    cases source with
    | some name =>
      have bound := first.target_confined (.inr ⟨ownScope, sourceScope⟩)
      have bound' := second.target_confined (.inr ⟨ownScope, sourceScope⟩)
      simp [localThreadMismatch, same.localThread, ownScope, bound, bound']
    | none =>
      obtain ⟨thread, scope⟩ := readable first
      obtain ⟨thread', scope'⟩ := readable second
      rw [localThreadMismatch, same.localThread, ownScope, scope, scope', same.unrestricted]
      cases thread with
      | some name =>
        have restricted : sourceScopeIsUnrestrictedPublic document promoted = false := by
          simp [sourceScopeIsUnrestrictedPublic, targetScopeIsUnrestrictedPublic, scope, isUnconfined]
        simp [restricted, @eq_comm _ thread']
      | none => cases thread' <;> simp

/-- A dataset that stays is compatible with the promoted one exactly when it follows it. -/
theorem canContribute_promoted_iff (same : SameScope document moved) (placed : moved.datasetId = promoted.id)
    (first : CanContribute document canonicalDataset promoted) (second : CanContribute document canonicalDataset other) :
    CanContribute moved promoted other ↔ FollowsPromotion document promoted other := by
  constructor
  · intro checked
    refine ⟨(owner_follows_iff same first second).mp checked.owner, (thread_follows_iff same first second).mp checked.localThread,
      ?_, ?_⟩
    · rw [← same.unrestricted]
      exact checked.unrestricted
    · by_cases shown : promoted.visibility = .publicDataset
      · exact .inl shown
      · exact .inr (checked.canonicalSecrets shown)
  · intro follows
    refine ⟨same.tenantId.trans first.targetTenant, same.tenantId.trans second.targetTenant, placed,
      (owner_follows_iff same first second).mpr follows.owner, (thread_follows_iff same first second).mpr follows.thread,
      ?_, ?_, ?_⟩
    · rw [same.unrestricted]
      exact follows.unrestricted
    · exact fun hidden => follows.secrets.resolve_left hidden
    · rw [same.secretBindingIds]
      exact second.documentSecrets

theorem moveToDataset_sameScope (document : Document) (removedDatasetId datasetId : DatasetId) (updatedAt : String) :
    SameScope document (document.moveToDataset removedDatasetId datasetId updatedAt) := by
  refine ⟨rfl, rfl, rfl, ?_⟩
  have kept : ∀ key, key ≠ "dataset_membership_update" →
      (document.moveToDataset removedDatasetId datasetId updatedAt).metadata.get? key = document.metadata.get? key :=
    fun key different => SortedMap.get?_insert_other _ _ different
  rw [documentLocalThreadScope, documentLocalThreadScope, localThreadScope, localThreadScope, localOnly, localOnly,
    kept _ (by decide), kept _ (by decide)]
  rfl

end Promoted

section Calls

variable {datasets : DatasetTable} {secrets : List SecretBindingId} {user : Option UserId}
  {store next : DocumentMemberships} {datasetId : DatasetId} {dataset promoted : Dataset} {now : String}

theorem findDataset_ok : findDataset datasets datasetId = .ok dataset ↔ datasets.find datasetId = some dataset := by
  rw [findDataset]
  cases datasets.find datasetId <;> simp

theorem loadVisibleDataset_find (loaded : loadVisibleDatasetForUser datasets secrets user datasetId = .ok dataset) :
    datasets.find datasetId = some dataset := by
  rw [loadVisibleDatasetForUser] at loaded
  cases found : datasets.find datasetId with
  | none =>
    rw [found] at loaded
    cases loaded
  | some known =>
    rw [found] at loaded
    cases visible : ensureDatasetVisibleForRequest datasets secrets user known with
    | error error => simp [visible, Except.map] at loaded
    | ok _ => simpa [visible, Except.map] using loaded

theorem loadVisibleDocument_eq {document : Document}
    (loaded : loadVisibleDocumentForUser datasets secrets user store = .ok document) : document = store.document := by
  rw [loadVisibleDocumentForUser] at loaded
  split at loaded
  · cases loaded
  · split at loaded
    · cases loaded
      rfl
    · cases loaded

/-- All that an addition can do. -/
theorem add_cases (added : addDocumentDatasetMembershipForUser datasets secrets user store datasetId = .ok next) :
    (datasetId = store.document.datasetId ∧ next = store) ∨
      datasetId ≠ store.document.datasetId ∧
        next = { store with memberships := store.memberships.insert datasetId () } ∧
          ∃ canonicalDataset targetDataset, datasets.find store.document.datasetId = some canonicalDataset ∧
            datasets.find datasetId = some targetDataset ∧
              CanContribute store.document canonicalDataset targetDataset := by
  simp only [addDocumentDatasetMembershipForUser, bind_eq_ok] at added
  obtain ⟨document, loaded, _, _, targetDataset, found, _, _, rest⟩ := added
  cases loadVisibleDocument_eq loaded
  by_cases fresh : shouldCreateSecondaryDatasetMembership store.document.datasetId datasetId
  · rw [if_pos fresh, bind_eq_ok] at rest
    obtain ⟨canonicalDataset, canonical, rest⟩ := rest
    rw [bind_eq_ok] at rest
    obtain ⟨_, compatible, changed⟩ := rest
    rw [ensureDocumentDatasetMembershipScopeCompatible] at compatible
    split at compatible
    · rename_i accepted
      cases changed
      have different : store.document.datasetId ≠ datasetId := by
        simpa [shouldCreateSecondaryDatasetMembership] using fresh
      exact .inr ⟨different.symm, rfl, canonicalDataset, targetDataset, findDataset_ok.mp canonical,
        loadVisibleDataset_find found, canContribute_iff.mp accepted⟩
    · cases compatible
  · rw [if_neg fresh] at rest
    cases rest
    have same : store.document.datasetId = datasetId := by
      simpa [shouldCreateSecondaryDatasetMembership] using fresh
    exact .inl ⟨same.symm, rfl⟩

/-- The promoted dataset was a secondary one that the removed dataset could contribute to. -/
theorem promoted_cases (chosen : promotedDataset datasets secrets user store datasetId = .ok promoted) :
    promoted.id ∈ store.listDatasetIds ∧ promoted.id ≠ datasetId ∧ datasets.find promoted.id = some promoted ∧
      ∃ canonicalDataset, datasets.find store.document.datasetId = some canonicalDataset ∧
        CanContribute store.document canonicalDataset promoted := by
  simp only [promotedDataset, bind_eq_ok] at chosen
  obtain ⟨canonicalDataset, canonical, selected⟩ := chosen
  rw [selectCompatiblePromotionDataset] at selected
  split at selected
  · rename_i found chosen
    cases selected
    obtain ⟨candidate, listed, loaded⟩ := List.mem_filterMap.mp (List.mem_of_find?_eq_some chosen)
    obtain ⟨member, kept⟩ := List.mem_filter.mp listed
    have known : datasets.find candidate = some promoted := by
      apply loadVisibleDataset_find
      cases reached : loadVisibleDatasetForUser datasets secrets user candidate with
      | error error => simp [reached, Except.toOption] at loaded
      | ok dataset =>
        rw [reached] at loaded
        exact congrArg Except.ok (Option.some.inj loaded)
    cases datasets.identified known
    exact ⟨member, by simpa using kept, known, canonicalDataset, findDataset_ok.mp canonical,
      canContribute_iff.mp (List.find?_some chosen)⟩
  · split at selected <;> cases selected

/-- All that a removal can do. -/
theorem remove_cases (removed : removeDocumentDatasetMembershipForUser datasets secrets user store datasetId now = .ok next) :
    (store.document.datasetId ≠ datasetId ∧ next = { store with memberships := store.memberships.erase datasetId }) ∨
      store.document.datasetId = datasetId ∧ ∃ promoted,
        promotedDataset datasets secrets user store datasetId = .ok promoted ∧
          next = ⟨store.document.moveToDataset datasetId promoted.id now, store.memberships.erase promoted.id⟩ := by
  simp only [removeDocumentDatasetMembershipForUser, bind_eq_ok] at removed
  obtain ⟨document, loaded, _, _, _, _, rest⟩ := removed
  cases loadVisibleDocument_eq loaded
  by_cases canonical : store.document.datasetId = datasetId
  · rw [if_pos canonical, removeCanonicalDatasetMembership, bind_eq_ok] at rest
    obtain ⟨promoted, chosen, changed⟩ := rest
    cases changed
    exact .inr ⟨canonical, promoted, chosen, rfl⟩
  · rw [if_neg canonical] at rest
    cases rest
    exact .inl ⟨canonical, rfl⟩

theorem mem_insert_ids {memberships : SortedMap DatasetId Unit} {other : DatasetId} :
    other ∈ (memberships.insert datasetId ()).entries.map (·.1) ↔
      other = datasetId ∨ other ∈ memberships.entries.map (·.1) := by
  have listed : ∀ map : SortedMap DatasetId Unit, other ∈ map.entries.map (·.1) ↔ map.get? other = some () := by
    intro map
    rw [← @SortedMap.mem_entries_iff _ _ _ _ map (other, ()), List.mem_map]
    constructor
    · rintro ⟨⟨_, _⟩, inside, rfl⟩
      exact inside
    · exact fun inside => ⟨_, inside, rfl⟩
  rw [listed, listed]
  by_cases same : other = datasetId
  · simp [same]
  · rw [SortedMap.get?_insert_other _ _ same]
    simp [same]

theorem mem_erase_ids {memberships : SortedMap DatasetId Unit} {other : DatasetId} :
    other ∈ (memberships.erase datasetId).entries.map (·.1) ↔
      other ∈ memberships.entries.map (·.1) ∧ other ≠ datasetId := by
  have apart : ∀ key : DatasetId, compare datasetId key ≠ .eq ↔ key ≠ datasetId := by
    intro key
    rw [not_iff_not]
    constructor
    · exact fun same => (Std.LawfulEqCmp.eq_of_compare same).symm
    · rintro rfl
      exact Std.ReflCmp.compare_self
  simp only [SortedMap.erase, SortedMap.eraseEntry, List.mem_map, List.mem_filter, bne_iff_ne, apart]
  constructor
  · rintro ⟨entry, ⟨listed, kept⟩, rfl⟩
    exact ⟨⟨entry, listed, rfl⟩, kept⟩
  · rintro ⟨⟨entry, listed, rfl⟩, kept⟩
    exact ⟨entry, ⟨listed, kept⟩, rfl⟩

end Calls

section Runs

variable {datasets : DatasetTable} {store next : DocumentMemberships} {call : MembershipCall}

/-- Every secondary dataset can still take the document from its canonical one. -/
def IsCompatible (datasets : DatasetTable) (store : DocumentMemberships) : Prop :=
  ∀ other ∈ store.listDatasetIds, ∃ canonicalDataset targetDataset,
    datasets.find store.document.datasetId = some canonicalDataset ∧ datasets.find other = some targetDataset ∧
      documentScopeCanContributeToDataset store.document canonicalDataset targetDataset

/-- The canonical dataset is not also a secondary one. -/
def IsApart (store : DocumentMemberships) : Prop := store.document.datasetId ∉ store.listDatasetIds

/-- An addition adds its dataset, a removal removes it, and neither touches another one. -/
def ChangesExactly (datasets : DatasetTable) (store : DocumentMemberships) (call : MembershipCall) : Prop :=
  ∀ next, call.run datasets store = .ok next → ∀ other, other ∈ next.members ↔ match call with
    | .add _ _ datasetId => other ∈ store.members ∨ other = datasetId
    | .remove _ _ datasetId _ => other ∈ store.members ∧ other ≠ datasetId

/-- When the canonical dataset goes, the datasets that stay follow the promoted one. -/
def LeavesFollowers (datasets : DatasetTable) (store : DocumentMemberships) : MembershipCall → Prop
  | .add _ _ _ => True
  | .remove secrets user datasetId now => datasetId = store.document.datasetId →
    (removeDocumentDatasetMembershipForUser datasets secrets user store datasetId now).isOk →
      ∀ promoted, promotedDataset datasets secrets user store datasetId = .ok promoted →
        ∀ other ∈ store.listDatasetIds, other ≠ promoted.id → ∀ targetDataset, datasets.find other = some targetDataset →
          FollowsPromotion store.document promoted targetDataset

theorem afterCall_cases (datasets : DatasetTable) (store : DocumentMemberships) (call : MembershipCall) :
    call.run datasets store = .ok (afterCall datasets store call) ∨
      (call.run datasets store).isOk = false ∧ afterCall datasets store call = store := by
  rw [afterCall]
  cases call.run datasets store with
  | ok next => exact .inl rfl
  | error error => exact .inr ⟨rfl, rfl⟩

theorem changesExactly (apart : IsApart store) (call : MembershipCall) : ChangesExactly datasets store call := by
  intro next done other
  cases call with
  | add secrets user datasetId =>
    rcases add_cases done with ⟨rfl, rfl⟩ | ⟨_, rfl, _⟩
    · constructor
      · exact .inl
      · rintro (inside | rfl)
        · exact inside
        · exact List.mem_cons_self
    · change other ∈ store.document.datasetId :: (store.memberships.insert datasetId ()).entries.map (·.1) ↔ _
      rw [List.mem_cons, mem_insert_ids, DocumentMemberships.members, List.mem_cons, DocumentMemberships.listDatasetIds]
      tauto
  | remove secrets user datasetId now =>
    rcases remove_cases done with ⟨different, rfl⟩ | ⟨rfl, promoted, chosen, rfl⟩
    · change other ∈ store.document.datasetId :: (store.memberships.erase datasetId).entries.map (·.1) ↔ _
      rw [List.mem_cons, mem_erase_ids, DocumentMemberships.members, List.mem_cons, DocumentMemberships.listDatasetIds]
      constructor
      · rintro (rfl | ⟨inside, kept⟩)
        · exact ⟨.inl rfl, different⟩
        · exact ⟨.inr inside, kept⟩
      · exact fun ⟨inside, kept⟩ => inside.imp_right fun listed => ⟨listed, kept⟩
    · obtain ⟨member, distinct, _⟩ := promoted_cases chosen
      change other ∈ promoted.id :: (store.memberships.erase promoted.id).entries.map (·.1) ↔ _
      rw [List.mem_cons, mem_erase_ids, DocumentMemberships.members, List.mem_cons]
      constructor
      · rintro (rfl | ⟨inside, _⟩)
        · exact ⟨.inr member, distinct⟩
        · refine ⟨.inr inside, ?_⟩
          rintro rfl
          exact apart inside
      · rintro ⟨rfl | inside, kept⟩
        · exact False.elim (kept rfl)
        · exact or_iff_not_imp_left.mpr fun fresh => ⟨inside, fresh⟩

theorem isApart_afterCall (apart : IsApart store) (call : MembershipCall) : IsApart (afterCall datasets store call) := by
  rcases afterCall_cases datasets store call with done | ⟨_, same⟩
  · generalize afterCall datasets store call = next at done ⊢
    cases call with
    | add secrets user datasetId =>
      rcases add_cases done with ⟨_, rfl⟩ | ⟨different, rfl, _⟩
      · exact apart
      · intro inside
        rcases mem_insert_ids.mp inside with same | known
        · exact different same.symm
        · exact apart known
    | remove secrets user datasetId now =>
      rcases remove_cases done with ⟨_, rfl⟩ | ⟨_, promoted, _, rfl⟩
      · exact fun inside => apart (mem_erase_ids.mp inside).1
      · exact fun inside => (mem_erase_ids.mp inside).2 rfl
  · rw [same]
    exact apart

/-- After a promotion the memberships are compatible exactly when they follow it. -/
theorem compatible_promoted_iff {secrets : List SecretBindingId} {user : Option UserId} {datasetId : DatasetId}
    {promoted : Dataset} {now : String} (compatible : IsCompatible datasets store)
    (chosen : promotedDataset datasets secrets user store datasetId = .ok promoted) :
    IsCompatible datasets ⟨store.document.moveToDataset datasetId promoted.id now, store.memberships.erase promoted.id⟩ ↔
      ∀ other ∈ store.listDatasetIds, other ≠ promoted.id → ∀ targetDataset, datasets.find other = some targetDataset →
        FollowsPromotion store.document promoted targetDataset := by
  obtain ⟨_, _, known, canonicalDataset, canonical, first⟩ := promoted_cases chosen
  have same := moveToDataset_sameScope store.document datasetId promoted.id now
  have follows : ∀ {other targetDataset}, other ∈ store.listDatasetIds → datasets.find other = some targetDataset →
      (documentScopeCanContributeToDataset (store.document.moveToDataset datasetId promoted.id now) promoted targetDataset ↔
        FollowsPromotion store.document promoted targetDataset) := by
    intro other targetDataset listed found
    obtain ⟨canonicalDataset', targetDataset', canonical', found', accepted⟩ := compatible other listed
    cases canonical.symm.trans canonical'
    cases found.symm.trans found'
    rw [canContribute_iff]
    exact canContribute_promoted_iff same rfl first (canContribute_iff.mp accepted)
  constructor
  · intro after other listed different targetDataset found
    obtain ⟨promoted', targetDataset', known', found', accepted⟩ := after other (mem_erase_ids.mpr ⟨listed, different⟩)
    cases known.symm.trans known'
    cases found.symm.trans found'
    exact (follows listed found).mp accepted
  · intro leaves other inside
    obtain ⟨listed, different⟩ := mem_erase_ids.mp inside
    obtain ⟨_, targetDataset, _, found, _⟩ := compatible other listed
    exact ⟨promoted, targetDataset, known, found,
      (follows listed found).mpr (leaves other listed different targetDataset found)⟩

theorem compatible_afterCall_iff (compatible : IsCompatible datasets store) (call : MembershipCall) :
    IsCompatible datasets (afterCall datasets store call) ↔ LeavesFollowers datasets store call := by
  rcases afterCall_cases datasets store call with done | ⟨failed, same⟩
  · generalize afterCall datasets store call = next at done ⊢
    cases call with
    | add secrets user datasetId =>
      refine iff_of_true ?_ trivial
      rcases add_cases done with ⟨_, rfl⟩ | ⟨_, rfl, canonicalDataset, targetDataset, canonical, found, checked⟩
      · exact compatible
      · intro other inside
        rcases mem_insert_ids.mp inside with rfl | known
        · exact ⟨canonicalDataset, targetDataset, canonical, found, canContribute_iff.mpr checked⟩
        · exact compatible other known
    | remove secrets user datasetId now =>
      have succeeds : (removeDocumentDatasetMembershipForUser datasets secrets user store datasetId now).isOk := by
        rw [show removeDocumentDatasetMembershipForUser datasets secrets user store datasetId now = .ok next from done]
        rfl
      rcases remove_cases done with ⟨different, rfl⟩ | ⟨rfl, promoted, chosen, rfl⟩
      · refine iff_of_true ?_ fun canonical => False.elim (different canonical.symm)
        exact fun other inside => compatible other (mem_erase_ids.mp inside).1
      · rw [compatible_promoted_iff compatible chosen]
        constructor
        · intro follows _ _ promoted' chosen'
          cases chosen.symm.trans chosen'
          exact follows
        · exact fun leaves => leaves rfl succeeds promoted chosen
  · rw [same]
    refine iff_of_true compatible ?_
    cases call with
    | add => trivial
    | remove secrets user datasetId now =>
      intro _ succeeds
      change (removeDocumentDatasetMembershipForUser datasets secrets user store datasetId now).isOk = false at failed
      rw [failed] at succeeds
      cases succeeds

/-- What the calls do is exact in every run; the memberships stay compatible exactly as long as
every promotion is followed by the datasets that stay. -/
theorem memberships_compatible_iff (datasets : DatasetTable) (start : DocumentMemberships)
    (single : start.listDatasetIds = []) (calls : List MembershipCall) :
    (Always (afterCall datasets) (fun store => IsCompatible datasets store ∧ IsApart store) start calls ∧
      Guarded (afterCall datasets) (ChangesExactly datasets) start calls) ↔
        Guarded (afterCall datasets) (LeavesFollowers datasets) start calls := by
  have apart : IsApart start := by simp [IsApart, single]
  have initial : IsCompatible datasets start := by simp [IsCompatible, single]
  have kept : ∀ store call, IsApart store → IsApart (afterCall datasets store call) :=
    fun _ call known => isApart_afterCall known call
  have step : ∀ store call, IsApart store → IsCompatible datasets store →
      (IsCompatible datasets (afterCall datasets store call) ↔ LeavesFollowers datasets store call) :=
    fun _ call _ known => compatible_afterCall_iff known call
  have always : Always (afterCall datasets) (IsCompatible datasets) start calls ↔
      Guarded (afterCall datasets) (LeavesFollowers datasets) start calls :=
    always_iff_guarded (afterCall datasets) kept step apart initial calls
  have everywhere : ∀ earlier : List MembershipCall, IsApart (earlier.foldl (afterCall datasets) start) :=
    foldl_invariant (afterCall datasets) kept apart
  rw [← always]
  constructor
  · exact fun ⟨sound, _⟩ earlier shorter => (sound earlier shorter).1
  · intro sound
    exact ⟨fun earlier shorter => ⟨sound earlier shorter, everywhere earlier⟩,
      fun earlier call _ => changesExactly (everywhere earlier) call⟩

/-- Three datasets that secrets open: the first one two, the others one each. -/
def secretTable : DatasetTable where
  tenantId := ⟨"tenant"⟩
  find datasetId :=
    if datasetId = ⟨"first"⟩ then some (plainDataset "first" none .privateDataset [⟨"a"⟩, ⟨"b"⟩])
    else if datasetId = ⟨"second"⟩ then some (plainDataset "second" none .privateDataset [⟨"a"⟩])
    else if datasetId = ⟨"third"⟩ then some (plainDataset "third" none .privateDataset [⟨"b"⟩])
    else none
  identified found := by
    repeat' split at found
    all_goals cases found
    all_goals
      rename_i same
      exact same.symm

def secretStart : DocumentMemberships where
  document := plainDocument (plainDataset "first" none .privateDataset [⟨"a"⟩, ⟨"b"⟩])
  memberships := .empty

def secretCalls : List MembershipCall :=
  [.add [⟨"a"⟩, ⟨"b"⟩] none ⟨"second"⟩, .add [⟨"a"⟩, ⟨"b"⟩] none ⟨"third"⟩,
    .remove [⟨"a"⟩, ⟨"b"⟩] none ⟨"first"⟩ "2026-01-01T00:00:00Z"]

theorem memberships_compatible_secret :
    Always (afterCall secretTable) (fun store => IsCompatible secretTable store ∧ IsApart store) secretStart
      (secretCalls.take 2) := by
  refine ((memberships_compatible_iff secretTable secretStart rfl (secretCalls.take 2)).mpr ?_).1
  intro earlier call shorter
  have added : ∀ call ∈ secretCalls.take 2, LeavesFollowers secretTable (earlier.foldl (afterCall secretTable) secretStart) call := by
    simp [secretCalls, LeavesFollowers]
  exact added call (shorter.subset (by simp))

/-- The second dataset becomes canonical, and the third one stays although it asks for another secret. -/
theorem memberships_incompatible_secret :
    ¬ Always (afterCall secretTable) (fun store => IsCompatible secretTable store ∧ IsApart store) secretStart
      secretCalls := by
  intro always
  have compatible := (always secretCalls List.prefix_rfl).1
  have canonical : (secretCalls.foldl (afterCall secretTable) secretStart).document.datasetId = ⟨"second"⟩ := by
    decide
  have refused : documentScopeCanContributeToDataset (secretCalls.foldl (afterCall secretTable) secretStart).document
      (plainDataset "second" none .privateDataset [⟨"a"⟩]) (plainDataset "third" none .privateDataset [⟨"b"⟩]) = false := by
    decide
  obtain ⟨promoted, targetDataset, known, found, accepted⟩ := compatible ⟨"third"⟩ (by decide)
  rw [canonical] at known
  cases known
  cases found
  rw [refused] at accepted
  cases accepted

end Runs

end DataMax.DocumentSharing
