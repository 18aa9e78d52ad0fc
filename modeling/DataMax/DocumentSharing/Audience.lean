import DataMax.DocumentSharing.Scope

/-! Which documents a dataset shows to requests that do not see the canonical dataset. -/

namespace DataMax.DocumentSharing

open Domain Json

section Threads

variable {ownerUserId : Option UserId} {metadata : Map} {thread : String}

theorem localThreadScope_none_iff : localThreadScope ownerUserId metadata = .ok none ↔
    localOnly metadata = false ∨ ownerUserId.isSome := by
  rw [localThreadScope]
  by_cases free : localOnly metadata = false ∨ ownerUserId.isSome
  · have met : (!localOnly metadata || ownerUserId.isSome) = true := by simpa using free
    simp [met, free]
  · have unmet : ¬ (!localOnly metadata || ownerUserId.isSome) = true := by simpa using free
    rw [if_neg unmet]
    constructor
    · intro unconfined
      split at unconfined <;> cases unconfined
    · exact fun either => False.elim (free either)

/-- A confined object has no owner, and its stored thread id is the confining one up to blanks. -/
theorem localThreadScope_some (confined : localThreadScope ownerUserId metadata = .ok (some thread)) :
    ownerUserId = none ∧ localOnly metadata ∧ ∃ stored, storedThreadId metadata = some stored ∧ trim stored = thread := by
  rw [localThreadScope] at confined
  split at confined
  · cases confined
  · rename_i bound
    simp only [Bool.or_eq_true, Bool.not_eq_true', not_or, Bool.not_eq_false, Bool.not_eq_true,
      Option.isSome_eq_false_iff, Option.isNone_iff_eq_none] at bound
    refine ⟨bound.2, bound.1, ?_⟩
    split at confined
    · rename_i found named
      cases confined
      rw [Option.filter_eq_some_iff, Option.map_eq_some_iff] at named
      obtain ⟨⟨stored, read, rfl⟩, visible⟩ := named
      refine ⟨stored, ?_, rfl⟩
      rw [storedThreadId, read, Option.filter_some_pos]
      rw [decide_eq_true_eq] at visible ⊢
      rintro rfl
      exact visible rfl
    · cases confined

theorem isUnconfined_iff {scope : Except DocumentContributionScopeMismatch (Option String)} :
    isUnconfined scope ↔ scope = .ok none := by
  rcases scope with _ | (_ | _) <;> simp [isUnconfined]

end Threads

section Visibility

variable {dataset : Dataset} {secrets : List SecretBindingId} {user : Option UserId} {thread : Option String}

theorem visible_of_unrestricted (unrestricted : targetScopeIsUnrestrictedPublic dataset)
    (secrets : List SecretBindingId) (user : Option UserId) (thread : Option String) :
    datasetIsVisibleForRequest dataset secrets user thread := by
  simp only [targetScopeIsUnrestrictedPublic, Bool.and_eq_true, decide_eq_true_eq, isUnconfined_iff,
    datasetLocalThreadScope, localThreadScope_none_iff, Option.isNone_iff_eq_none] at unrestricted
  obtain ⟨⟨ownerless, shown⟩, free⟩ := unrestricted
  have everywhere : localOnly dataset.metadata = false := by simpa [ownerless] using free
  simp [datasetIsVisibleForRequest, datasetIsVisible, datasetLocalScopeIsVisible, ownerless, shown, everywhere]

/-- Who sees a dataset with an owner. -/
theorem visible_owned_iff {owner : UserId} (owned : dataset.ownerUserId = some owner) :
    datasetIsVisibleForRequest dataset secrets user thread ↔
      user = some owner ∨ ∃ secret ∈ dataset.defaultSecretBindingIds, secret ∈ secrets := by
  simp [datasetIsVisibleForRequest, datasetIsVisible, datasetLocalScopeIsVisible, datasetIsVisibleByLocalThreadScope, owned,
    @eq_comm _ (some owner)]

/-- Who sees a dataset that is confined to a thread. -/
theorem visible_confined_iff (confined : datasetLocalThreadScope dataset = .ok (some name)) :
    datasetIsVisibleForRequest dataset secrets user thread ↔ thread = storedThreadId dataset.metadata := by
  obtain ⟨ownerless, bound, stored, kept, _⟩ := localThreadScope_some confined
  simp only [datasetIsVisibleForRequest, datasetIsVisible, datasetLocalScopeIsVisible, datasetIsVisibleByLocalThreadScope,
    ownerless, bound, kept]
  by_cases same : thread = some stored <;> simp [same, @eq_comm _ (some stored)]

/-- Who sees a dataset without owner and thread that is not public. -/
theorem visible_secret_iff (ownerless : dataset.ownerUserId = none) (hidden : dataset.visibility ≠ .publicDataset)
    (free : datasetLocalThreadScope dataset = .ok none) : datasetIsVisibleForRequest dataset secrets user thread ↔
      ∃ secret ∈ dataset.defaultSecretBindingIds, secret ∈ secrets := by
  have everywhere : localOnly dataset.metadata = false := by
    simpa [ownerless] using localThreadScope_none_iff.mp free
  simp [datasetIsVisibleForRequest, datasetIsVisible, datasetLocalScopeIsVisible, datasetIsVisibleByLocalThreadScope,
    ownerless, hidden, everywhere]

/-- What is seen with some secrets and not without them is seen through one of them. -/
theorem seen_through_secret (seen : datasetIsVisibleForRequest dataset secrets user thread)
    (unseen : datasetIsVisibleForRequest dataset [] user thread = false) :
    ∃ secret ∈ dataset.defaultSecretBindingIds, secret ∈ secrets := by
  by_contra none
  have closed : dataset.defaultSecretBindingIds.any (secrets.contains ·) = false := by
    rw [Bool.eq_false_iff]
    intro found
    exact none (by simpa using found)
  have without : dataset.defaultSecretBindingIds.any (([] : List SecretBindingId).contains ·) = false := by simp
  rw [datasetIsVisibleForRequest, datasetIsVisible, closed, ← without] at seen
  rw [datasetIsVisibleForRequest, datasetIsVisible, seen] at unseen
  cases unseen

end Visibility

section Audience

variable {document : Document} {canonicalDataset targetDataset : Dataset} {secrets : List SecretBindingId}
  {user : Option UserId} {thread : Option String}

/-- Every request that gets the document through the target could see its canonical dataset,
and holds a secret of the document if it sees the target through a secret only. -/
def KeepsAudience (document : Document) (canonicalDataset targetDataset : Dataset) : Prop :=
  ∀ secrets user thread, datasetIsVisibleForRequest targetDataset secrets user thread →
    ownerUserIdIsVisible document.ownerUserId user →
      datasetIsVisibleForRequest canonicalDataset secrets user thread ∧
        (document.secretBindingIds ≠ [] → datasetIsVisibleForRequest targetDataset [] user thread = false →
          ∃ secret ∈ document.secretBindingIds, secret ∈ secrets)

/-- Another way in: a secret of the target that the public dataset of an owner does not know. -/
def AdmitsSecret (document : Document) (canonicalDataset targetDataset : Dataset) : Prop :=
  document.ownerUserId = none ∧ canonicalDataset.ownerUserId.isSome ∧
    canonicalDataset.visibility = .publicDataset ∧
      ¬ targetDataset.defaultSecretBindingIds ⊆ canonicalDataset.defaultSecretBindingIds

/-- Another way in: the document's own thread, where the canonical dataset asks for a secret. -/
def AdmitsThread (document : Document) (canonicalDataset : Dataset) : Prop :=
  canonicalDataset.ownerUserId = none ∧ canonicalDataset.visibility ≠ .publicDataset ∧
    datasetLocalThreadScope canonicalDataset = .ok none ∧ documentLocalThreadScope document ≠ .ok none

/-- Another way in: the same thread, stored with other blanks around it. -/
def AdmitsSpelling (canonicalDataset targetDataset : Dataset) : Prop :=
  datasetLocalThreadScope canonicalDataset ≠ .ok none ∧
    storedThreadId canonicalDataset.metadata ≠ storedThreadId targetDataset.metadata

theorem CanContribute.target_confined (checked : CanContribute document canonicalDataset targetDataset)
    {name : String} (effective : documentLocalThreadScope document = .ok (some name) ∨
      documentLocalThreadScope document = .ok none ∧ datasetLocalThreadScope canonicalDataset = .ok (some name)) :
    datasetLocalThreadScope targetDataset = .ok (some name) := by
  have fits := checked.localThread
  rw [localThreadMismatch] at fits
  split at fits
  · rename_i source own target sourceScope ownScope targetScope
    rw [targetScope]
    split at fits
    · cases fits
    · rcases effective with own' | ⟨free, bound⟩
      · rw [ownScope] at own'
        cases own'
        simpa using fits
      · rw [ownScope] at free
        rw [sourceScope] at bound
        cases free
        cases bound
        simpa using fits
  · cases fits

/-- Where neither the document nor its dataset has a thread, the target has none either. -/
theorem CanContribute.target_free (checked : CanContribute document canonicalDataset targetDataset)
    (own : documentLocalThreadScope document = .ok none)
    (source : datasetLocalThreadScope canonicalDataset = .ok none)
    (restricted : sourceScopeIsUnrestrictedPublic document canonicalDataset = false) :
    datasetLocalThreadScope targetDataset = .ok none := by
  have fits := checked.localThread
  rw [localThreadMismatch, own, source] at fits
  split at fits
  · rename_i first second target sourceScope ownScope targetScope
    cases sourceScope
    cases ownScope
    rw [targetScope]
    simpa [restricted] using fits
  · cases fits

theorem CanContribute.owned_document (checked : CanContribute document canonicalDataset targetDataset)
    {owner : UserId} (owned : document.ownerUserId = some owner) :
    (canonicalDataset.ownerUserId = some owner ∨ targetScopeIsUnrestrictedPublic canonicalDataset) ∧
      targetDataset.ownerUserId = some owner ∧ targetDataset.defaultSecretBindingIds = [] := by
  have fits := checked.owner
  rw [ownerScopeMismatch, owned] at fits
  simp only [Bool.or_eq_false_iff, Bool.not_eq_false', decide_eq_false_iff_not, ne_eq, not_not,
    List.isEmpty_iff] at fits
  obtain ⟨⟨allowed, target⟩, secretless⟩ := fits
  refine ⟨?_, target, secretless⟩
  simpa [targetScopeIsUnrestrictedPublic, and_assoc] using allowed

theorem CanContribute.owned_source (checked : CanContribute document canonicalDataset targetDataset)
    {owner : UserId} (ownerless : document.ownerUserId = none) (owned : canonicalDataset.ownerUserId = some owner) :
    targetDataset.ownerUserId = some owner := by
  have fits := checked.owner
  rw [ownerScopeMismatch, ownerless, owned] at fits
  simpa using fits

theorem CanContribute.ownerless (checked : CanContribute document canonicalDataset targetDataset)
    (document' : document.ownerUserId = none) (source : canonicalDataset.ownerUserId = none)
    (hidden : canonicalDataset.visibility ≠ .publicDataset) : targetDataset.ownerUserId = none := by
  have fits := checked.owner
  rw [ownerScopeMismatch, document', source] at fits
  simpa [hidden] using fits

/-- Both scopes are readable, and two threads are one. -/
theorem CanContribute.scopes (checked : CanContribute document canonicalDataset targetDataset) :
    (∃ source, datasetLocalThreadScope canonicalDataset = .ok source) ∧
      (∃ own, documentLocalThreadScope document = .ok own) ∧
        ∀ {first second : String}, datasetLocalThreadScope canonicalDataset = .ok (some first) →
          documentLocalThreadScope document = .ok (some second) → first = second := by
  have fits := checked.localThread
  rw [localThreadMismatch] at fits
  split at fits
  · rename_i source own target sourceScope ownScope targetScope
    refine ⟨⟨source, sourceScope⟩, ⟨own, ownScope⟩, ?_⟩
    intro first second bound bound'
    rw [sourceScope] at bound
    rw [ownScope] at bound'
    cases bound
    cases bound'
    by_contra different
    simp [different] at fits
  · cases fits

/-- A dataset that is confined to a thread shows its documents in that thread only. -/
theorem CanContribute.target_of_confined (checked : CanContribute document canonicalDataset targetDataset)
    {name : String} (confined : datasetLocalThreadScope canonicalDataset = .ok (some name)) :
    document.ownerUserId = none ∧ datasetLocalThreadScope targetDataset = .ok (some name) := by
  obtain ⟨_, ⟨own, ownScope⟩, agree⟩ := checked.scopes
  constructor
  · cases owned : document.ownerUserId with
    | none => rfl
    | some owner =>
      obtain ⟨sourceless, _⟩ := localThreadScope_some confined
      rcases (checked.owned_document owned).1 with same | unrestricted
      · rw [sourceless] at same
        cases same
      · simp [targetScopeIsUnrestrictedPublic, confined, isUnconfined] at unrestricted
  · cases own with
    | none => exact checked.target_confined (.inr ⟨ownScope, confined⟩)
    | some other =>
      cases agree confined ownScope
      exact checked.target_confined (.inl ownScope)

theorem not_keeps_of_secret (checked : CanContribute document canonicalDataset targetDataset)
    (admits : AdmitsSecret document canonicalDataset targetDataset) :
    ¬ KeepsAudience document canonicalDataset targetDataset := by
  intro keeps
  obtain ⟨ownerless, owned, _, beyond⟩ := admits
  obtain ⟨owner, owned⟩ := Option.isSome_iff_exists.mp owned
  obtain ⟨secret, listed, unknown⟩ : ∃ secret ∈ targetDataset.defaultSecretBindingIds,
      secret ∉ canonicalDataset.defaultSecretBindingIds := by simpa [List.subset_def] using beyond
  have target := checked.owned_source ownerless owned
  have seen : datasetIsVisibleForRequest targetDataset [secret] none none :=
    (visible_owned_iff target).mpr (.inr ⟨secret, listed, List.mem_singleton_self secret⟩)
  have reached := (keeps [secret] none none seen (by simp [ownerUserIdIsVisible, ownerless])).1
  rcases (visible_owned_iff owned).mp reached with same | ⟨other, known, equal⟩
  · cases same
  · cases List.mem_singleton.mp equal
    exact unknown known

theorem not_keeps_of_thread (checked : CanContribute document canonicalDataset targetDataset)
    (admits : AdmitsThread document canonicalDataset) : ¬ KeepsAudience document canonicalDataset targetDataset := by
  intro keeps
  obtain ⟨ownerless, hidden, free, bound⟩ := admits
  obtain ⟨_, ⟨own, ownScope⟩, _⟩ := checked.scopes
  cases own with
  | none => exact bound ownScope
  | some name =>
    have passes : ownerUserIdIsVisible document.ownerUserId none := by
      simp [ownerUserIdIsVisible, (localThreadScope_some ownScope).1]
    have confined := checked.target_confined (.inl ownScope)
    have reached := (keeps [] none _ ((visible_confined_iff confined).mpr rfl) passes).1
    obtain ⟨secret, _, held⟩ := (visible_secret_iff ownerless hidden free).mp reached
    cases held

theorem not_keeps_of_spelling (checked : CanContribute document canonicalDataset targetDataset)
    (admits : AdmitsSpelling canonicalDataset targetDataset) :
    ¬ KeepsAudience document canonicalDataset targetDataset := by
  intro keeps
  obtain ⟨bound, different⟩ := admits
  obtain ⟨⟨source, sourceScope⟩, _, _⟩ := checked.scopes
  cases source with
  | none => exact bound sourceScope
  | some name =>
    obtain ⟨ownerless, confined⟩ := checked.target_of_confined sourceScope
    have passes : ownerUserIdIsVisible document.ownerUserId none := by simp [ownerUserIdIsVisible, ownerless]
    have reached := (keeps [] none _ ((visible_confined_iff confined).mpr rfl) passes).1
    exact different ((visible_confined_iff sourceScope).mp reached).symm

/-- What a request without the owner's rights sees of the target it sees of a dataset without owner. -/
theorem seen_ownerless (checked : CanContribute document canonicalDataset targetDataset)
    (ownerless : canonicalDataset.ownerUserId = none) (document' : document.ownerUserId = none)
    (thread' : ¬ AdmitsThread document canonicalDataset) (spelling : ¬ AdmitsSpelling canonicalDataset targetDataset)
    (seen : datasetIsVisibleForRequest targetDataset secrets user thread) :
    datasetIsVisibleForRequest canonicalDataset secrets user thread := by
  obtain ⟨⟨source, sourceScope⟩, ⟨own, ownScope⟩, _⟩ := checked.scopes
  cases source with
  | some name =>
    have confined := (checked.target_of_confined sourceScope).2
    have same : storedThreadId canonicalDataset.metadata = storedThreadId targetDataset.metadata := by
      by_contra different
      exact spelling ⟨by simp [sourceScope], different⟩
    rw [visible_confined_iff sourceScope, same]
    exact (visible_confined_iff confined).mp seen
  | none =>
    by_cases shown : canonicalDataset.visibility = .publicDataset
    · apply visible_of_unrestricted
      simp [targetScopeIsUnrestrictedPublic, ownerless, shown, sourceScope, isUnconfined]
    · have free : documentLocalThreadScope document = .ok none := by
        by_contra bound
        exact thread' ⟨ownerless, shown, sourceScope, bound⟩
      have restricted : sourceScopeIsUnrestrictedPublic document canonicalDataset = false := by
        simp [sourceScopeIsUnrestrictedPublic, targetScopeIsUnrestrictedPublic, shown]
      have target := checked.ownerless document' ownerless shown
      have targetFree := checked.target_free free sourceScope restricted
      have hidden : targetDataset.visibility ≠ .publicDataset := by
        intro open'
        have unrestricted : targetScopeIsUnrestrictedPublic targetDataset := by
          simp [targetScopeIsUnrestrictedPublic, target, open', targetFree, isUnconfined]
        have widened := checked.unrestricted unrestricted
        rw [restricted] at widened
        cases widened
      obtain ⟨secret, listed, held⟩ := (visible_secret_iff target hidden targetFree).mp seen
      exact (visible_secret_iff ownerless shown sourceScope).mpr ⟨secret, checked.canonicalSecrets shown listed, held⟩

theorem seen_through_document_secret (checked : CanContribute document canonicalDataset targetDataset)
    (seen : datasetIsVisibleForRequest targetDataset secrets user thread) (bound : document.secretBindingIds ≠ [])
    (unseen : datasetIsVisibleForRequest targetDataset [] user thread = false) :
    ∃ secret ∈ document.secretBindingIds, secret ∈ secrets := by
  obtain ⟨secret, listed, held⟩ := seen_through_secret seen unseen
  exact ⟨secret, checked.documentSecrets bound listed, held⟩

/-- Sharing keeps the audience exactly when the target has none of the three other ways in. -/
theorem keepsAudience_iff (accepted : documentScopeCanContributeToDataset document canonicalDataset targetDataset) :
    KeepsAudience document canonicalDataset targetDataset ↔
      ¬ AdmitsSecret document canonicalDataset targetDataset ∧ ¬ AdmitsThread document canonicalDataset ∧
        ¬ AdmitsSpelling canonicalDataset targetDataset := by
  have checked := canContribute_iff.mp accepted
  constructor
  · intro keeps
    exact ⟨fun admits => not_keeps_of_secret checked admits keeps, fun admits => not_keeps_of_thread checked admits keeps,
      fun admits => not_keeps_of_spelling checked admits keeps⟩
  · intro closed secrets user thread seen passes
    obtain ⟨secret, thread', spelling⟩ := closed
    refine ⟨?_, seen_through_document_secret checked seen⟩
    cases owned : document.ownerUserId with
    | some owner =>
      have current : user = some owner := by simpa [ownerUserIdIsVisible, owned, eq_comm] using passes
      rcases (checked.owned_document owned).1 with same | unrestricted
      · exact (visible_owned_iff same).mpr (.inl current)
      · exact visible_of_unrestricted unrestricted _ _ _
    | none =>
      cases source : canonicalDataset.ownerUserId with
      | none => exact seen_ownerless checked source owned thread' spelling seen
      | some owner =>
        have within : targetDataset.defaultSecretBindingIds ⊆ canonicalDataset.defaultSecretBindingIds := by
          by_cases shown : canonicalDataset.visibility = .publicDataset
          · by_contra beyond
            exact secret ⟨owned, by simp [source], shown, beyond⟩
          · exact checked.canonicalSecrets shown
        rw [visible_owned_iff source]
        rcases (visible_owned_iff (checked.owned_source owned source)).mp seen with same | ⟨other, listed, held⟩
        · exact .inl same
        · exact .inr ⟨other, within listed, held⟩

def plainDataset (id : String) (ownerUserId : Option UserId) (visibility : DatasetVisibility)
    (defaultSecretBindingIds : List SecretBindingId) : Dataset where
  id := ⟨id⟩
  tenantId := ⟨"tenant"⟩
  ownerUserId
  visibility
  defaultSecretBindingIds
  metadata := .empty

def plainDocument (dataset : Dataset) : Document where
  id := ⟨"document"⟩
  tenantId := ⟨"tenant"⟩
  datasetId := dataset.id
  ownerUserId := none
  secretBindingIds := []
  metadata := .empty

theorem keepsAudience_public :
    KeepsAudience (plainDocument (plainDataset "first" none .publicDataset []))
      (plainDataset "first" none .publicDataset []) (plainDataset "second" none .publicDataset []) := by
  apply (keepsAudience_iff (by decide)).mpr
  refine ⟨?_, ?_, ?_⟩
  · rintro ⟨_, owned, _⟩
    cases owned
  · rintro ⟨_, hidden, _⟩
    exact hidden rfl
  · rintro ⟨bound, _⟩
    exact bound rfl

/-- The holder of a secret of the second dataset gets a document of the first one. -/
theorem keepsAudience_owned_public : documentScopeCanContributeToDataset
      (plainDocument (plainDataset "first" (some ⟨"owner"⟩) .publicDataset []))
      (plainDataset "first" (some ⟨"owner"⟩) .publicDataset [])
      (plainDataset "second" (some ⟨"owner"⟩) .privateDataset [⟨"secret"⟩]) ∧
    ¬ KeepsAudience (plainDocument (plainDataset "first" (some ⟨"owner"⟩) .publicDataset []))
      (plainDataset "first" (some ⟨"owner"⟩) .publicDataset [])
      (plainDataset "second" (some ⟨"owner"⟩) .privateDataset [⟨"secret"⟩]) := by
  refine ⟨by decide, ?_⟩
  intro keeps
  have reached := (keeps [⟨"secret"⟩] none none (by decide) (by decide)).1
  revert reached
  decide

end Audience

end DataMax.DocumentSharing
