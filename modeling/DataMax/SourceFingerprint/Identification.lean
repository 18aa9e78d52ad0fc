import DataMax.SourceFingerprint.Lines
import Mathlib.Data.Set.Image

/-! What the fingerprint identifies: the sources with every list taken as a set,
except where sets of versions are spelled alike. -/

namespace DataMax.SourceFingerprint

open Domain Library

section Forms

structure ScopeForm where
  tenantId : UuidBytes
  datasetId : UuidBytes
  ownerUserId : Option UuidBytes
  visibility : String
  defaultSecretBindingIds : Set UuidBytes
  updatedAt : DateTime

structure DocumentForm (Versions : Type) where
  documentId : UuidBytes
  sourceDatasetId : UuidBytes
  ownerUserId : Option UuidBytes
  secretBindingIds : Set UuidBytes
  updatedAt : DateTime
  parseVersions : Versions
  factSnapshotVersions : Versions

structure AssetForm (Versions : Type) where
  assetId : UuidBytes
  updatedAt : DateTime
  profileVersions : Versions

structure MembershipForm where
  documentId : UuidBytes
  membershipKind : String
  source : String
  expiresAt : Option DateTime
  createdAt : DateTime

structure IdentityForm where
  sourceKind : String
  sourceSystemKey : String
  sourceSchemaKey : String
  sourceObjectKey : String

/-- The sources behind a model, with one representation for the versions of a
document or an asset and one for the snapshot of the facts. -/
structure InputForm (Versions Snapshot : Type) where
  datasetScope : Option ScopeForm
  documents : Set (DocumentForm Versions)
  assets : Set (AssetForm Versions)
  memberships : Set MembershipForm
  sourceIdentities : Set IdentityForm
  datasetFactSnapshotVersion : Snapshot
  dictionaryVersions : Set String

def scopeForm (scope : SemanticDatasetScopeVersion) : ScopeForm where
  tenantId := scope.tenantId
  datasetId := scope.datasetId
  ownerUserId := scope.ownerUserId
  visibility := normalizedIdentityPart scope.visibility
  defaultSecretBindingIds := {binding | binding ∈ scope.defaultSecretBindingIds}
  updatedAt := scope.updatedAt

def membershipForm (membership : SemanticDatasetMembershipVersion) : MembershipForm where
  documentId := membership.documentId
  membershipKind := normalizedIdentityPart membership.membershipKind
  source := trim membership.source
  expiresAt := membership.expiresAt
  createdAt := membership.createdAt

def identityForm (identity : SemanticSourceIdentityVersion) : IdentityForm where
  sourceKind := normalizedIdentityPart identity.sourceKind
  sourceSystemKey := normalizedIdentityPart identity.sourceSystemKey
  sourceSchemaKey := normalizedIdentityPart identity.sourceSchemaKey
  sourceObjectKey := normalizedIdentityPart identity.sourceObjectKey

/-- The versions as a set, trimmed and without blank ones. -/
def versionSet (values : List String) : Set String := {version | version ≠ "" ∧ ∃ value ∈ values, trim value = version}

/-- The versions in order, with commas between them. -/
def versionText (values : List String) : String := ",".intercalate (normalizedVersions values)

section

variable {Versions Snapshot : Type} (versions : List String → Versions) (snapshot : Option String → Snapshot)

def documentForm (document : SemanticDocumentSourceVersion) : DocumentForm Versions where
  documentId := document.documentId
  sourceDatasetId := document.sourceDatasetId
  ownerUserId := document.ownerUserId
  secretBindingIds := {binding | binding ∈ document.secretBindingIds}
  updatedAt := document.updatedAt
  parseVersions := versions document.parseVersions
  factSnapshotVersions := versions document.factSnapshotVersions

def assetForm (asset : SemanticAssetSourceVersion) : AssetForm Versions where
  assetId := asset.assetId
  updatedAt := asset.updatedAt
  profileVersions := versions asset.profileVersions

def inputForm (input : SemanticSourceFingerprintInput) : InputForm Versions Snapshot where
  datasetScope := input.datasetScope.map scopeForm
  documents := documentForm versions '' {document | document ∈ input.documents}
  assets := assetForm versions '' {asset | asset ∈ input.assets}
  memberships := membershipForm '' {membership | membership ∈ input.memberships}
  sourceIdentities := identityForm '' {identity | identity ∈ input.sourceIdentities}
  datasetFactSnapshotVersion := snapshot input.datasetFactSnapshotVersion
  dictionaryVersions := versionSet input.dictionaryVersions

end

/-- The intended normalisation. -/
def normalForm (input : SemanticSourceFingerprintInput) : InputForm (Set String) (Option String) :=
  inputForm versionSet (Option.map trim) input

/-- The normalisation as the lines spell it: a set of versions is one text, and
an absent snapshot is a word. -/
def spelledForm (input : SemanticSourceFingerprintInput) : InputForm String String :=
  inputForm versionText snapshotWord input

end Forms

section Texts

theorem mem_normalizedVersions {values : List String} {version : String} :
    version ∈ normalizedVersions values ↔ version ∈ versionSet values := by
  rw [normalizedVersions, mem_distinctBy_of_injective Function.injective_id]
  simp [versionSet, and_comm]

theorem normalizedVersions_eq {values others : List String} :
    normalizedVersions values = normalizedVersions others ↔ versionSet values = versionSet others := by
  constructor
  · intro same
    ext version
    rw [← mem_normalizedVersions, same, mem_normalizedVersions]
  · intro same
    have listed : ∀ {versions : List String} {version : String},
        version ∈ (versions.map trim).filter (· ≠ "") ↔ version ∈ versionSet versions := by
      intro versions version
      simp [versionSet, and_comm]
    apply distinctBy_congr Function.injective_id
    intro version
    rw [listed, same, listed]

/-- The parts can be told apart in the joined text. -/
def Separable (parts : List String) : Prop := ∀ part ∈ parts, part ≠ "" ∧ ',' ∉ part.toList

theorem intercalate_eq {parts others : List String} (separable : Separable parts)
    (otherSeparable : Separable others) (same : ",".intercalate parts = ",".intercalate others) :
    parts = others := by
  have filled : ∀ {texts : List String}, Separable texts → ∀ chars ∈ texts.map String.toList,
      chars ≠ [] ∧ ',' ∉ chars := by
    intro texts apart chars inside
    obtain ⟨text, listed, rfl⟩ := List.mem_map.mp inside
    exact ⟨by simpa using (apart text listed).1, (apart text listed).2⟩
  have texts := congrArg String.toList same
  rw [String.toList_intercalate, String.toList_intercalate] at texts
  exact List.map_injective_iff.mpr (fun _ _ => String.toList_inj.mp)
    (intercalate_injective (filled separable) (filled otherSeparable) texts)

theorem text_ne_none (uuid : UuidBytes) : uuid.text ≠ "none" := by
  intro same
  have letter : 'n' ∉ uuid.text.toList := UuidBytes.not_mem_text (by decide) (by decide) uuid
  simp [same] at letter

/-- A word that stands for the absent value and for no other. -/
theorem getD_injective {Item : Type} {render : Item → String} {word : String} (injective : Function.Injective render)
    (distinct : ∀ item, render item ≠ word) : Function.Injective fun value : Option Item => (value.map render).getD word := by
  intro first second same
  cases first with
  | none =>
    cases second with
    | none => rfl
    | some item => exact False.elim (distinct item same.symm)
  | some item =>
    cases second with
    | none => exact False.elim (distinct item same)
    | some other => exact congrArg some (injective same)

theorem optionalUserId_injective : Function.Injective optionalUserId :=
  getD_injective UuidBytes.text_injective text_ne_none

theorem mem_normalizedSecretBindingIds {values : List UuidBytes} {text : String} :
    text ∈ normalizedSecretBindingIds values ↔ ∃ value ∈ values, value.text = text := by
  rw [normalizedSecretBindingIds, mem_distinctBy_of_injective Function.injective_id, List.mem_map]

theorem secretText_eq {values others : List UuidBytes} :
    ",".intercalate (normalizedSecretBindingIds values) = ",".intercalate (normalizedSecretBindingIds others) ↔
      {value | value ∈ values} = {value | value ∈ others} := by
  have separable : ∀ values, Separable (normalizedSecretBindingIds values) := by
    intro values text inside
    rw [mem_normalizedSecretBindingIds] at inside
    obtain ⟨value, _, rfl⟩ := inside
    exact ⟨value.text_ne_empty, UuidBytes.not_mem_text (by decide) (by decide) value⟩
  have listed : ∀ {values : List UuidBytes} {value : UuidBytes},
      value.text ∈ normalizedSecretBindingIds values ↔ value ∈ values := by
    intro values value
    rw [mem_normalizedSecretBindingIds]
    exact ⟨fun ⟨other, inside, same⟩ => UuidBytes.text_injective same ▸ inside, fun inside => ⟨value, inside, rfl⟩⟩
  constructor
  · intro same
    have texts := intercalate_eq (separable values) (separable others) same
    ext value
    rw [Set.mem_ofPred_eq, Set.mem_ofPred_eq, ← listed, texts, listed]
  · intro same
    have texts : normalizedSecretBindingIds values = normalizedSecretBindingIds others := by
      apply distinctBy_congr Function.injective_id
      intro text
      have members : ∀ value, value ∈ values ↔ value ∈ others := fun value => Set.ext_iff.mp same value
      simp [members]
    rw [texts]

end Texts

section Parts

variable {rfc3339 : DateTime → String}

section

variable (instants : Function.Injective rfc3339)

include instants

theorem scopeParts_eq {first second : SemanticDatasetScopeVersion} :
    scopeParts rfc3339 first = scopeParts rfc3339 second ↔ scopeForm first = scopeForm second := by
  have users := optionalUserId_injective
  simp only [scopeParts, scopeForm, List.cons.injEq, and_true, ScopeForm.mk.injEq, secretText_eq,
    UuidBytes.text_injective.eq_iff, users.eq_iff, instants.eq_iff]

theorem documentParts_eq {first second : SemanticDocumentSourceVersion} :
    documentParts rfc3339 first = documentParts rfc3339 second ↔
      documentForm versionText first = documentForm versionText second := by
  have users := optionalUserId_injective
  simp only [documentParts, documentForm, versionText, List.cons.injEq, and_true, DocumentForm.mk.injEq,
    secretText_eq, UuidBytes.text_injective.eq_iff, users.eq_iff, instants.eq_iff]

theorem assetParts_eq {first second : SemanticAssetSourceVersion} :
    assetParts rfc3339 first = assetParts rfc3339 second ↔
      assetForm versionText first = assetForm versionText second := by
  simp only [assetParts, assetForm, versionText, List.cons.injEq, and_true, AssetForm.mk.injEq,
    UuidBytes.text_injective.eq_iff, instants.eq_iff]

theorem membershipParts_eq (named : ∀ instant, rfc3339 instant ≠ "none")
    {first second : SemanticDatasetMembershipVersion} :
    membershipParts rfc3339 first = membershipParts rfc3339 second ↔
      membershipForm first = membershipForm second := by
  simp only [membershipParts, membershipForm, List.cons.injEq, and_true, MembershipForm.mk.injEq,
    UuidBytes.text_injective.eq_iff, instants.eq_iff, (getD_injective instants named).eq_iff]

end

theorem identityParts_eq {first second : SemanticSourceIdentityVersion} :
    identityParts first = identityParts second ↔ identityForm first = identityForm second := by
  simp only [identityParts, identityForm, List.cons.injEq, and_true, IdentityForm.mk.injEq]

/-- Where items with the same parts have the same form, equal sets of parts are
equal sets of forms. -/
theorem image_eq_of_kernel {Item Part Form : Type} {parts : Item → Part} {form : Item → Form} {items others : Set Item}
    {fits : Item → Prop} (itemsFit : ∀ item ∈ items, fits item) (othersFit : ∀ item ∈ others, fits item)
    (kernel : ∀ first second, fits first → fits second → parts first = parts second → form first = form second)
    (same : parts '' items = parts '' others) : form '' items = form '' others := by
  have within : ∀ {items others : Set Item}, (∀ item ∈ items, fits item) → (∀ item ∈ others, fits item) →
      parts '' items = parts '' others → form '' items ⊆ form '' others := by
    rintro items others itemsFit othersFit equal _ ⟨item, inside, rfl⟩
    obtain ⟨other, listed, alike⟩ := equal ▸ Set.mem_image_of_mem parts inside
    exact ⟨other, listed, kernel other item (othersFit other listed) (itemsFit item inside) alike⟩
  exact Set.Subset.antisymm (within itemsFit othersFit same) (within othersFit itemsFit same.symm)

theorem image_eq_iff {Item Part Form : Type} {parts : Item → Part} {form : Item → Form} {items others : Set Item}
    (kernel : ∀ first second, parts first = parts second ↔ form first = form second) :
    parts '' items = parts '' others ↔ form '' items = form '' others := by
  constructor
  · exact image_eq_of_kernel (fun _ _ => trivial) (fun _ _ => trivial) fun first second _ _ => (kernel first second).mp
  · exact image_eq_of_kernel (fun _ _ => trivial) (fun _ _ => trivial) fun first second _ _ => (kernel first second).mpr

end Parts

section Components

variable {rfc3339 : DateTime → String} {sha256 : String → List UInt8}
  {first second input : SemanticSourceFingerprintInput} {kind : String} {parts : List String}

/-- The components of one kind come from one list of the input. -/
theorem mem_components : (kind, parts) ∈ components rfc3339 input ↔
    "dataset_scope" = kind ∧ parts ∈ scopeParts rfc3339 '' {scope | input.datasetScope = some scope} ∨
    "document" = kind ∧ parts ∈ documentParts rfc3339 '' {document | document ∈ input.documents} ∨
    "asset" = kind ∧ parts ∈ assetParts rfc3339 '' {asset | asset ∈ input.assets} ∨
    "membership" = kind ∧ parts ∈ membershipParts rfc3339 '' {membership | membership ∈ input.memberships} ∨
    "source_identity" = kind ∧ parts ∈ identityParts '' {identity | identity ∈ input.sourceIdentities} ∨
    "dataset_fact_snapshot" = kind ∧ parts = [snapshotWord input.datasetFactSnapshotVersion] ∨
    "semantic_dictionary" = kind ∧ ∃ version ∈ versionSet input.dictionaryVersions, [version] = parts := by
  have outside : ∀ {Item : Type} {listed fits : Item → Prop} {name : String},
      (∃ item, listed item ∧ name = kind ∧ fits item) ↔ name = kind ∧ ∃ item, listed item ∧ fits item := by
    intro Item listed fits name
    rw [← exists_and_left]
    exact exists_congr fun _ => and_left_comm
  simp only [components, List.mem_append, List.mem_map, List.mem_singleton, Prod.mk.injEq, Option.mem_toList,
    mem_normalizedVersions, Set.mem_image, Set.mem_ofPred_eq, or_assoc, outside]
  rw [@eq_comm _ kind]

theorem image_some_eq {Item Form : Type} {form : Item → Form} {value other : Option Item} :
    form '' {item | value = some item} = form '' {item | other = some item} ↔ value.map form = other.map form := by
  cases value <;> cases other <;> simp

/-- The sets of components agree when the spelled forms do. -/
theorem components_eq (instants : Function.Injective rfc3339) (named : ∀ instant, rfc3339 instant ≠ "none") :
    (∀ component, component ∈ components rfc3339 first ↔ component ∈ components rfc3339 second) ↔
      spelledForm first = spelledForm second := by
  simp only [spelledForm, inputForm, InputForm.mk.injEq]
  rw [← image_some_eq, ← image_eq_iff fun _ _ => scopeParts_eq instants,
    ← image_eq_iff fun _ _ => documentParts_eq instants, ← image_eq_iff fun _ _ => assetParts_eq instants,
    ← image_eq_iff fun _ _ => membershipParts_eq instants named, ← image_eq_iff fun _ _ => identityParts_eq]
  constructor
  · intro same
    refine ⟨?_, ?_, ?_, ?_, ?_, ?_, ?_⟩
    · ext parts
      simpa [mem_components] using same ("dataset_scope", parts)
    · ext parts
      simpa [mem_components] using same ("document", parts)
    · ext parts
      simpa [mem_components] using same ("asset", parts)
    · ext parts
      simpa [mem_components] using same ("membership", parts)
    · ext parts
      simpa [mem_components] using same ("source_identity", parts)
    · simpa [mem_components] using same ("dataset_fact_snapshot", [snapshotWord first.datasetFactSnapshotVersion])
    · ext version
      simpa [mem_components] using same ("semantic_dictionary", [version])
  · rintro ⟨scope, documents, assets, memberships, identities, snapshot, dictionary⟩ ⟨kind, parts⟩
    rw [mem_components, mem_components, scope, documents, assets, memberships, identities, snapshot, dictionary]

end Components

section Identification

variable {rfc3339 : DateTime → String} {sha256 : String → List UInt8}
  {first second input : SemanticSourceFingerprintInput}

/-- Inputs with the same normal form are spelled alike. -/
theorem spelledForm_eq (same : normalForm first = normalForm second) : spelledForm first = spelledForm second := by
  have text : ∀ values others, versionSet values = versionSet others → versionText values = versionText others :=
    fun values others equal => congrArg (",".intercalate ·) (normalizedVersions_eq.mpr equal)
  have word : ∀ version, snapshotWord version = (version.map trim).getD (trim "none") := by
    intro version
    cases version <;> rfl
  simp only [normalForm, spelledForm, inputForm, InputForm.mk.injEq] at same ⊢
  obtain ⟨scope, documents, assets, memberships, identities, snapshot, dictionary⟩ := same
  refine ⟨scope, ?_, ?_, memberships, identities, ?_, dictionary⟩
  · refine image_eq_of_kernel (fun _ _ => trivial) (fun _ _ => trivial) ?_ documents
    intro document other _ _ equal
    simp only [documentForm, DocumentForm.mk.injEq] at equal ⊢
    exact ⟨equal.1, equal.2.1, equal.2.2.1, equal.2.2.2.1, equal.2.2.2.2.1, text _ _ equal.2.2.2.2.2.1,
      text _ _ equal.2.2.2.2.2.2⟩
  · refine image_eq_of_kernel (fun _ _ => trivial) (fun _ _ => trivial) ?_ assets
    intro asset other _ _ equal
    simp only [assetForm, AssetForm.mk.injEq] at equal ⊢
    exact ⟨equal.1, equal.2.1, text _ _ equal.2.2⟩
  · rw [word, word, snapshot]

/-- No version contains a comma and the snapshot version is not the word that
stands for none. -/
structure Plain (input : SemanticSourceFingerprintInput) : Prop where
  documents : ∀ document ∈ input.documents,
    ∀ version ∈ document.parseVersions ++ document.factSnapshotVersions, ',' ∉ version.toList
  assets : ∀ asset ∈ input.assets, ∀ version ∈ asset.profileVersions, ',' ∉ version.toList
  snapshot : input.datasetFactSnapshotVersion.map trim ≠ some "none"

theorem versionSet_eq {values others : List String} (plain : ∀ version ∈ values, ',' ∉ version.toList)
    (othersPlain : ∀ version ∈ others, ',' ∉ version.toList) (same : versionText values = versionText others) :
    versionSet values = versionSet others := by
  have separable : ∀ {values : List String}, (∀ version ∈ values, ',' ∉ version.toList) →
      Separable (normalizedVersions values) := by
    intro values plain version inside
    obtain ⟨filled, value, listed, rfl⟩ := mem_normalizedVersions.mp inside
    exact ⟨filled, fun comma => plain value listed (mem_trim comma)⟩
  exact normalizedVersions_eq.mp (intercalate_eq (separable plain) (separable othersPlain) same)

theorem normalForm_eq_of_plain (plain : Plain first) (otherPlain : Plain second)
    (same : spelledForm first = spelledForm second) : normalForm first = normalForm second := by
  simp only [normalForm, spelledForm, inputForm, InputForm.mk.injEq] at same ⊢
  obtain ⟨scope, documents, assets, memberships, identities, snapshot, dictionary⟩ := same
  refine ⟨scope, ?_, ?_, memberships, identities, ?_, dictionary⟩
  · refine image_eq_of_kernel plain.documents otherPlain.documents ?_ documents
    intro document other versions otherVersions equal
    simp only [documentForm, DocumentForm.mk.injEq] at equal ⊢
    simp only [List.forall_mem_append] at versions otherVersions
    exact ⟨equal.1, equal.2.1, equal.2.2.1, equal.2.2.2.1, equal.2.2.2.2.1,
      versionSet_eq versions.1 otherVersions.1 equal.2.2.2.2.2.1,
      versionSet_eq versions.2 otherVersions.2 equal.2.2.2.2.2.2⟩
  · refine image_eq_of_kernel plain.assets otherPlain.assets ?_ assets
    intro asset other versions otherVersions equal
    simp only [assetForm, AssetForm.mk.injEq] at equal ⊢
    exact ⟨equal.1, equal.2.1, versionSet_eq versions otherVersions equal.2.2⟩
  · have named := plain.snapshot
    have otherNamed := otherPlain.snapshot
    have word : trim "none" = "none" := by decide
    cases version : first.datasetFactSnapshotVersion <;> cases other : second.datasetFactSnapshotVersion <;>
      simp_all [snapshotWord]

/-- Whatever the two inputs spell alike agrees: no set of versions is spelled
like a different one, and no absent snapshot like a present one. -/
def SpelledApart (first second : SemanticSourceFingerprintInput) : Prop :=
  spelledForm first = spelledForm second → normalForm first = normalForm second

/-- The fingerprint identifies the normalised input exactly where inputs are
spelled apart, as those with plain versions are. -/
theorem sourceFingerprint_identifies_iff (collisionFree : Function.Injective sha256)
    (instants : Function.Injective rfc3339) (named : ∀ instant, rfc3339 instant ≠ "none")
    (first second : SemanticSourceFingerprintInput) :
    ((sourceFingerprint rfc3339 sha256 first = sourceFingerprint rfc3339 sha256 second ↔
        normalForm first = normalForm second) ↔ SpelledApart first second) ∧
      (Plain first → Plain second → SpelledApart first second) := by
  refine ⟨?_, normalForm_eq_of_plain⟩
  rw [sourceFingerprint_eq collisionFree, components_eq instants named]
  exact ⟨Iff.mp, fun apart => ⟨apart, spelledForm_eq⟩⟩

end Identification

section Conflation

/-- The first instant of 1970 and marks for the distance from it. -/
def markedInstant (instant : DateTime) : String :=
  .append "1970-01-01T00:00:00.000000000Z" (.ofList (List.replicate instant.natAbs (if instant < 0 then '-' else '+')))

theorem markedInstant_toList (instant : DateTime) : (markedInstant instant).toList =
    "1970-01-01T00:00:00.000000000Z".toList ++ List.replicate instant.natAbs (if instant < 0 then '-' else '+') :=
  String.toList_append.trans (congrArg _ String.toList_ofList)

theorem markedInstant_injective : Function.Injective markedInstant := by
  intro (first : Int) (second : Int) same
  have marks : List.replicate first.natAbs (if first < 0 then '-' else '+') =
      List.replicate second.natAbs (if second < 0 then '-' else '+') := by
    apply List.append_cancel_left
    rw [← markedInstant_toList, same, markedInstant_toList]
  change @Eq Int first second
  obtain ⟨distance, zero | sign⟩ := List.replicate_inj.mp marks
  · omega
  · by_cases negative : first < 0 <;> by_cases otherNegative : second < 0
    · omega
    · simp [negative, otherNegative] at sign
    · simp [negative, otherNegative] at sign
    · omega

theorem markedInstant_named (instant : DateTime) : markedInstant instant ≠ "none" := by
  intro same
  have first := congrArg (fun text : String => text.toList.head?) same
  rw [markedInstant_toList] at first
  cases first

/-- An asset with the given versions of its profile and nothing else. -/
def profiledAsset (profileVersions : List String) : SemanticSourceFingerprintInput where
  datasetScope := none
  documents := []
  assets := [⟨⟨List.replicate 16 0, rfl⟩, 0, profileVersions⟩]
  memberships := []
  sourceIdentities := []
  datasetFactSnapshotVersion := some "1"
  dictionaryVersions := []

theorem profiledAsset_plain {versions : List String} (plain : ∀ version ∈ versions, ',' ∉ version.toList) :
    Plain (profiledAsset versions) := by
  have word : trim "1" = "1" := by
    apply trim_eq_self
    intro char inside
    obtain rfl : char = '1' := by simpa using inside
    rfl
  refine ⟨by simp [profiledAsset], ?_, by simp [profiledAsset, word]⟩
  intro asset listed
  obtain rfl := List.mem_singleton.mp listed
  exact plain

theorem sourceFingerprint_identifies_profiled : sourceFingerprint markedInstant utf8 (profiledAsset ["b", " a "]) =
      sourceFingerprint markedInstant utf8 (profiledAsset ["a", "b"]) ↔
    normalForm (profiledAsset ["b", " a "]) = normalForm (profiledAsset ["a", "b"]) := by
  obtain ⟨exactly, plain⟩ := sourceFingerprint_identifies_iff utf8_injective markedInstant_injective
    markedInstant_named (profiledAsset ["b", " a "]) (profiledAsset ["a", "b"])
  exact exactly.mpr (plain (profiledAsset_plain (by decide)) (profiledAsset_plain (by decide)))

/-- Two versions and one version with a comma are digested alike. -/
theorem sourceFingerprint_conflates : sourceFingerprint markedInstant utf8 (profiledAsset ["a", "b"]) =
      sourceFingerprint markedInstant utf8 (profiledAsset ["a,b"]) ∧
    normalForm (profiledAsset ["a", "b"]) ≠ normalForm (profiledAsset ["a,b"]) := by
  have texts : ",".intercalate (normalizedVersions ["a", "b"]) = ",".intercalate (normalizedVersions ["a,b"]) := by
    decide
  have written : components markedInstant (profiledAsset ["a", "b"]) =
      components markedInstant (profiledAsset ["a,b"]) := by
    simp [components, profiledAsset, assetParts, texts]
  refine ⟨by rw [sourceFingerprint, canonical, written, sourceFingerprint, canonical], fun same => ?_⟩
  have assets := congrArg InputForm.assets same
  have listed : assetForm versionSet ⟨⟨List.replicate 16 0, rfl⟩, 0, ["a", "b"]⟩ ∈
      (normalForm (profiledAsset ["a,b"])).assets := by
    rw [← assets]
    exact ⟨_, List.mem_singleton.mpr rfl, rfl⟩
  obtain ⟨asset, single, alike⟩ := listed
  obtain rfl := List.mem_singleton.mp single
  have versions : versionSet ["a,b"] = versionSet ["a", "b"] := congrArg AssetForm.profileVersions alike
  have first : "a" ∈ normalizedVersions ["a,b"] := by
    rw [mem_normalizedVersions, versions, ← mem_normalizedVersions]
    decide
  exact absurd first (by decide)

end Conflation

end DataMax.SourceFingerprint
