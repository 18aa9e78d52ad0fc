import DataMax.Library.Separated
import DataMax.SemanticGraph.Ids

/-! Which identities have one key: the parts of a key are not told apart from the NUL between them. -/

namespace DataMax.SemanticGraph

open Domain Library

namespace CrossDatasetCanonicalIdentity

/-- The name of its variant. -/
def variant : CrossDatasetCanonicalIdentity → String
  | sharedDocumentMembership _ => "shared_document"
  | canonicalDocument _ => "canonical_document"
  | exactContent _ => "exact_content"
  | exactSourceField .. => "exact_source_field"
  | confirmedConcept _ => "confirmed_concept"

def parts : CrossDatasetCanonicalIdentity → List String
  | sharedDocumentMembership sharedDocumentId => [sharedDocumentId]
  | canonicalDocument canonicalDocumentId => [canonicalDocumentId]
  | exactContent contentIdentity => [contentIdentity]
  | exactSourceField sourceSystemKey sourceSchemaKey sourceObjectKey sourceFieldKey =>
    [sourceSystemKey, sourceSchemaKey, sourceObjectKey, sourceFieldKey]
  | confirmedConcept conceptId => [conceptId]

def trimmedParts (identity : CrossDatasetCanonicalIdentity) : List (List Char) :=
  identity.parts.map fun part => (trim part).toList

/-- The parts cut at every NUL. -/
def pieces (identity : CrossDatasetCanonicalIdentity) : List (List Char) :=
  identity.trimmedParts.flatMap (·.splitOn '\x00')

def separatorCounts (identity : CrossDatasetCanonicalIdentity) : List Nat :=
  identity.trimmedParts.map (List.count '\x00')

end CrossDatasetCanonicalIdentity

open CrossDatasetCanonicalIdentity

/-- One variant, with the same parts but for the white space around them. -/
def SameIdentity (first second : CrossDatasetCanonicalIdentity) : Prop :=
  first.variant = second.variant ∧ first.trimmedParts = second.trimmedParts

variable {kind : DatasetSemanticGraphNodeKind} {identity first second : CrossDatasetCanonicalIdentity} {key other : String}

theorem sameIdentity_iff : SameIdentity first second ↔
    (first.variant = second.variant ∧ first.pieces = second.pieces) ∧
      first.separatorCounts = second.separatorCounts := by
  rw [SameIdentity, parts_eq_iff '\x00', and_assoc]
  rfl

theorem exactIdentityKey_parts (found : exactIdentityKey kind identity = some key) :
    boundedIdentityParts identity.variant identity.parts = some key := by
  cases identity with
  | sharedDocumentMembership | canonicalDocument | exactContent =>
    cases kind <;> simp only [exactIdentityKey, reduceCtorEq] at found
    exact found
  | exactSourceField =>
    cases kind <;> simp only [exactIdentityKey, reduceCtorEq] at found
    exact found
  | confirmedConcept =>
    cases kind <;> simp only [exactIdentityKey, reduceCtorEq] at found
    exact found

theorem exactIdentityKey_text (found : exactIdentityKey kind identity = some key) :
    key.toList = ['\x00'].intercalate (identity.variant.toList :: identity.trimmedParts) := by
  rw [(boundedIdentityParts_text (exactIdentityKey_parts found)).2, intercalate_announced, trimmedParts, List.flatMap_map]

theorem variant_bare (identity : CrossDatasetCanonicalIdentity) : '\x00' ∉ identity.variant.toList := by
  have bare : ∀ name ∈ ["shared_document", "canonical_document", "exact_content", "exact_source_field",
      "confirmed_concept"], '\x00' ∉ name.toList := by decide
  apply bare
  cases identity <;> simp [variant]

/-- Keys are told apart by their variants and by their pieces. -/
theorem exactIdentityKey_eq_iff (found : exactIdentityKey kind first = some key)
    (known : exactIdentityKey kind second = some other) :
    key = other ↔ first.variant = second.variant ∧ first.pieces = second.pieces := by
  have own : ∀ identity : CrossDatasetCanonicalIdentity,
      (identity.variant.toList :: identity.trimmedParts).flatMap (·.splitOn '\x00') =
        identity.variant.toList :: identity.pieces := by
    intro identity
    rw [List.flatMap_cons, List.splitOn_eq_singleton (variant_bare identity)]
    rfl
  rw [← String.toList_inj, exactIdentityKey_text found, exactIdentityKey_text known,
    joined_eq_iff '\x00' (List.cons_ne_nil _ _) (List.cons_ne_nil _ _), own, own, List.cons.injEq, String.toList_inj]

/-- A key stands for one identity where the pieces tell how many of them are of each part. -/
theorem identity_key_separates_iff (kind : DatasetSemanticGraphNodeKind) (first second : CrossDatasetCanonicalIdentity)
    (key other : String) (found : exactIdentityKey kind first = some key)
    (known : exactIdentityKey kind second = some other) :
    (key = other ↔ SameIdentity first second) ↔
      (first.variant = second.variant ∧ first.pieces = second.pieces →
        first.separatorCounts = second.separatorCounts) := by
  rw [exactIdentityKey_eq_iff found known, sameIdentity_iff]
  exact iff_self_and

theorem identity_key_concept :
    let concept := CrossDatasetCanonicalIdentity.confirmedConcept " price "
    (("confirmed_concept\x00price" = "confirmed_concept\x00price") ↔ SameIdentity concept concept) ↔
      (concept.variant = concept.variant ∧ concept.pieces = concept.pieces →
        concept.separatorCounts = concept.separatorCounts) :=
  identity_key_separates_iff .concept _ _ _ _ (by decide) (by decide)

/-- A NUL in a part reads as the one between two parts. -/
theorem identity_key_shared : ¬ ∀ kind first second key other, exactIdentityKey kind first = some key →
    exactIdentityKey kind second = some other → (key = other ↔ SameIdentity first second) := by
  intro separates
  have one : exactIdentityKey .field (.exactSourceField "a\x00b" "c" "d" "e") =
      some "exact_source_field\x00a\x00b\x00c\x00d\x00e" := by decide
  have two : exactIdentityKey .field (.exactSourceField "a" "b\x00c" "d" "e") =
      some "exact_source_field\x00a\x00b\x00c\x00d\x00e" := by decide
  have same := ((separates _ _ _ _ _ one two).mp rfl).2
  exact absurd same (by decide)

end DataMax.SemanticGraph
