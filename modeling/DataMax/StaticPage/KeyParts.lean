import DataMax.Library.Framing
import DataMax.StaticPage.StableKey

/-! The parts of a page key as texts: ids are escaped, so that joined parts can be told apart. -/

namespace DataMax.StaticPage

open Domain Json Library
open SemanticLink (isControl)

/-- What a part names. -/
inductive PartKind where
  | channel
  | datasetExternalId
  | requestedDatasetExternalId
  | availableDatasetExternalId
  | canonicalDatasetId
  | datasetId
  | availableDocumentExternalId
  | documentExternalId
  | documentId
  | databaseSourceId
  | databaseSourceIdCamel
  | recipientUser
  | recipientRole
  | recipientScope
  | recipientMapping
  deriving DecidableEq

def PartKind.text : PartKind → String
  | channel => "channel"
  | datasetExternalId => "dataset_external_id"
  | requestedDatasetExternalId => "requested_dataset_external_id"
  | availableDatasetExternalId => "available_dataset_external_id"
  | canonicalDatasetId => "canonical_dataset_id"
  | datasetId => "dataset_id"
  | availableDocumentExternalId => "available_document_external_id"
  | documentExternalId => "document_external_id"
  | documentId => "document_id"
  | databaseSourceId => "database_source_id"
  | databaseSourceIdCamel => "databaseSourceId"
  | recipientUser => "recipient_user"
  | recipientRole => "recipient_role"
  | recipientScope => "recipient_scope"
  | recipientMapping => "recipient_mapping"

section Escaping

def escapeMark (ch : Char) : List Char := if ch = '\\' ∨ ch = '|' ∨ ch = ':' then ['\\', ch] else [ch]

def escapeId (id : String) : String := .ofList (id.toList.flatMap escapeMark)

/-- The trimmed id without control characters, if anything is left. -/
def normalizedId (value : String) : Option String :=
  let normalized := String.ofList ((trim value).toList.filter fun ch => !isControl ch)
  if normalized = "" then none else some normalized

theorem replace_marks (text : List Char) :
    replaceAll [':'] ['\\', ':'] (replaceAll ['|'] ['\\', '|'] (replaceAll ['\\'] ['\\', '\\'] text)) =
      text.flatMap escapeMark := by
  rw [replaceAll_mark, replaceAll_mark, replaceAll_mark, List.flatMap_assoc, List.flatMap_assoc]
  refine List.flatMap_congr fun ch _ => ?_
  by_cases slash : ch = '\\'
  · subst slash; rfl
  by_cases bar : ch = '|'
  · subst bar; rfl
  by_cases colon : ch = ':'
  · subst colon; rfl
  simp [escapeMark, slash, bar, colon]

theorem staticPageStableKeyToken_eq (value : String) :
    staticPageStableKeyToken value = (normalizedId value).map escapeId := by
  rw [staticPageStableKeyToken, normalizedId]
  generalize String.ofList ((trim value).toList.filter fun ch => !isControl ch) = normalized
  split
  · rfl
  · rw [Option.map_some, escapeId, ← replace_marks]
    simp only [replaceText, String.toList_ofList]
    rfl

/-- The text of a part. -/
def scopePartText (kind : PartKind) (id : String) : String := kind.text ++ ":" ++ escapeId id

end Escaping

section Separation

/-- A mark between the parts, one inside a part, or a character of an id. -/
inductive KeySymbol where
  | bar
  | colon
  | char (ch : Char)
  deriving DecidableEq

def KeySymbol.chars : KeySymbol → List Char
  | bar => ['|']
  | colon => [':']
  | char ch => escapeMark ch

def readSymbol : List Char → Option (KeySymbol × List Char)
  | [] => none
  | '\\' :: ch :: rest => some (.char ch, rest)
  | '|' :: rest => some (.bar, rest)
  | ':' :: rest => some (.colon, rest)
  | ch :: rest => some (.char ch, rest)

theorem readSymbol_chars (symbol : KeySymbol) (rest : List Char) :
    readSymbol (symbol.chars ++ rest) = some (symbol, rest) := by
  cases symbol with
  | bar => rfl
  | colon => rfl
  | char ch =>
    rw [KeySymbol.chars, escapeMark]
    split
    · rfl
    · rename_i plain
      simp only [not_or] at plain
      obtain ⟨slash, bar, colon⟩ := plain
      rw [List.singleton_append, readSymbol]
      · intro _ _ same
        exact absurd same slash
      · exact bar
      · exact colon

theorem chars_prefixFree : PrefixFree KeySymbol.chars := by
  intro first second rest others same
  have read := congrArg readSymbol same
  rw [readSymbol_chars, readSymbol_chars] at read
  simpa using read

theorem chars_ne_nil (symbol : KeySymbol) : symbol.chars ≠ [] := by
  intro nothing
  have read := readSymbol_chars symbol []
  rw [nothing, List.nil_append, readSymbol] at read
  cases read

def partSymbols (kind : PartKind) (id : String) : List KeySymbol :=
  kind.text.toList.map .char ++ .colon :: id.toList.map .char

theorem kind_unmarked (kind : PartKind) : ∀ ch ∈ kind.text.toList, ¬ (ch = '\\' ∨ ch = '|' ∨ ch = ':') := by
  have every : (kind.text.toList.all fun ch => ch != '\\' && ch != '|' && ch != ':') = true := by
    cases kind <;> rw [PartKind.text, String.toList_ofList] <;> decide
  intro ch inside
  have plain := List.all_eq_true.mp every ch inside
  grind

theorem kind_plain (kind : PartKind) : (kind.text.toList.map KeySymbol.char).flatMap KeySymbol.chars = kind.text.toList := by
  rw [List.flatMap_map]
  refine (List.flatMap_congr fun ch inside => ?_).trans (List.flatMap_singleton' _)
  exact if_neg (kind_unmarked kind ch inside)

theorem scopePartText_toList (kind : PartKind) (id : String) :
    (scopePartText kind id).toList = (partSymbols kind id).flatMap KeySymbol.chars := by
  rw [partSymbols, List.flatMap_append, kind_plain, scopePartText, escapeId, String.toList_append, String.toList_append,
    String.toList_ofList, String.toList_ofList, List.flatMap_cons, List.flatMap_map, List.append_assoc]
  rfl

theorem char_injective : Function.Injective KeySymbol.char := fun _ _ same => KeySymbol.char.inj same

theorem kind_injective {kind other : PartKind} (same : kind.text = other.text) : kind = other := by
  have every : ∀ kind other : PartKind, kind.text = other.text → kind = other := by
    intro kind other
    cases kind <;> cases other <;> decide
  exact every kind other same

theorem partSymbols_injective {kind otherKind : PartKind} {id otherId : String}
    (same : partSymbols kind id = partSymbols otherKind otherId) : kind = otherKind ∧ id = otherId := by
  have unmarked : ∀ text : List Char, KeySymbol.colon ∉ text.map KeySymbol.char := by simp
  obtain ⟨kinds, -, ids⟩ := (List.append_cons_inj_of_notMem (unmarked _) (unmarked _)).mp same
  have texts := List.map_injective_iff.mpr char_injective kinds
  have chars := List.map_injective_iff.mpr char_injective ids
  exact ⟨kind_injective (String.toList_injective texts), String.toList_injective chars⟩

theorem bar_not_mem (kind : PartKind) (id : String) : KeySymbol.bar ∉ partSymbols kind id := by
  simp [partSymbols]

/-- Parts that are each announced by a bar are read back. -/
theorem parts_injective {parts others : List (PartKind × String)}
    (same : (parts.flatMap fun part => '|' :: (scopePartText part.1 part.2).toList) =
      others.flatMap fun part => '|' :: (scopePartText part.1 part.2).toList) : parts = others := by
  have symbols (parts : List (PartKind × String)) :
      (parts.flatMap fun part => '|' :: (scopePartText part.1 part.2).toList) =
        ((parts.map fun part => partSymbols part.1 part.2).flatMap (KeySymbol.bar :: ·)).flatMap KeySymbol.chars := by
    rw [List.flatMap_map, List.flatMap_assoc]
    refine List.flatMap_congr fun part _ => ?_
    rw [List.flatMap_cons, scopePartText_toList]
    rfl
  rw [symbols, symbols] at same
  have bare (parts : List (PartKind × String)) : ∀ row ∈ parts.map fun part => partSymbols part.1 part.2,
      KeySymbol.bar ∉ row := by
    intro row listed
    obtain ⟨part, -, rfl⟩ := List.mem_map.mp listed
    exact bar_not_mem part.1 part.2
  have rows := announced_injective (bare parts) (bare others) (chars_prefixFree.flatMap_injective chars_ne_nil same)
  refine List.map_injective_iff.mpr (fun first second equal => ?_) rows
  obtain ⟨kinds, ids⟩ := partSymbols_injective equal
  exact Prod.ext kinds ids

theorem scopePartText_injective {kind otherKind : PartKind} {id otherId : String}
    (same : scopePartText kind id = scopePartText otherKind otherId) : kind = otherKind ∧ id = otherId := by
  have symbols := congrArg String.toList same
  rw [scopePartText_toList, scopePartText_toList] at symbols
  exact partSymbols_injective (chars_prefixFree.flatMap_injective chars_ne_nil symbols)

theorem kinds_prefixFree : PrefixFree fun kind : PartKind => kind.text.toList ++ [':'] := by
  refine PrefixFree.terminated (fun first second same => kind_injective (String.toList_injective same)) fun kind inside => ?_
  exact kind_unmarked kind ':' inside (.inr (.inr rfl))

def partStart (kind : PartKind) : String := kind.text ++ ":"

theorem startsWith_scopePartText (kind named : PartKind) (id : String) :
    startsWith (scopePartText kind id) (partStart named) = true ↔ kind = named := by
  have colon : ":".toList = [':'] := rfl
  rw [partStart, startsWith, List.isPrefixOf_iff_prefix, scopePartText, String.toList_append, String.toList_append, String.toList_append,
    colon]
  constructor
  · rintro ⟨rest, same⟩
    exact (kinds_prefixFree named kind _ _ same).1.symm
  · rintro rfl
    exact List.prefix_append _ _

end Separation

end DataMax.StaticPage
