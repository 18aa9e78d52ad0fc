import DataMax.Domain.Words
import DataMax.SemanticGraph.WellFormed
import DataMax.SemanticLabel.Projection
import DataMax.SemanticLink.Endpoints

/-! Texts that the audit of a link graph does not reject: ids, fixed words, and the
labels that the filter lets through. -/

namespace DataMax.SemanticLink

open Domain Json Library SemanticGraph SemanticLabel SemanticUnderstanding

section Spelled

/-- The texts and their characters. The characters of a literal are read off it, not decoded. -/
inductive Spells : List String → List (List Char) → Prop where
  | nil : Spells [] []
  | cons {texts : List String} {spelled : List (List Char)} (characters : List Char) (rest : Spells texts spelled) :
      Spells (.ofList characters :: texts) (characters :: spelled)

theorem Spells.map_toList {texts : List String} {spelled : List (List Char)} (spells : Spells texts spelled) :
    texts.map String.toList = spelled := by
  induction spells with
  | nil => rfl
  | cons characters rest ih => rw [List.map_cons, String.toList_ofList, ih]

theorem Spells.forall_mem {texts : List String} {spelled : List (List Char)} {holds : List Char → Prop}
    (spells : Spells texts spelled) (each : ∀ characters ∈ spelled, holds characters) :
    ∀ text ∈ texts, holds text.toList := by
  rw [← spells.map_toList] at each
  exact List.forall_mem_map.mp each

def spelledMarkers : {spelled : List (List Char) // Spells (personIdentifierPhrases ++ manifestMarkers) spelled} :=
  ⟨_, by repeat constructor⟩

theorem forall_marker (holds : List Char → Prop) (each : ∀ characters ∈ spelledMarkers.1, holds characters) :
    ∀ marker ∈ personIdentifierPhrases ++ manifestMarkers, holds marker.toList :=
  spelledMarkers.2.forall_mem each

end Spelled

section Flagged

/-- The audit rejects the text. -/
def flagged (text : List Char) : Bool :=
  containsDirectPersonIdentifierMarker (asciiLower (.ofList text)) ||
    containsAny (asciiLower (.ofList text)) manifestMarkers

variable {text lead rest : List Char} {allowed : Char → Bool}

theorem toList_asciiLower (text : String) : (asciiLower text).toList = text.toList.map Char.toLower := by
  simp [asciiLower]

theorem containsAny_iff {text : String} {markers : List String} :
    containsAny text markers ↔ ∃ marker ∈ markers, marker.toList <:+: text.toList := by
  simp only [containsAny, List.any_eq_true, contains_iff]

theorem containsDirectPersonIdentifierMarker_iff {value : String} : containsDirectPersonIdentifierMarker value ↔
    (∃ marker ∈ personIdentifierPhrases, marker.toList <:+: value.toList.map Char.toLower) ∨
      ∃ token ∈ (value.toList.map Char.toLower).splitOnP fun character => !character.isAlphanum,
        asciiTokenIsDirectPersonIdentifier (.ofList token) := by
  simp only [containsDirectPersonIdentifierMarker, Bool.or_eq_true, containsAny_iff, List.any_eq_true, toList_asciiLower]

theorem flagged_iff : flagged text ↔
    ((∃ marker ∈ personIdentifierPhrases, marker.toList <:+: text.map Char.toLower) ∨
      ∃ token ∈ (text.map Char.toLower).splitOnP fun character => !character.isAlphanum,
        asciiTokenIsDirectPersonIdentifier (.ofList token)) ∨
    ∃ marker ∈ manifestMarkers, marker.toList <:+: text.map Char.toLower := by
  simp only [flagged, Bool.or_eq_true, containsDirectPersonIdentifierMarker_iff, containsAny_iff, toList_asciiLower,
    String.toList_ofList, List.map_map, Function.comp_def, toLower_toLower]

/-- A name of a person's id names a person or an id. -/
theorem part_of_person_token {token : List Char} (identifies : asciiTokenIsDirectPersonIdentifier (.ofList token)) :
    "pid".toList <:+: token ∨ "person".toList <:+: token := by
  have characters : (String.ofList token).toList = token := String.toList_ofList
  have parts : ∀ marker ∈ ["pid", "personid", "personidentifier"], contains marker "pid" ∨ contains marker "person" := by
    decide
  have named : ∀ marker ∈ ["pid", "personid", "personidentifier"], marker.toList <:+: token →
      "pid".toList <:+: token ∨ "person".toList <:+: token := by
    intro marker listed occurs
    exact (parts marker listed).imp (fun inside => (contains_iff.mp inside).trans occurs)
      fun inside => (contains_iff.mp inside).trans occurs
  rw [asciiTokenIsDirectPersonIdentifier] at identifies
  split at identifies
  · rename_i known
    simp only [Bool.or_eq_true, decide_eq_true_eq, contains_iff, startsWith, List.isPrefixOf_iff_prefix, characters] at known
    rcases known with ((same | inside) | inside) | leading
    · exact named _ same (by rw [characters])
    · exact named _ (by decide) inside
    · exact named _ (by decide) inside
    · exact .inl leading.isInfix
  · simp only [Bool.and_eq_true, contains_iff, characters] at identifies
    exact .inl identifies.1

/-- A text over characters that every marker goes beyond. -/
theorem flagged_eq_false (person : allowed 'p' = false)
    (beyond : ∀ marker ∈ personIdentifierPhrases ++ manifestMarkers, marker.toList.any fun character => !allowed character)
    (within : ∀ character ∈ text, allowed character.toLower) : flagged text = false := by
  have covered : ∀ character ∈ text.map Char.toLower, allowed character := by
    intro character inside
    obtain ⟨origin, listed, rfl⟩ := List.mem_map.mp inside
    exact within origin listed
  have apart : ∀ marker ∈ personIdentifierPhrases ++ manifestMarkers, ¬ marker.toList <:+: text.map Char.toLower := by
    intro marker listed occurs
    obtain ⟨character, inside, outside⟩ := List.any_eq_true.mp (beyond marker listed)
    simp [covered character (occurs.subset inside)] at outside
  rw [Bool.eq_false_iff, ne_eq, flagged_iff]
  rintro ((⟨marker, listed, occurs⟩ | ⟨token, listed, identifies⟩) | ⟨marker, listed, occurs⟩)
  · exact apart marker (List.mem_append_left _ listed) occurs
  · have letter : 'p' ∈ token := by
      have letters : 'p' ∈ "pid".toList ∧ 'p' ∈ "person".toList := by decide
      rcases part_of_person_token identifies with occurs | occurs
      · exact occurs.subset letters.1
      · exact occurs.subset letters.2
    simp [covered 'p' (of_mem_splitOnP listed letter).1] at person
  · exact apart marker (List.mem_append_right _ listed) occurs

/-- Nothing flagged goes across a mark that no marker has. -/
theorem flagged_local {mark : Char} (lower : mark.toLower = mark) (separates : mark.isAlphanum = false)
    (bare : ∀ marker ∈ personIdentifierPhrases ++ manifestMarkers, mark ∉ marker.toList) :
    LocalTo mark (flagged · = true) := by
  have nonempty := forall_marker (· ≠ []) (by decide)
  have occurs : ∀ markers ⊆ personIdentifierPhrases ++ manifestMarkers,
      LocalTo mark fun items => ∃ marker ∈ markers, marker.toList <:+: items := by
    intro markers listed
    apply LocalTo.exists_mem
    intro marker inside
    exact LocalTo.occurrence (nonempty marker (listed inside)) (bare marker (listed inside))
  have tokens : LocalTo mark fun items => ∃ token ∈ items.splitOnP fun character => !character.isAlphanum,
      asciiTokenIsDirectPersonIdentifier (.ofList token) :=
    LocalTo.piece (by simp [separates]) (by decide)
  have shape : (flagged · = true) = _ := funext fun text => propext flagged_iff
  rw [shape]
  exact (((occurs _ (List.subset_append_left _ _)).either tokens).either
    (occurs _ (List.subset_append_right _ _))).comp_map lower

end Flagged

section Harmless

variable {text : List Char} {character : Char}

theorem isStructural_toLower (structural : isStructural character) : isStructural character.toLower := by
  have marks : (['+', '-', '.', 'e', 'E', ',', ':', '[', ']', '{', '}', 't', 'r', 'u', 'e', 'f', 'a', 'l', 's',
      'n'].all fun mark => isStructural mark.toLower) = true := by decide
  by_cases digit : character.isDigit
  · rwa [toLower_of_digit digit]
  · apply List.all_eq_true.mp marks
    simpa [isStructural, isNumberChar, digit, or_assoc] using structural

theorem flagged_structural (structural : ∀ character ∈ text, isStructural character) : flagged text = false := by
  have beyond := forall_marker (fun marker => marker.any fun character => !isStructural character) (by decide)
  exact flagged_eq_false (by decide) beyond fun character inside => isStructural_toLower (structural character inside)

/-- A digest, a UUID or a part of one. -/
def IsHex (text : List Char) : Prop := ∀ character ∈ text, character = '-' ∨ ∃ digit : Fin 16, character = Nat.digitChar digit

theorem flagged_hex (hexadecimal : IsHex text) : flagged text = false := by
  let allowed : Char → Bool := ['-', '0', '1', '2', '3', '4', '5', '6', '7', '8', '9', 'a', 'b', 'c', 'd', 'e', 'f'].contains
  have digits : ∀ digit : Fin 16, allowed (Nat.digitChar digit).toLower := by decide
  have beyond := forall_marker (fun marker => marker.any fun character => !allowed character) (by decide)
  apply flagged_eq_false (by decide) beyond
  intro character inside
  rcases hexadecimal character inside with rfl | ⟨digit, rfl⟩
  · rfl
  · exact digits digit

theorem flagged_no_letters (none : ∀ character ∈ text, character.isAlpha = false) : flagged text = false := by
  have beyond := forall_marker (fun marker => marker.any fun character => !!character.isLower) (by decide)
  apply @flagged_eq_false text (fun character => !character.isLower) (by decide) beyond
  intro character inside
  rw [(toLower_of_not_alpha (none character inside)).1, (toLower_of_not_alpha (none character inside)).2]
  rfl

end Harmless

section Ids

/-- The characters of the ids in a graph. -/
def isIdChar (character : Char) : Bool :=
  (character.isAlphanum || ['_', ':', '-'].contains character) && !(['/', '\\'].contains character.toLower)

/-- Such texts stay harmless when colons join them. -/
def quietId (text : List Char) : Bool :=
  !flagged text && text.all isIdChar && !contains (asciiLower (.ofList text)) "jdbc"

variable {text before after : List Char} {character : Char}

theorem quietId_iff : quietId text ↔ (flagged text = false ∧ ∀ character ∈ text, isIdChar character) ∧
    ¬ "jdbc".toList <:+: text.map Char.toLower := by
  rw [quietId, Bool.and_eq_true, Bool.and_eq_true, Bool.not_eq_true', Bool.not_eq_true', List.all_eq_true,
    ← Bool.not_eq_true (contains _ _), contains_iff, toList_asciiLower, @String.toList_ofList text]

theorem escapeChar_alphanum (alphanumeric : character.isAlphanum) : escapeChar character = [character] := by
  apply escapeChar_eq
  · rintro rfl
    revert alphanumeric
    decide
  · rintro rfl
    revert alphanumeric
    decide
  · exact (alphanum_code alphanumeric).1.trans' (by decide)

theorem escapeChar_id (simple : isIdChar character) : escapeChar character = [character] := by
  simp only [isIdChar, Bool.and_eq_true, Bool.or_eq_true, List.contains_iff_mem, List.mem_cons, List.not_mem_nil,
    or_false] at simple
  rcases simple.1 with alphanumeric | rfl | rfl | rfl
  · exact escapeChar_alphanum alphanumeric
  all_goals rfl

theorem trim_quiet {text : String} (quiet : quietId text.toList) : trim text = text := by
  have simple := (quietId_iff.mp quiet).1.2
  apply trim_eq_self
  intro character inside
  have kinds := simple character inside
  simp only [isIdChar, Bool.and_eq_true, Bool.or_eq_true, List.contains_iff_mem, List.mem_cons, List.not_mem_nil,
    or_false] at kinds
  rcases kinds.1 with alphanumeric | rfl | rfl | rfl
  · exact visible_alphanum alphanumeric
  all_goals rfl

theorem quietId_escaped (quiet : quietId text) : text.flatMap escapeChar = text := by
  have simple := (quietId_iff.mp quiet).1.2
  calc text.flatMap escapeChar = text.flatMap fun character => [character] :=
        List.flatMap_congr fun character inside => escapeChar_id (simple character inside)
    _ = text := by simp

theorem quietId_colon (first : quietId before) (second : quietId after) : quietId (before ++ ':' :: after) := by
  obtain ⟨⟨firstSafe, firstSimple⟩, firstBare⟩ := quietId_iff.mp first
  obtain ⟨⟨secondSafe, secondSimple⟩, secondBare⟩ := quietId_iff.mp second
  have simple : ∀ character ∈ before ++ ':' :: after, isIdChar character := by
    intro character inside
    rcases List.mem_append.mp inside with left | right
    · exact firstSimple character left
    · rcases List.mem_cons.mp right with rfl | later
      · rfl
      · exact secondSimple character later
  have colon : (before ++ ':' :: after).map Char.toLower = before.map Char.toLower ++ ':' :: after.map Char.toLower := by
    rw [List.map_append, List.map_cons]
    rfl
  have joinedBare : ¬ "jdbc".toList <:+: (before ++ ':' :: after).map Char.toLower := by
    rw [colon, infix_append_cons (by decide)]
    exact not_or.mpr ⟨firstBare, secondBare⟩
  refine quietId_iff.mpr ⟨⟨?_, simple⟩, joinedBare⟩
  rw [Bool.eq_false_iff, ne_eq, flagged_iff] at firstSafe secondSafe ⊢
  have covered : ∀ character ∈ (before ++ ':' :: after).map Char.toLower, ['/', '\\'].contains character = false := by
    intro character inside
    obtain ⟨origin, listed, rfl⟩ := List.mem_map.mp inside
    have fits := simple origin listed
    simp only [isIdChar, Bool.and_eq_true, Bool.not_eq_true'] at fits
    exact fits.2
  -- A marker with a colon has something else that is not in an id.
  have marked := forall_marker (fun marker => ':' ∈ marker →
    (marker.any fun character => ['/', '\\'].contains character) ∨ "jdbc".toList <:+: marker) (by decide)
  have bare : ∀ marker ∈ personIdentifierPhrases, ':' ∉ marker.toList := by decide
  rw [colon] at covered joinedBare ⊢
  rintro ((⟨marker, listed, occurs⟩ | ⟨token, listed, identifies⟩) | ⟨marker, listed, occurs⟩)
  · rcases (infix_append_cons (bare marker listed)).mp occurs with left | right
    · exact firstSafe (.inl (.inl ⟨marker, listed, left⟩))
    · exact secondSafe (.inl (.inl ⟨marker, listed, right⟩))
  · rw [List.splitOnP_append_cons _ _ (by decide)] at listed
    rcases List.mem_append.mp listed with left | right
    · exact firstSafe (.inl (.inr ⟨token, left, identifies⟩))
    · exact secondSafe (.inl (.inr ⟨token, right, identifies⟩))
  · by_cases joined : ':' ∈ marker.toList
    · rcases marked marker (List.mem_append_right _ listed) joined with slashed | named
      · obtain ⟨character, inside, outside⟩ := List.any_eq_true.mp slashed
        rw [covered character (occurs.subset inside)] at outside
        cases outside
      · exact joinedBare (named.trans occurs)
    · rcases (infix_append_cons joined).mp occurs with left | right
      · exact firstSafe (.inr ⟨marker, listed, left⟩)
      · exact secondSafe (.inr ⟨marker, listed, right⟩)

theorem quietId_hex (hexadecimal : IsHex text) : quietId text := by
  have digits : ∀ digit : Fin 16, isIdChar (Nat.digitChar digit) ∧ (Nat.digitChar digit).toLower ≠ 'j' := by decide
  refine quietId_iff.mpr ⟨⟨flagged_hex hexadecimal, ?_⟩, ?_⟩
  · intro character inside
    rcases hexadecimal character inside with rfl | ⟨digit, rfl⟩
    · rfl
    · exact (digits digit).1
  · intro occurs
    have letter : 'j' ∈ text.map Char.toLower := occurs.subset (by decide)
    obtain ⟨character, inside, same⟩ := List.mem_map.mp letter
    rcases hexadecimal character inside with rfl | ⟨digit, rfl⟩
    · cases same
    · exact (digits digit).2 same

/-- The words that the ids and keys of a graph are made of. -/
def graphWords : List String := ["d", "dataset", "root", "document", "object", "field", "concept", "structure", "shared",
  "opaque", "cross_relation", "business-time", "mall-space", "traffic-metric", "visitor-profile", "data-quality",
  "privacy-boundary", "retail-format", "statistical-grain", "statistical-scale", "schema_version", "root_dataset_id",
  "datasets", "nodes", "edges", "truncated", "stale", "id", "title", "kind", "display_label", "dataset_refs",
  "visible_provenance_count", "source_id", "target_id", "relation_type", "label", "relation_semantics",
  "evidence_class", "confidence", "reason", "cross_dataset", "supporting_dataset_ids", "identity", "reference",
  "similarity", "confirmed", "observed", "inferred", "foreign_key", "explicit_reference", "dataset_contains_object",
  "object_contains_field", "field_expresses_concept", "temporal_complementarity", "label_similarity"]

/-- Short texts of which every marker without punctuation has one. -/
def wordMarkers : List String := ["jdbc", "pid", "person", "256", "hmac", "_identity", "_value", "t_key", "_name", "xamp"]

def spelledWordMarkers : {spelled : List (List Char) // Spells wordMarkers spelled} := ⟨_, by repeat constructor⟩

def spelledGraphWords : {spelled : List (List Char) // Spells graphWords spelled} := ⟨_, by repeat constructor⟩

/-- The codes of the characters, which are faster to compare than the characters. -/
def codes (text : List Char) : List Nat := text.map Char.toNat

def isCalm (text : List Char) : Bool :=
  !wordMarkers.any fun marker => (codes text).tails.any (codes marker.toList).isPrefixOf

/-- An id character in lower case that joins no parts. -/
def isWordChar (character : Char) : Bool := isIdChar character && character != ':' && character.toLower == character

theorem isCalm_absent (calm : isCalm text) : ∀ marker ∈ wordMarkers, ¬ marker.toList <:+: text := by
  intro marker listed occurs
  have coded : codes marker.toList <:+: codes text := occurs.map Char.toNat
  obtain ⟨rest, leading, ending⟩ := List.infix_iff_prefix_suffix.mp coded
  have found : wordMarkers.any fun marker => (codes text).tails.any (codes marker.toList).isPrefixOf :=
    List.any_eq_true.mpr ⟨marker, listed,
      List.any_eq_true.mpr ⟨rest, (List.mem_tails _ _).mpr ending, List.isPrefixOf_iff_prefix.mpr leading⟩⟩
  rw [isCalm, found] at calm
  cases calm

theorem quietId_calm (calm : isCalm text) (simple : text.all isWordChar) : quietId text := by
  have absent := isCalm_absent calm
  have fits : ∀ character ∈ text, (isIdChar character ∧ character ≠ ':') ∧ character.toLower = character := by
    simpa [isWordChar] using simple
  have lower : text.map Char.toLower = text := by
    calc text.map Char.toLower = text.map id := List.map_congr_left fun character inside => (fits character inside).2
      _ = text := List.map_id text
  have phrases : ∀ marker ∈ personIdentifierPhrases, contains marker "person" := by decide
  have markers := forall_marker (fun marker => (marker.any fun character => !isIdChar character || character == ':') ∨
    ∃ part ∈ spelledWordMarkers.1, part <:+: marker) (by decide)
  refine quietId_iff.mpr ⟨⟨?_, fun character inside => (fits character inside).1.1⟩, ?_⟩
  · rw [Bool.eq_false_iff, ne_eq, flagged_iff, lower]
    rintro ((⟨marker, listed, occurs⟩ | ⟨token, listed, identifies⟩) | ⟨marker, listed, occurs⟩)
    · exact absent "person" (by decide) ((contains_iff.mp (phrases marker listed)).trans occurs)
    · rcases part_of_person_token identifies with named | named
      · exact absent "pid" (by decide) (named.trans (infix_of_mem_splitOnP listed))
      · exact absent "person" (by decide) (named.trans (infix_of_mem_splitOnP listed))
    · rcases markers marker (List.mem_append_right _ listed) with punctuated | ⟨part, known, inside⟩
      · obtain ⟨character, inside, outside⟩ := List.any_eq_true.mp punctuated
        have known := fits character (occurs.subset inside)
        simp [known.1.1, known.1.2] at outside
      · rw [← spelledWordMarkers.2.map_toList] at known
        obtain ⟨word, short, rfl⟩ := List.mem_map.mp known
        exact absent word short (inside.trans occurs)
  · rw [lower]
    exact absent "jdbc" (by decide)

theorem graphWords_quiet : ∀ word ∈ graphWords, quietId word.toList := by
  have calm : (spelledGraphWords.1.all fun word => isCalm word && word.all isWordChar) = true := by decide +kernel
  have quiet : ∀ word ∈ spelledGraphWords.1, quietId word := by
    intro word listed
    have both := List.all_eq_true.mp calm word listed
    rw [Bool.and_eq_true] at both
    exact quietId_calm both.1 both.2
  exact spelledGraphWords.2.forall_mem quiet

theorem quietId_join {first second : String} (quiet : quietId first.toList) (also : quietId second.toList) :
    quietId (first ++ ":" ++ second).toList := by
  have shape : (first ++ ":" ++ second).toList = first.toList ++ ':' :: second.toList := by simp
  rw [shape]
  exact quietId_colon quiet also

theorem quietId_digest (bytes : List UInt8) : quietId (hex bytes).toList := by
  apply quietId_hex
  intro character inside
  rw [hex, String.toList_ofList, List.mem_flatMap] at inside
  obtain ⟨byte, _, within⟩ := inside
  exact .inr (mem_hexByte within)

theorem quietId_uuid (uuid : UuidBytes) : quietId uuid.text.toList :=
  quietId_hex fun _ inside => UuidBytes.mem_text inside

variable {digest : String → List UInt8}

theorem quietId_semanticId {kind : String} (quiet : quietId (trim kind).toList) (parts : List String) :
    quietId (semanticId digest kind parts).toList :=
  quietId_join quiet (quietId_digest _)

theorem quietId_scoped {localNodeId : String} (quiet : quietId (trim localNodeId).toList) (datasetId : UuidBytes) :
    quietId (scopedSemanticEndpointId digest datasetId localNodeId).toList := by
  have inner : quietId (safeLocalNodeId digest datasetId localNodeId).toList := by
    rw [safeLocalNodeId]
    split
    · exact quiet
    · have bare : ':' ∉ (trim "endpoint").toList := by decide
      have hashed : afterColon (semanticId digest "endpoint" [datasetId.text, trim localNodeId]) = hex _ :=
        afterColon_append bare
      rw [hashed]
      exact @quietId_join "opaque" _ (graphWords_quiet "opaque" (by decide)) (quietId_digest _)
  exact quietId_join (@quietId_join "d" _ (graphWords_quiet "d" (by decide)) (quietId_uuid datasetId)) inner

end Ids

section Labels

/-- The text is written as it is. -/
def IsVerbatim (text : String) : Prop := ∀ character ∈ text.toList, escapeChar character = [character]

instance (text : String) : Decidable (IsVerbatim text) :=
  decidable_of_iff (text.toList.all fun character => escapeChar character == [character]) (by simp [IsVerbatim])

theorem IsVerbatim.escaped {text : String} (verbatim : IsVerbatim text) : text.toList.flatMap escapeChar = text.toList := by
  calc text.toList.flatMap escapeChar = text.toList.flatMap fun character => [character] := List.flatMap_congr verbatim
    _ = text.toList := by simp

variable {tables : TextTables} {parseUuid : String → Option UuidBytes} {value fallback label : String} {character : Char}

theorem escapeChar_wide (wide : 0x80 ≤ character.toNat) : escapeChar character = [character] := by
  apply escapeChar_eq
  · rintro rfl
    exact absurd wide (by decide)
  · rintro rfl
    exact absurd wide (by decide)
  · omega

/-- The characters of a label without Chinese words. -/
def isEnglishChar (classes : CharClasses) (character : Char) : Bool :=
  classes.isAlphanumeric character || [' ', '-', '&'].contains character

theorem not_rejected {rejected : Prop} [Decidable rejected] {labelClass : SemanticPrimaryLabelClass} {chinese : Bool}
    {other : SemanticPrimaryLabelQuality}
    (business : (if rejected then .new labelClass false chinese else other).businessLabel) : ¬ rejected := by
  intro met
  rw [if_pos met] at business
  cases business


theorem accepted {rejected : Prop} [Decidable rejected] {labelClass : SemanticPrimaryLabelClass} {chinese : Bool}
    {other : SemanticPrimaryLabelQuality}
    (business : (if rejected then .new labelClass false chinese else other).businessLabel = true) :
    (if rejected then .new labelClass false chinese else other) = other := if_neg (not_rejected business)

theorem classify_english {classes : CharClasses} {text : String}
    (business : (classifySemanticPrimaryLabel classes text).businessLabel = true)
    (english : (classifySemanticPrimaryLabel classes text).chineseBusinessLabel = false) :
    ∀ character ∈ (trim text).toList, isEnglishChar classes character := by
  rw [classifySemanticPrimaryLabel] at business english
  iterate 9
    have step := accepted business
    rw [step] at business english
    clear step
  by_cases chinese : 2 ≤ ((trim text).toList.filter isHanCharacter).length
  · rw [if_pos chinese] at english
    cases english
  · rw [if_neg chinese] at business
    split at business
    · rename_i spelled
      exact List.all_eq_true.mp spelled.2
    · cases business

/-- What the filter lets through. -/
inductive Shown (classes : CharClasses) (fallback label : String) : Prop where
  | fallback (same : label = fallback)
  | chinese (han : ∀ character ∈ label.toList, isHanCharacter character)
  | english (spelled : ∀ character ∈ label.toList, isEnglishChar classes character)
      (impersonal : containsDirectPersonIdentifierMarker (asciiLower label) = false)
      (plain : containsAny (asciiLower label) internalLabelMarkers = false)

theorem safeSemanticLinkLabel_shown (tables : TextTables) (parseUuid : String → Option UuidBytes)
    (value fallback : String) :
    Shown tables.toCharClasses fallback (safeSemanticLinkLabel tables parseUuid value fallback) := by
  rw [safeSemanticLinkLabel]
  split
  · exact .fallback rfl
  · rename_i accepted
    simp only [Bool.or_eq_true, not_or, Bool.not_eq_true] at accepted
    obtain ⟨⟨_, ⟨_, impersonal⟩, plain⟩, _⟩ := accepted
    rw [safeSemanticBusinessLabel]
    dsimp only
    split
    · exact .fallback rfl
    · rename_i business
      split
      · rename_i english
        rw [Option.getD_some, trim_words]
        refine .english ?_ impersonal plain
        have spelled := classify_english (by simpa using business) (by simpa using english)
        rwa [trim_words] at spelled
      · split
        · exact .chinese (by simpa using fun _ => dropCounted_han)
        · exact .fallback rfl

/-- The filter adds nothing but the blanks between the words. -/
theorem mem_safeSemanticLinkLabel (inside : character ∈ (safeSemanticLinkLabel tables parseUuid value fallback).toList) :
    character ∈ fallback.toList ∨ character = ' ' ∨ character ∈ value.toList := by
  have joined : ∀ character ∈ (" ".intercalate (words value)).toList, character = ' ' ∨ character ∈ value.toList :=
    fun character within => (mem_words_text within).imp_right And.left
  rw [safeSemanticLinkLabel] at inside
  split at inside
  · exact .inl inside
  · rw [safeSemanticBusinessLabel] at inside
    dsimp only at inside
    split at inside
    · exact .inl inside
    · split at inside
      · exact .inr (joined character (mem_trim inside))
      · split at inside
        · rw [Option.getD_some, String.toList_ofList] at inside
          exact .inr (joined character (dropCounted_subset _ inside))
        · exact .inl inside

theorem isEnglishChar_cases (ascii : tables.AgreesOnAscii) (english : isEnglishChar tables.toCharClasses character) :
    0x80 ≤ character.toNat ∨ character.isAlphanum ∨ character ∈ [' ', '-', '&'] := by
  by_cases wide : 0x80 ≤ character.toNat
  · exact .inl wide
  · right
    rw [isEnglishChar, ascii.alphanumeric character (Nat.not_le.mp wide), Bool.or_eq_true] at english
    exact english.imp_right List.contains_iff_mem.mp

/-- The marks that neither a business label nor its lower-case form has. -/
theorem isEnglishChar_unmarked (ascii : tables.AgreesOnAscii) (english : isEnglishChar tables.toCharClasses character) :
    ['_', ':', '\\'].contains character.toLower = false := by
  cases upper : character.isUpper with
  | true =>
    have lower := toLower_of_upper upper
    by_contra marked
    rw [Bool.not_eq_false, List.contains_iff_mem] at marked
    simp only [List.mem_cons, List.not_mem_nil, or_false] at marked
    rcases marked with same | same | same
    all_goals
      rw [same] at lower
      revert lower
      decide
  | false =>
    rw [toLower_of_not_upper upper]
    by_contra marked
    rw [Bool.not_eq_false, List.contains_iff_mem] at marked
    simp only [List.mem_cons, List.not_mem_nil, or_false] at marked
    have kinds := isEnglishChar_cases ascii english
    rcases marked with rfl | rfl | rfl
    all_goals
      revert kinds
      decide

theorem Shown.verbatim (ascii : tables.AgreesOnAscii) (written : IsVerbatim fallback)
    (shown : Shown tables.toCharClasses fallback label) : IsVerbatim label := by
  cases shown with
  | fallback same => exact same ▸ written
  | chinese han =>
    intro character inside
    have code := isHanCharacter_code (han character inside)
    exact escapeChar_wide (by omega)
  | english spelled _ _ =>
    intro character inside
    rcases isEnglishChar_cases ascii (spelled character inside) with wide | alphanumeric | listed
    · exact escapeChar_wide wide
    · exact escapeChar_alphanum alphanumeric
    · simp only [List.mem_cons, List.not_mem_nil, or_false] at listed
      rcases listed with rfl | rfl | rfl <;> rfl

theorem flagged_eq_examples {text : String} (none : ∀ character ∈ text.toList, character.isAlpha = false) :
    flagged text.toList = contains (asciiLower text) "examples" := by
  have listed : "examples" ∈ manifestMarkers := by decide
  have harmless := flagged_no_letters none
  rw [harmless, eq_comm, Bool.eq_false_iff, ne_eq, contains_iff, toList_asciiLower]
  intro occurs
  have found := flagged_iff.mpr (.inr ⟨_, listed, occurs⟩)
  rw [harmless] at found
  cases found

/-- Of a label that is shown the audit rejects one word only. -/
theorem Shown.flagged_eq (ascii : tables.AgreesOnAscii)
    (same : flagged fallback.toList = contains (asciiLower fallback) "examples")
    (shown : Shown tables.toCharClasses fallback label) :
    flagged label.toList = contains (asciiLower label) "examples" := by
  have listed : "examples" ∈ manifestMarkers := by decide
  cases shown with
  | fallback equal => exact equal ▸ same
  | chinese han =>
    apply flagged_eq_examples
    intro character inside
    have code := isHanCharacter_code (han character inside)
    exact not_alpha_wide (by omega)
  | english spelled impersonal plain =>
    rw [flagged, String.ofList_toList, impersonal, Bool.false_or, Bool.eq_iff_iff, containsAny_iff, contains_iff]
    constructor
    · rintro ⟨marker, inside, occurs⟩
      have kinds : ∀ marker ∈ manifestMarkers, marker = "examples" ∨ marker ∈ internalLabelMarkers ∨
          marker.toList.any fun character => ['_', ':', '\\'].contains character := by decide
      rcases kinds marker inside with rfl | known | marked
      · exact occurs
      · rw [Bool.eq_false_iff, ne_eq, containsAny_iff] at plain
        exact False.elim (plain ⟨marker, known, occurs⟩)
      · obtain ⟨character, within, outside⟩ := List.any_eq_true.mp marked
        have placed := occurs.subset within
        rw [toList_asciiLower] at placed
        obtain ⟨origin, spelledBy, rfl⟩ := List.mem_map.mp placed
        rw [isEnglishChar_unmarked ascii (spelled origin spelledBy)] at outside
        cases outside
    · exact fun occurs => ⟨_, listed, occurs⟩

end Labels

end DataMax.SemanticLink
