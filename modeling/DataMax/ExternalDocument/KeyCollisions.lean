import DataMax.ExternalDocument.DatasetKey
import DataMax.Library.Framing
import DataMax.Library.Separated

/-! Which external ids share a key: those that spell the same words. -/

namespace DataMax.ExternalDocument

open Domain Library

/-- A part between two hyphens. -/
structure IsWord (word : List Char) : Prop where
  nonempty : word ≠ []
  whole : '-' ∉ word

def joinWords (words : List (List Char)) : List Char := ['-'].intercalate words

/-- The runs of letters and digits of an id, in lower case. -/
def wordsOf (characters : List Char) : List (List Char) :=
  ((characters.splitOnP fun character => !character.isAlphanum).filter (· ≠ [])).map (·.map Char.toLower)

def idWords (value : String) : List (List Char) := wordsOf (trim value).toList

section Hyphens

variable {word slug : List Char} {words : List (List Char)}

theorem dropHyphens_append (first second : List Char) : dropHyphens (first ++ second) =
    if dropHyphens second = [] then dropHyphens first else first ++ dropHyphens second := by
  unfold dropHyphens List.rdropWhile
  rw [List.reverse_append, List.dropWhile_append]
  by_cases empty : second.reverse.dropWhile (· == '-') = []
  · simp [empty]
  · simp [empty]

theorem dropHyphens_of_last {last : Char} (visible : last ≠ '-') : dropHyphens (slug ++ [last]) = slug ++ [last] := by
  rw [dropHyphens, List.rdropWhile_concat_neg _ _ _ (by simpa using visible)]

theorem dropHyphens_word (whole : '-' ∉ word) : dropHyphens word = word := by
  induction word using List.reverseRecOn with
  | nil => rfl
  | append_singleton first last _ => exact dropHyphens_of_last fun same => whole (by simp [same])

theorem dropHyphens_hyphen (slug : List Char) : dropHyphens (slug ++ ['-']) = dropHyphens slug :=
  List.rdropWhile_concat_pos _ _ _ (by simp)

theorem joinWords_cons (nonempty : words ≠ []) : joinWords (word :: words) = word ++ '-' :: joinWords words := by
  cases words with
  | nil => exact absurd rfl nonempty
  | cons next rest =>
    rw [joinWords, List.intercalate_cons_cons]
    simp [joinWords]

/-- A slug that is cut somewhere still consists of words. -/
theorem cut_words (filled : ∀ word ∈ words, IsWord word) (count : Nat) :
    ∃ cut, (∀ word ∈ cut, IsWord word) ∧ dropHyphens ((joinWords words).take count) = joinWords cut := by
  have single (word : List Char) (whole : '-' ∉ word) (count : Nat) :
      ∃ cut, (∀ word ∈ cut, IsWord word) ∧ dropHyphens (word.take count) = joinWords cut := by
    have kept : '-' ∉ word.take count := fun inside => whole (List.mem_of_mem_take inside)
    by_cases empty : word.take count = []
    · exact ⟨[], by simp, by rw [empty]; rfl⟩
    · exact ⟨[word.take count], by simpa using ⟨empty, kept⟩, by rw [dropHyphens_word kept]; simp [joinWords]⟩
  induction words generalizing count with
  | nil => exact ⟨[], by simp, by simp [joinWords, dropHyphens]⟩
  | cons word rest ih =>
    obtain ⟨own, others⟩ := List.forall_mem_cons.mp filled
    by_cases alone : rest = []
    · subst alone
      have bare : joinWords [word] = word := by simp [joinWords]
      rw [bare]
      exact single word own.whole count
    · rw [joinWords_cons alone, List.take_append]
      by_cases short : count ≤ word.length
      · rw [Nat.sub_eq_zero_of_le short, List.take_zero, List.append_nil]
        exact single word own.whole count
      · obtain ⟨cut, cutFilled, same⟩ := ih others (count - word.length - 1)
        have further : count - word.length = (count - word.length - 1) + 1 := by omega
        rw [List.take_of_length_le (by omega), further, List.take_succ_cons, List.append_cons, dropHyphens_append, same]
        by_cases nothing : joinWords cut = []
        · rw [if_pos nothing, dropHyphens_hyphen, dropHyphens_word own.whole]
          exact ⟨[word], by simpa using own, by simp [joinWords]⟩
        · rw [if_neg nothing]
          have some : cut ≠ [] := by
            rintro rfl
            exact nothing rfl
          exact ⟨word :: cut, List.forall_mem_cons.mpr ⟨own, cutFilled⟩, by rw [joinWords_cons some]; simp⟩

end Hyphens

section Slugs

variable {character : Char} {characters : List Char}

theorem wordsOf_separator (other : character.isAlphanum = false) :
    wordsOf (character :: characters) = wordsOf characters := by
  rw [wordsOf, List.splitOnP_cons_eq_if_modifyHead, if_pos (by simp [other]), List.filter_cons_of_neg (by simp)]
  rfl

theorem wordsOf_letter (letter : character.isAlphanum = true) : wordsOf (character :: characters) =
    (character.toLower :: (characters.takeWhile Char.isAlphanum).map Char.toLower) ::
      wordsOf (characters.dropWhile Char.isAlphanum) := by
  have letters : ∀ item ∈ character :: characters.takeWhile Char.isAlphanum, (!item.isAlphanum) = false := by
    intro item inside
    rcases List.mem_cons.mp inside with rfl | later
    · simp [letter]
    · simp [List.mem_takeWhile_imp later]
  have split : (character :: characters) = (character :: characters.takeWhile Char.isAlphanum) ++
      characters.dropWhile Char.isAlphanum := by
    rw [List.cons_append, List.takeWhile_append_dropWhile]
  cases rest : characters.dropWhile Char.isAlphanum with
  | nil =>
    rw [rest, List.append_nil] at split
    rw [split, wordsOf, List.splitOnP_eq_singleton letters]
    rfl
  | cons separator later =>
    have other : separator.isAlphanum = false := by
      have stopped := List.head?_dropWhile_not Char.isAlphanum characters
      rw [rest] at stopped
      simpa using stopped
    rw [rest] at split
    rw [split, wordsOf, List.splitOnP_append_cons _ _ (by simp [other]), List.splitOnP_eq_singleton letters,
      wordsOf_separator other]
    rfl

theorem toLower_ne_hyphen (letter : character.isAlphanum = true) : character.toLower ≠ '-' := by
  cases upper : character.isUpper with
  | true =>
    intro same
    have lower := toLower_of_upper upper
    rw [same] at lower
    revert lower
    decide
  | false =>
    rw [toLower_of_not_upper upper]
    rintro rfl
    revert letter
    decide

/-- The loop between two words, and inside of one. -/
theorem foldl_slugStep (characters : List Char) :
    (∀ slug separated, slug = [] ∨ separated = true →
      dropHyphens (characters.foldl slugStep (slug, separated)).1 =
        if wordsOf characters = [] then dropHyphens slug else slug ++ joinWords (wordsOf characters)) ∧
    ∀ slug last, last ≠ '-' → dropHyphens (characters.foldl slugStep (slug ++ [last], false)).1 =
      slug ++ last :: (characters.takeWhile Char.isAlphanum).map Char.toLower ++
        (if wordsOf (characters.dropWhile Char.isAlphanum) = [] then []
          else '-' :: joinWords (wordsOf (characters.dropWhile Char.isAlphanum))) := by
  induction characters with
  | nil =>
    constructor
    · intro slug separated _
      rfl
    · intro slug last visible
      simpa [wordsOf] using dropHyphens_of_last visible
  | cons character rest ih =>
    obtain ⟨between, inside⟩ := ih
    cases letter : character.isAlphanum with
    | true =>
      have visible := toLower_ne_hyphen letter
      constructor
      · intro slug separated fresh
        have step : slugStep (slug, separated) character = (slug ++ [character.toLower], false) := by
          rw [slugStep, if_pos letter]
        rw [List.foldl_cons, step, inside slug _ visible, wordsOf_letter letter, if_neg (List.cons_ne_nil _ _)]
        by_cases nothing : wordsOf (rest.dropWhile Char.isAlphanum) = []
        · rw [if_pos nothing, nothing]
          simp [joinWords]
        · rw [if_neg nothing, joinWords_cons nothing]
          simp
      · intro slug last lastVisible
        have step : slugStep (slug ++ [last], false) character = (slug ++ [last] ++ [character.toLower], false) := by
          rw [slugStep, if_pos letter]
        rw [List.foldl_cons, step, inside (slug ++ [last]) _ visible, List.takeWhile_cons_of_pos letter,
          List.dropWhile_cons_of_pos letter]
        simp
    | false =>
      constructor
      · intro slug separated fresh
        have step : slugStep (slug, separated) character = (slug, separated) := by
          rw [slugStep, if_neg (by simp [letter]), if_neg (by rcases fresh with empty | separated <;> simp [*])]
        rw [List.foldl_cons, step, between slug separated fresh, wordsOf_separator letter]
      · intro slug last lastVisible
        have step : slugStep (slug ++ [last], false) character = (slug ++ [last] ++ ['-'], true) := by
          rw [slugStep, if_neg (by simp [letter]), if_pos (by simp)]
        rw [List.foldl_cons, step, between _ true (.inr rfl), dropHyphens_hyphen, dropHyphens_of_last lastVisible,
          List.takeWhile_cons_of_neg (by simp [letter]), List.dropWhile_cons_of_neg (by simp [letter]),
          wordsOf_separator letter]
        by_cases nothing : wordsOf rest = []
        · simp [nothing]
        · simp [nothing]

end Slugs

section Spelling

variable (sha256 : Sha256)

/-- The words that stand for an id in a key: its own, or if it has none the digits of its
digest, or if they are too many the first ones and the digits. -/
def spelledId (value : String) : List (List Char) :=
  let words := idWords value
  if words = [] then ["ref".toList, sha256.prefixDigits value]
  else if 64 < (joinWords words).length then
    (dropHyphens ((joinWords words).take 48)).splitOn '-' ++ [sha256.prefixDigits value]
  else words

/-- The words of both ids, with the word dataset between them. -/
def spelled (ids : ExternalIds) : List (List Char) :=
  spelledId sha256 ids.sourceId ++ match ids.datasetExternalId with
    | some datasetExternalId => "dataset".toList :: spelledId sha256 datasetExternalId
    | none => []

variable {sha256} {value : String} {word : List Char}

theorem prefixDigits_length (value : String) : (sha256.prefixDigits value).length = 12 := by
  have digits : ∀ bytes : List UInt8, (bytes.flatMap hexByte).length = 2 * bytes.length := by
    intro bytes
    induction bytes with
    | nil => rfl
    | cons byte rest ih =>
      rw [List.flatMap_cons, List.length_append, ih, List.length_cons]
      have two : (hexByte byte).length = 2 := rfl
      omega
  rw [Sha256.prefixDigits, hex, String.toList_ofList, List.length_take, digits, sha256.width]
  decide

theorem prefixDigits_word (value : String) : IsWord (sha256.prefixDigits value) where
  nonempty := by
    intro empty
    have twelve : (sha256.prefixDigits value).length = 12 := prefixDigits_length value
    rw [empty] at twelve
    cases twelve
  whole := by
    intro inside
    have within := List.mem_of_mem_take inside
    rw [hex, String.toList_ofList, List.mem_flatMap] at within
    obtain ⟨byte, _, digit⟩ := within
    obtain ⟨digit, same⟩ := mem_hexByte digit
    revert digit
    decide

theorem wordsOf_word (characters : List Char) : ∀ word ∈ wordsOf characters, IsWord word := by
  intro word inside
  obtain ⟨run, listed, rfl⟩ := List.mem_map.mp inside
  obtain ⟨piece, nonempty⟩ := List.mem_filter.mp listed
  refine ⟨by simpa using nonempty, fun hyphen => ?_⟩
  obtain ⟨character, within, lower⟩ := List.mem_map.mp hyphen
  have letter := (of_mem_splitOnP piece within).2
  exact toLower_ne_hyphen (by simpa using letter) lower

/-- The slug of an id is its words. -/
theorem slug_eq (value : String) :
    dropHyphens ((trim value).toList.foldl slugStep ([], false)).1 = joinWords (idWords value) := by
  have loop := (foldl_slugStep (trim value).toList).1 [] false (.inl rfl)
  rw [loop, idWords]
  by_cases nothing : wordsOf (trim value).toList = []
  · rw [if_pos nothing, nothing]
    rfl
  · rw [if_neg nothing, List.nil_append]

theorem joinWords_append {first second : List (List Char)} (some : first ≠ []) (more : second ≠ []) :
    joinWords (first ++ second) = joinWords first ++ '-' :: joinWords second := by
  induction first with
  | nil => exact absurd rfl some
  | cons word rest ih =>
    by_cases alone : rest = []
    · subst alone
      rw [List.singleton_append, joinWords_cons more]
      simp [joinWords]
    · rw [List.cons_append, joinWords_cons (by simp [alone]), ih alone, joinWords_cons alone]
      simp

theorem joinWords_ne_nil {words : List (List Char)} (filled : ∀ word ∈ words, IsWord word) (some : words ≠ []) :
    joinWords words ≠ [] :=
  intercalate_ne_nil some fun word inside => (filled word inside).nonempty

/-- A long slug is cut into words, and at least one is left. -/
theorem splitOn_cut {words : List (List Char)} (filled : ∀ word ∈ words, IsWord word) (some : words ≠ []) :
    (∀ word ∈ (dropHyphens ((joinWords words).take 48)).splitOn '-', IsWord word) ∧
      joinWords ((dropHyphens ((joinWords words).take 48)).splitOn '-') = dropHyphens ((joinWords words).take 48) := by
  refine ⟨?_, List.intercalate_splitOn _⟩
  obtain ⟨cut, cutFilled, same⟩ := cut_words filled 48
  rw [same]
  have left : cut ≠ [] := by
    intro nothing
    rw [nothing] at same
    obtain ⟨word, rest, rfl⟩ := List.exists_cons_of_ne_nil some
    obtain ⟨own, _⟩ := List.forall_mem_cons.mp filled
    obtain ⟨first, later, rfl⟩ := List.exists_cons_of_ne_nil own.nonempty
    have starts : ∃ more, joinWords ((first :: later) :: rest) = first :: more := by
      by_cases alone : rest = []
      · exact ⟨later, by simp [alone, joinWords]⟩
      · exact ⟨_, by rw [joinWords_cons alone, List.cons_append]⟩
    obtain ⟨more, begins⟩ := starts
    rw [begins, List.take_succ_cons] at same
    have hyphen := List.rdropWhile_eq_nil_iff.mp same first List.mem_cons_self
    exact own.whole (by rw [beq_iff_eq.mp hyphen]; exact List.mem_cons_self)
  have pieces : (joinWords cut).splitOn '-' = cut :=
    List.splitOn_intercalate '-' (fun word inside => (cutFilled word inside).whole) left
  rwa [pieces]

theorem spelledId_word (value : String) : ∀ word ∈ spelledId sha256 value, IsWord word := by
  unfold spelledId
  simp only
  split
  · exact List.forall_mem_cons.mpr ⟨⟨by decide, by decide⟩, List.forall_mem_singleton.mpr (prefixDigits_word value)⟩
  · rename_i some
    split
    · exact List.forall_mem_append.mpr ⟨(splitOn_cut (wordsOf_word _) some).1,
        List.forall_mem_singleton.mpr (prefixDigits_word value)⟩
    · exact wordsOf_word _

theorem spelledId_ne_nil (value : String) : spelledId sha256 value ≠ [] := by
  unfold spelledId
  simp only
  split
  · simp
  · split
    · simp
    · assumption

/-- The slug of an id spells its words. -/
theorem component_eq (value : String) :
    externalDocumentParseDatasetKeyComponent sha256 value = joinWords (spelledId sha256 value) := by
  have filled : ∀ word ∈ idWords value, IsWord word := wordsOf_word _
  rw [externalDocumentParseDatasetKeyComponent, slug_eq]
  unfold spelledId
  simp only
  by_cases nothing : idWords value = []
  · rw [if_pos (by rw [nothing]; rfl), if_pos nothing, joinWords_cons (by simp)]
    simp [joinWords]
  · rw [if_neg (joinWords_ne_nil filled nothing), if_neg nothing]
    split
    · obtain ⟨_, whole⟩ := splitOn_cut filled nothing
      rw [joinWords_append (by simp [List.splitOn, List.splitOnP_ne_nil]) (by simp), whole]
      simp [joinWords]
    · rfl

theorem spelled_word (ids : ExternalIds) : ∀ word ∈ spelled sha256 ids, IsWord word := by
  refine List.forall_mem_append.mpr ⟨spelledId_word _, ?_⟩
  cases ids.datasetExternalId with
  | none => simp
  | some datasetExternalId =>
    exact List.forall_mem_cons.mpr ⟨⟨by decide, by decide⟩, spelledId_word _⟩

theorem rawKey_eq (ids : ExternalIds) :
    rawKey sha256 ids = "external-source-".toList ++ joinWords (spelled sha256 ids) := by
  rw [rawKey, spelled]
  simp only [component_eq]
  cases ids.datasetExternalId with
  | none => simp
  | some datasetExternalId =>
    rw [joinWords_append (spelledId_ne_nil _) (by simp), joinWords_cons (spelledId_ne_nil _)]
    simp

/-- Keys before they are shortened are equal when they spell the same words. -/
theorem rawKey_eq_iff (first second : ExternalIds) :
    rawKey sha256 first = rawKey sha256 second ↔ spelled sha256 first = spelled sha256 second := by
  rw [rawKey_eq, rawKey_eq]
  constructor
  · intro same
    have both (ids : ExternalIds) : ∀ word ∈ spelled sha256 ids, word ≠ [] ∧ '-' ∉ word :=
      fun word inside => ⟨(spelled_word ids word inside).nonempty, (spelled_word ids word inside).whole⟩
    exact intercalate_injective (both first) (both second) (List.append_cancel_left same)
  · intro same
    rw [same]

end Spelling

section Shortening

variable (sha256 : Sha256)

/-- The key that spells the words, before it is shortened. -/
def keyText (words : List (List Char)) : List Char := "external-source-".toList ++ joinWords words

/-- The words of a key of at most 128 characters are those that a longer key is shortened to. -/
structure Shortens (short long : ExternalIds) : Prop where
  fits : (keyText (spelled sha256 short)).length ≤ 128
  exceeds : 128 < (keyText (spelled sha256 long)).length
  ending : keyText (spelled sha256 short) = dropHyphens ((keyText (spelled sha256 long)).take 112) ++
    '-' :: sha256.prefixDigits (.ofList (keyText (spelled sha256 long)))

/-- The ids name the same source and the same dataset. -/
structure SameIds (first second : ExternalIds) : Prop where
  source : trim first.sourceId = trim second.sourceId
  dataset : first.datasetExternalId.map trim = second.datasetExternalId.map trim

/-- Only the same ids share a key, and no dataset that was made for other ones is accepted for it. -/
structure KeptApart (first second : ExternalIds) : Prop where
  keys : externalDocumentParseDatasetKey sha256 first = externalDocumentParseDatasetKey sha256 second →
    SameIds first second
  datasets : ∀ (dataset : Dataset) (datasetExternalId : String), first.datasetExternalId = some datasetExternalId →
    dataset.key = externalDocumentParseDatasetKey sha256 second →
      matchesByKey sha256 dataset first.sourceId datasetExternalId = true → SameIds first second

variable {sha256} {first second : ExternalIds}

theorem key_eq_compact (ids : ExternalIds) : externalDocumentParseDatasetKey sha256 ids =
    .ofList (compactExternalDocumentParseDatasetKey sha256 (keyText (spelled sha256 ids))) := by
  rw [externalDocumentParseDatasetKey, rawKey_eq]
  rfl

theorem keyText_injective (same : keyText (spelled sha256 first) = keyText (spelled sha256 second)) :
    spelled sha256 first = spelled sha256 second := by
  refine (rawKey_eq_iff first second).mp ?_
  rw [rawKey_eq, rawKey_eq]
  exact same

/-- Two ids share a key when they spell the same words or one key is the other one shortened. -/
theorem key_eq_iff
    (free : sha256.prefixDigits (.ofList (keyText (spelled sha256 first))) =
      sha256.prefixDigits (.ofList (keyText (spelled sha256 second))) →
        keyText (spelled sha256 first) = keyText (spelled sha256 second)) :
    externalDocumentParseDatasetKey sha256 first = externalDocumentParseDatasetKey sha256 second ↔
      spelled sha256 first = spelled sha256 second ∨ Shortens sha256 first second ∨ Shortens sha256 second first := by
  rw [key_eq_compact, key_eq_compact, String.ofList_inj]
  unfold compactExternalDocumentParseDatasetKey
  constructor
  · intro same
    by_cases firstFits : (keyText (spelled sha256 first)).length ≤ 128
    · rw [if_pos firstFits] at same
      by_cases secondFits : (keyText (spelled sha256 second)).length ≤ 128
      · rw [if_pos secondFits] at same
        exact .inl (keyText_injective same)
      · rw [if_neg secondFits] at same
        exact .inr (.inl ⟨firstFits, Nat.lt_of_not_le secondFits, same⟩)
    · rw [if_neg firstFits] at same
      by_cases secondFits : (keyText (spelled sha256 second)).length ≤ 128
      · rw [if_pos secondFits] at same
        exact .inr (.inr ⟨secondFits, Nat.lt_of_not_le firstFits, same.symm⟩)
      · -- Both end with the digits of the whole text.
        rw [if_neg secondFits] at same
        obtain ⟨_, ending⟩ := List.append_inj' same (by simp [prefixDigits_length])
        exact .inl (keyText_injective (free (List.cons.inj ending).2))
  · intro shared
    rcases shared with same | ⟨fits, exceeds, ending⟩ | ⟨fits, exceeds, ending⟩
    · rw [same]
    · rw [if_pos fits, if_neg (Nat.not_le.mpr exceeds), ending]
    · rw [if_pos fits, if_neg (Nat.not_le.mpr exceeds), ending]

/-- A dataset with the key of the second ids is accepted for the first ones only if they share it. -/
theorem keptApart_iff : KeptApart sha256 first second ↔
    (externalDocumentParseDatasetKey sha256 first = externalDocumentParseDatasetKey sha256 second →
      SameIds first second) := by
  constructor
  · intro apart
    exact apart.keys
  · intro keys
    refine ⟨keys, fun dataset datasetExternalId present made accepted => keys ?_⟩
    have same : first = ⟨first.sourceId, some datasetExternalId⟩ := by rw [← present]
    rw [matchesByKey, Bool.and_eq_true, decide_eq_true_eq, decide_eq_true_eq] at accepted
    rw [same, ← accepted.2, made]

/-- External datasets are kept apart when their ids spell different words, and no key of at
most 128 characters is what the other key is shortened to. -/
theorem datasets_kept_apart_iff (first second : ExternalIds)
    (free : sha256.prefixDigits (.ofList (keyText (spelled sha256 first))) =
      sha256.prefixDigits (.ofList (keyText (spelled sha256 second))) →
        keyText (spelled sha256 first) = keyText (spelled sha256 second)) :
    KeptApart sha256 first second ↔ SameIds first second ∨ (spelled sha256 first ≠ spelled sha256 second ∧
      ¬ Shortens sha256 first second ∧ ¬ Shortens sha256 second first) := by
  rw [keptApart_iff, key_eq_iff free, imp_iff_or_not, not_or, not_or]

/-- The digests of the keys that the source erp has for its datasets a and b. -/
def erpSha256 : Sha256 where
  digest text :=
    if text = "external-source-erp-dataset-a" then
      [183, 1, 114, 170, 140, 67, 158, 13, 80, 157, 198, 65, 60, 96, 19, 41,
        100, 105, 79, 200, 160, 201, 211, 191, 52, 106, 95, 16, 63, 9, 114, 182]
    else if text = "external-source-erp-dataset-b" then
      [26, 38, 196, 28, 178, 48, 85, 237, 223, 33, 55, 168, 234, 106, 160, 23,
        77, 158, 181, 107, 71, 242, 113, 74, 138, 163, 105, 148, 43, 120, 123, 120]
    else .replicate 32 0
  width text := by
    split
    · rfl
    · split <;> rfl

theorem erp_datasets_kept_apart : KeptApart erpSha256 ⟨"erp", some "a"⟩ ⟨"erp", some "b"⟩ := by
  have firstWords : spelled erpSha256 ⟨"erp", some "a"⟩ = ["erp".toList, "dataset".toList, "a".toList] := by decide
  have secondWords : spelled erpSha256 ⟨"erp", some "b"⟩ = ["erp".toList, "dataset".toList, "b".toList] := by decide
  refine (@datasets_kept_apart_iff erpSha256 _ _ ?_).mpr (.inr ⟨?_, ?_, ?_⟩)
  · rw [firstWords, secondWords]
    decide
  · rw [firstWords, secondWords]
    decide
  · intro shortened
    have exceeds := shortened.exceeds
    rw [secondWords] at exceeds
    revert exceeds
    decide
  · intro shortened
    have exceeds := shortened.exceeds
    rw [firstWords] at exceeds
    revert exceeds
    decide

/-- Ids that differ in case or punctuation only share a key. -/
theorem punctuated_datasets_share_key :
    ¬ KeptApart erpSha256 ⟨"erp", some "Site-1"⟩ ⟨"erp", some "site_1"⟩ := by
  intro apart
  have words (datasetExternalId : String) (own : idWords datasetExternalId = ["site".toList, "1".toList]) :
      spelled erpSha256 ⟨"erp", some datasetExternalId⟩ =
        spelledId erpSha256 "erp" ++ ["dataset".toList, "site".toList, "1".toList] := by
    rw [spelled]
    simp only [spelledId, own]
    rfl
  have shared : externalDocumentParseDatasetKey erpSha256 ⟨"erp", some "Site-1"⟩ =
      externalDocumentParseDatasetKey erpSha256 ⟨"erp", some "site_1"⟩ := by
    rw [key_eq_compact, key_eq_compact, words "Site-1" (by decide), words "site_1" (by decide)]
  have same := (apart.keys shared).dataset
  revert same
  decide

end Shortening

end DataMax.ExternalDocument
