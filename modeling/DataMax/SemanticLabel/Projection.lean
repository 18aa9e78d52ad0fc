import DataMax.SemanticLabel.Aliases

/-! The projection of a business label read once more: which of the labels that it
gives are business labels themselves. -/

namespace DataMax.SemanticLabel

open Domain

/-- The characters of a label that are shown: the Chinese ones but for the counting
word of a number. -/
def keptCharacters (text : String) : List Char :=
  keptAfter none text.toList
where
  keptAfter (previous : Option Char) (characters : List Char) : List Char :=
    ((characters.zip (previous :: characters.map some)).filter fun pair =>
      isHanCharacter pair.1 && !(pair.1 == '个' && pair.2.any Char.isDigit)).map (·.1)

def keptText (text : String) : String := .ofList (keptCharacters text)

def placeholders : List String := [safeGenericFieldLabel, safeGenericObjectLabel, "表格数据", "待解释内容"]

/-- The kept characters say what the label did not: a placeholder or an instruction. -/
def Relapses (classes : CharClasses) (text : String) : Prop :=
  (classifySemanticPrimaryLabel classes text).chineseBusinessLabel ∧ 2 ≤ (keptCharacters text).length ∧
    (keptText text ∈ placeholders ∨ looksLikeOperationalInstruction (keptText text) (keptText text))

/-- Too few characters of a Chinese label are kept. -/
def Vanishes (classes : CharClasses) (text : String) : Prop :=
  (classifySemanticPrimaryLabel classes text).chineseBusinessLabel ∧ (keptCharacters text).length < 2

instance (classes : CharClasses) (text : String) : Decidable (Relapses classes text) :=
  inferInstanceAs (Decidable (_ ∧ _ ∧ _))

instance (classes : CharClasses) (text : String) : Decidable (Vanishes classes text) :=
  inferInstanceAs (Decidable (_ ∧ _))

/-- A text that is shown as it is. -/
def PassesGate (classes : CharClasses) (shown : String) : Prop :=
  (classifySemanticPrimaryLabel classes shown).businessLabel ∧ safeSemanticBusinessLabel classes shown = some shown

section HanText

variable {character : Char} {text : String} {classes : CharClasses}

theorem isHanCharacter_code (han : isHanCharacter character) : 0x3400 ≤ character.toNat ∧ character.toNat ≤ 0x9fff := by
  simp only [isHanCharacter, Bool.or_eq_true, Bool.and_eq_true, decide_eq_true_eq] at han
  omega

theorem not_alphanum_wide (wide : 0x80 ≤ character.toNat) : character.isAlphanum = false := by
  by_contra alphanumeric
  have code := alphanum_code (Bool.not_eq_false _ ▸ alphanumeric)
  omega

theorem not_alpha_wide (wide : 0x80 ≤ character.toNat) : character.isAlpha = false :=
  (Bool.or_eq_false_iff.mp (not_alphanum_wide wide)).1

theorem not_digit_han (han : isHanCharacter character) : character.isDigit = false := by
  have code := isHanCharacter_code han
  have outside : character.isAlphanum = false := not_alphanum_wide (by omega)
  exact (Bool.or_eq_false_iff.mp outside).2

theorem visible_han (han : isHanCharacter character) : isWhitespace character = false := by
  by_contra blank
  have code := isHanCharacter_code han
  simp only [isWhitespace, Bool.not_eq_false, Bool.or_eq_true, Bool.and_eq_true, decide_eq_true_eq,
    beq_iff_eq] at blank
  omega

theorem digit_code (digit : character.isDigit) : 0x30 ≤ character.toNat ∧ character.toNat ≤ 0x39 := by
  delta Char.isDigit at digit
  simp only [Bool.and_eq_true, decide_eq_true_eq, UInt32.le_iff_toNat_le, ge_iff_le] at digit
  exact digit

theorem blank_kind (blank : isWhitespace character) :
    isHanCharacter character = false ∧ character.isDigit = false := by
  constructor
  · by_contra han
    rw [visible_han (Bool.not_eq_false _ ▸ han)] at blank
    cases blank
  · by_contra digit
    have code := digit_code (Bool.not_eq_false _ ▸ digit)
    simp only [isWhitespace, Bool.or_eq_true, Bool.and_eq_true, decide_eq_true_eq, beq_iff_eq] at blank
    omega

theorem utf8EncodeChar_wide (wide : 0x80 ≤ character.toNat) :
    ∀ byte ∈ String.utf8EncodeChar character, 0x80 ≤ byte.toNat := by
  have code : ¬ character.val.toNat ≤ 127 := by
    change ¬ character.toNat ≤ 127
    omega
  unfold String.utf8EncodeChar
  simp only [code, if_false]
  split
  · simp [UInt8.toNat_ofNat']
    omega
  · split
    · simp [UInt8.toNat_ofNat']
      omega
    · simp [UInt8.toNat_ofNat']
      omega

theorem utf8_wide (wide : ∀ character ∈ text.toList, 0x80 ≤ character.toNat) :
    ∀ byte ∈ utf8 text, 0x80 ≤ byte.toNat := by
  intro byte inside
  have encoded : utf8 text = text.toList.flatMap String.utf8EncodeChar := by
    rw [utf8, String.toUTF8, ← String.utf8Encode_toList, List.utf8Encode, List.toList_data_toByteArray]
  rw [encoded] at inside
  obtain ⟨character, placed, produced⟩ := List.mem_flatMap.mp inside
  exact utf8EncodeChar_wide (wide character placed) byte produced

variable (han : ∀ character ∈ text.toList, isHanCharacter character)

include han in
theorem asciiLower_han : asciiLower text = text := by
  apply String.toList_inj.mp
  rw [asciiLower, String.toList_map]
  calc text.toList.map Char.toLower = text.toList.map id := List.map_congr_left fun character inside =>
        (toLower_of_not_alpha (not_alpha_wide (by have := isHanCharacter_code (han character inside); omega))).1
    _ = text.toList := List.map_id _

include han in
/-- Nothing with another character occurs in the text. -/
theorem not_infix_han {part : List Char} (foreign : part.any (!isHanCharacter ·)) : ¬ part <:+: text.toList := by
  intro occurs
  obtain ⟨character, inside, other⟩ := List.any_eq_true.mp foreign
  simp [han character (occurs.subset inside)] at other

include han in
theorem not_contains_han {part : String} (foreign : part.toList.any (!isHanCharacter ·)) : contains text part = false :=
  Bool.eq_false_iff.mpr fun found => not_infix_han han foreign (contains_iff.mp found)

include han in
theorem not_containsAny_han {parts : List String}
    (foreign : parts.all fun part => part.toList.any (!isHanCharacter ·)) : containsAny text parts = false := by
  rw [containsAny, List.any_eq_false]
  intro part listed
  simp [not_contains_han han (List.all_eq_true.mp foreign part listed)]

include han in
theorem not_startsWith_han {part : String} (foreign : part.toList.any (!isHanCharacter ·)) :
    startsWith text part = false := by
  rw [Bool.eq_false_iff, startsWith, ne_eq, List.isPrefixOf_iff_prefix]
  exact fun found => not_infix_han han foreign found.isInfix

include han in
theorem not_startsWithAny_han {parts : List String}
    (foreign : parts.all fun part => part.toList.any (!isHanCharacter ·)) : startsWithAny text parts = false := by
  rw [startsWithAny, List.any_eq_false]
  intro part listed
  simp [not_startsWith_han han (List.all_eq_true.mp foreign part listed)]

include han in
theorem trimStart_han : trimStart text = text := by
  apply String.toList_inj.mp
  rw [trimStart, String.toList_ofList, List.dropWhile_eq_self_iff]
  intro nonempty
  simp [visible_han (han _ (List.getElem_mem nonempty))]

include han in
theorem not_drive_han : looksLikeDrive text = false := by
  rw [looksLikeDrive, Bool.and_eq_false_iff]
  left
  rw [beq_eq_false_iff_ne, ne_eq]
  intro colon
  have wide := utf8_wide (fun character inside => by have := isHanCharacter_code (han character inside); omega)
    _ (List.mem_of_getElem? colon)
  exact absurd wide (by decide)

include han in
theorem filter_han {kind : Char → Bool} (other : ∀ character, isHanCharacter character → kind character = false) :
    text.toList.filter kind = [] := by
  rw [List.filter_eq_nil_iff]
  intro character inside
  simp [other character (han character inside)]

include han in
/-- The class of a Chinese text without other characters. -/
theorem classify_han (long : 2 ≤ text.toList.length) :
    classifySemanticPrimaryLabel classes text =
      if text ∈ placeholders then .new .safeGenericFallback false true
      else if looksLikeOperationalInstruction text text then .new .operationalInstruction false false
      else .new .business true true := by
  have whole : trim text = text := trim_eq_self fun character inside => visible_han (han character inside)
  have nonempty : text ≠ "" := by
    rintro rfl
    simp at long
  have counted : (text.toList.filter isHanCharacter).length = text.toList.length := by
    rw [List.filter_eq_self.mpr han]
  have digitless : text.toList.filter Char.isDigit = [] := filter_han han fun _ => not_digit_han
  have sql : looksLikeSqlOrMime text = false := by
    simp (disch := decide) only [looksLikeSqlOrMime, trimStart_han han, not_startsWithAny_han han, not_contains_han han,
      not_startsWith_han han, not_containsAny_han han, Bool.false_and, Bool.or_false]
  have row : looksLikeRawRow text = false := by
    have tabless : text.toList.contains '\t' = false := by
      rw [Bool.eq_false_iff, ne_eq, List.contains_iff_mem]
      exact fun inside => absurd (han _ inside) (by decide)
    have separators : text.toList.filter (fun character => [',', '，', ';', '；', '|'].contains character) = [] := by
      apply filter_han han
      intro character other
      rw [Bool.eq_false_iff, ne_eq, List.contains_iff_mem]
      intro listed
      exact absurd (List.all_eq_true.mp (by decide : [',', '，', ';', '；', '|'].all (!isHanCharacter ·) = true)
        character listed) (by simp [other])
    rw [looksLikeRawRow, tabless, separators]
    rfl
  have strategy : looksLikeStrategy text = false := not_containsAny_han han (by decide)
  have path : looksLikePathOrConnection text text = false := by
    simp (disch := decide) only [looksLikePathOrConnection, not_containsAny_han han, not_drive_han han,
      not_startsWith_han han, not_startsWithAny_han han, Bool.or_false]
  have numeric : looksLikeNumericIdentifier classes text = false := by
    simp [looksLikeNumericIdentifier, whole, digitless]
  have few : ¬ text.toList.length < 2 := Nat.not_lt.mpr long
  rw [classifySemanticPrimaryLabel]
  simp only [whole, asciiLower_han han, nonempty, counted, sql, row, strategy, path, numeric, long, few,
    if_true, if_false, decide_false, Bool.and_false, Bool.false_eq_true]
  rfl

end HanText

section Kept

open safeSemanticBusinessLabel (dropCounted dropNumber)
open keptCharacters (keptAfter)

variable {character : Char} {previous : Option Char} {classes : CharClasses} {value : String}

theorem keptAfter_cons (previous : Option Char) (character : Char) (rest : List Char) :
    keptAfter previous (character :: rest) =
      if isHanCharacter character && !(character == '个' && previous.any Char.isDigit) then
        character :: keptAfter (some character) rest
      else keptAfter (some character) rest := by
  rw [keptAfter, List.map_cons, List.zip_cons_cons, List.filter_cons]
  split
  · rfl
  · rfl

/-- The scan over the digits keeps the characters by the one before them. -/
theorem drop_eq_keptAfter (characters : List Char) :
    (∀ previous : Option Char, previous.any Char.isDigit = false →
      dropCounted characters = keptAfter previous characters) ∧
      ∀ digit : Char, digit.isDigit → dropNumber characters = keptAfter (some digit) characters := by
  induction characters with
  | nil => exact ⟨fun _ _ => rfl, fun _ _ => rfl⟩
  | cons head rest ih =>
    have afterHead : head.isDigit = false → dropCounted rest = keptAfter (some head) rest := ih.1 (some head)
    constructor
    · intro previous other
      rw [dropCounted, keptAfter_cons, other, Bool.and_false, Bool.not_false, Bool.and_true]
      by_cases han : isHanCharacter head
      · rw [if_pos han, if_pos han, afterHead (not_digit_han han)]
      · rw [if_neg han, if_neg han]
        cases digit : head.isDigit with
        | true => exact ih.2 head digit
        | false => exact afterHead digit
    · intro previous counted
      rw [dropNumber, keptAfter_cons, Option.any_some, counted, Bool.and_true]
      cases digit : head.isDigit with
      | true =>
        have other : ¬ isHanCharacter head := fun han => by simp [not_digit_han han] at digit
        simp only [if_true, other, Bool.false_and, Bool.false_eq_true, if_false]
        exact ih.2 head digit
      | false =>
        by_cases counting : head = '个'
        · simp [counting, ih.1 (some '个') (by decide)]
        · simp [counting, afterHead digit]

theorem dropCounted_eq (characters : List Char) : dropCounted characters = keptAfter none characters :=
  (drop_eq_keptAfter characters).1 none rfl

theorem dropCounted_han {characters : List Char} (inside : character ∈ dropCounted characters) :
    isHanCharacter character := by
  rw [dropCounted_eq, keptAfter] at inside
  obtain ⟨pair, listed, rfl⟩ := List.mem_map.mp inside
  have kept := (List.mem_filter.mp listed).2
  exact (Bool.and_eq_true_iff.mp kept).1

theorem dropCounted_subset (characters : List Char) : dropCounted characters ⊆ characters := by
  intro character inside
  rw [dropCounted_eq, keptAfter] at inside
  obtain ⟨pair, listed, rfl⟩ := List.mem_map.mp inside
  exact (List.of_mem_zip (List.mem_filter.mp listed).1).1

theorem keptCharacters_han {text : String} (inside : character ∈ (keptText text).toList) :
    isHanCharacter character := by
  rw [keptText, String.toList_ofList, keptCharacters, ← dropCounted_eq] at inside
  exact dropCounted_han inside

/-- Nothing of a Chinese text without digits is dropped. -/
theorem keptCharacters_self {text : String} (han : ∀ character ∈ text.toList, isHanCharacter character) :
    keptCharacters text = text.toList := by
  have all : ∀ characters : List Char, (∀ character ∈ characters, isHanCharacter character) →
      dropCounted characters = characters := by
    intro characters chinese
    induction characters with
    | nil => rfl
    | cons head rest ih =>
      rw [dropCounted, if_pos (chinese head List.mem_cons_self),
        ih fun character inside => chinese character (List.mem_cons_of_mem _ inside)]
  rw [keptCharacters, ← dropCounted_eq, all _ han]

theorem drop_append_blank {ending : List Char} (blank : ∀ character ∈ ending, isWhitespace character)
    (characters : List Char) :
    dropCounted (characters ++ ending) = dropCounted characters ∧
      dropNumber (characters ++ ending) = dropNumber characters := by
  have dropped : ∀ ending : List Char, (∀ character ∈ ending, isWhitespace character) →
      dropCounted ending = [] ∧ dropNumber ending = [] := by
    intro ending blank
    induction ending with
    | nil => exact ⟨rfl, rfl⟩
    | cons head rest ih =>
      have empty := (ih fun character inside => blank character (List.mem_cons_of_mem _ inside)).1
      obtain ⟨foreign, digitless⟩ := blank_kind (blank head List.mem_cons_self)
      have counting : head ≠ '个' := by
        rintro rfl
        exact absurd foreign (by decide)
      simp [dropCounted, dropNumber, foreign, digitless, counting, empty]
  induction characters with
  | nil => exact dropped ending blank
  | cons head rest ih => simp only [List.cons_append, dropCounted, dropNumber, ih.1, ih.2, and_self]

theorem dropCounted_dropWhile (characters : List Char) :
    dropCounted (characters.dropWhile isWhitespace) = dropCounted characters := by
  induction characters with
  | nil => rfl
  | cons head rest ih =>
    cases blank : isWhitespace head with
    | true =>
      obtain ⟨foreign, digitless⟩ := blank_kind blank
      rw [List.dropWhile_cons_of_pos blank, ih]
      simp [dropCounted, foreign, digitless]
    | false => rw [List.dropWhile_cons_of_neg (by simp [blank])]

theorem keptCharacters_trim (text : String) : keptCharacters (trim text) = keptCharacters text := by
  let started := text.toList.dropWhile isWhitespace
  let ending := (started.reverse.takeWhile isWhitespace).reverse
  have whole : (trim text).toList ++ ending = started := by
    rw [trim, String.toList_ofList, ← List.reverse_append, List.takeWhile_append_dropWhile, List.reverse_reverse]
  have blank : ∀ character ∈ ending, isWhitespace character := by
    intro character inside
    exact List.mem_takeWhile_imp (List.mem_reverse.mp inside)
  calc keptCharacters (trim text) = dropCounted (trim text).toList := (dropCounted_eq _).symm
    _ = dropCounted started := by rw [← whole, (drop_append_blank blank _).1]
    _ = dropCounted text.toList := dropCounted_dropWhile _
    _ = keptCharacters text := dropCounted_eq _

/-- A Chinese business label is a business label. -/
def SemanticPrimaryLabelQuality.Graded (quality : SemanticPrimaryLabelQuality) : Prop :=
  quality.chineseBusinessLabel → quality.businessLabel

theorem new_graded (labelClass : SemanticPrimaryLabelClass) (business chinese : Bool) :
    (SemanticPrimaryLabelQuality.new labelClass business chinese).Graded :=
  fun both => (Bool.and_eq_true_iff.mp both).1

theorem ite_graded {condition : Prop} [Decidable condition] {first second : SemanticPrimaryLabelQuality}
    (firstGraded : first.Graded) (secondGraded : second.Graded) : (if condition then first else second).Graded := by
  split
  · exact firstGraded
  · exact secondGraded

theorem classify_graded : (classifySemanticPrimaryLabel classes value).Graded := by
  rw [classifySemanticPrimaryLabel]
  iterate 11 refine ite_graded (new_graded _ _ _) ?_
  exact new_graded _ _ _

theorem safeSemanticBusinessLabel_chinese
    (chinese : (classifySemanticPrimaryLabel classes value).chineseBusinessLabel) :
    safeSemanticBusinessLabel classes value =
      if 2 ≤ (keptCharacters value).length then some (keptText value) else none := by
  simp only [safeSemanticBusinessLabel, classify_graded chinese, chinese, Bool.not_true, Bool.false_eq_true, if_false,
    dropCounted_eq, keptText, keptCharacters]
  rfl

theorem safeSemanticBusinessLabel_english (business : (classifySemanticPrimaryLabel classes value).businessLabel)
    (english : (classifySemanticPrimaryLabel classes value).chineseBusinessLabel = false) :
    safeSemanticBusinessLabel classes value = some (trim value) := by
  simp only [safeSemanticBusinessLabel, business, english, Bool.not_true, Bool.not_false, Bool.false_eq_true,
    if_false, if_true]

theorem classify_trim (value : String) :
    classifySemanticPrimaryLabel classes (trim value) = classifySemanticPrimaryLabel classes value := by
  rw [classifySemanticPrimaryLabel, trim_trim, classifySemanticPrimaryLabel]

end Kept

section Stability

variable {classes : CharClasses} {value : String}

theorem passesGate_english (business : (classifySemanticPrimaryLabel classes value).businessLabel)
    (english : (classifySemanticPrimaryLabel classes value).chineseBusinessLabel = false) :
    PassesGate classes (trim value) := by
  have passes : (classifySemanticPrimaryLabel classes (trim value)).businessLabel := by
    rw [classify_trim]
    exact business
  have stays : (classifySemanticPrimaryLabel classes (trim value)).chineseBusinessLabel = false := by
    rw [classify_trim]
    exact english
  exact ⟨passes, by rw [safeSemanticBusinessLabel_english passes stays, trim_trim]⟩

theorem keptText_business_iff (chinese : (classifySemanticPrimaryLabel classes value).chineseBusinessLabel)
    (long : 2 ≤ (keptCharacters value).length) :
    (classifySemanticPrimaryLabel classes (keptText value)).businessLabel ↔ ¬ Relapses classes value := by
  rw [classify_han (fun _ => keptCharacters_han) (by rwa [keptText, String.toList_ofList])]
  by_cases placeholder : keptText value ∈ placeholders
  · rw [if_pos placeholder]
    exact iff_of_false (by simp [SemanticPrimaryLabelQuality.new]) fun stays => stays ⟨chinese, long, .inl placeholder⟩
  · rw [if_neg placeholder]
    by_cases instruction : looksLikeOperationalInstruction (keptText value) (keptText value)
    · rw [if_pos instruction]
      exact iff_of_false (by simp [SemanticPrimaryLabelQuality.new]) fun stays => stays ⟨chinese, long, .inr instruction⟩
    · rw [if_neg instruction]
      exact iff_of_true rfl fun relapsed => relapsed.2.2.elim placeholder instruction

/-- What the projection keeps is projected to itself. -/
theorem keptText_stays (long : 2 ≤ (keptCharacters value).length)
    (business : (classifySemanticPrimaryLabel classes (keptText value)).businessLabel) :
    safeSemanticBusinessLabel classes (keptText value) = some (keptText value) := by
  have han : ∀ character ∈ (keptText value).toList, isHanCharacter character := fun _ => keptCharacters_han
  have whole : keptCharacters (keptText value) = keptCharacters value := by
    rw [keptCharacters_self han, keptText, String.toList_ofList]
  have chinese : (classifySemanticPrimaryLabel classes (keptText value)).chineseBusinessLabel := by
    revert business
    rw [classify_han han (by rwa [keptText, String.toList_ofList])]
    split
    · exact id
    · split
      · exact id
      · exact id
  rw [safeSemanticBusinessLabel_chinese chinese, whole, if_pos long, keptText, whole]
  rfl

theorem passesGate_kept_iff (chinese : (classifySemanticPrimaryLabel classes value).chineseBusinessLabel)
    (long : 2 ≤ (keptCharacters value).length) :
    PassesGate classes (keptText value) ↔ ¬ Relapses classes value := by
  rw [← keptText_business_iff chinese long]
  exact ⟨And.left, fun business => ⟨business, keptText_stays long business⟩⟩

/-- What is projected passes the gate unless the label relapses. -/
theorem projection_passes_iff (classes : CharClasses) (value : String) :
    (∀ shown, safeSemanticBusinessLabel classes value = some shown → PassesGate classes shown) ↔
      ¬ Relapses classes value := by
  cases business : (classifySemanticPrimaryLabel classes value).businessLabel with
  | false =>
    refine iff_of_true ?_ fun relapsed => ?_
    · intro shown projected
      simp [safeSemanticBusinessLabel, business] at projected
    · rw [classify_graded relapsed.1] at business
      cases business
  | true =>
    cases chinese : (classifySemanticPrimaryLabel classes value).chineseBusinessLabel with
    | false =>
      refine iff_of_true ?_ fun relapsed => ?_
      · intro shown projected
        rw [safeSemanticBusinessLabel_english business chinese] at projected
        exact Option.some.inj projected ▸ passesGate_english business chinese
      · rw [relapsed.1] at chinese
        cases chinese
    | true =>
      rw [safeSemanticBusinessLabel_chinese chinese]
      by_cases long : 2 ≤ (keptCharacters value).length
      · rw [if_pos long, ← passesGate_kept_iff chinese long]
        exact ⟨fun passes => passes _ rfl, fun passes shown projected => Option.some.inj projected ▸ passes⟩
      · rw [if_neg long]
        refine iff_of_true ?_ fun relapsed => long relapsed.2.1
        intro shown projected
        cases projected

end Stability

end DataMax.SemanticLabel
