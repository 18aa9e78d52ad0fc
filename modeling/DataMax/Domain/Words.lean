import DataMax.Domain.Lines
import DataMax.Library.Framing
import DataMax.Library.Separated

/-! Texts that are put together from trimmed ones. -/

namespace DataMax.Domain

open Library

variable {text before after : String} {texts : List String} {separator : String}

theorem trim_eq_self_iff : trim text = text ↔ (∀ char ∈ text.toList.head?, isWhitespace char = false) ∧
    ∀ char ∈ text.toList.getLast?, isWhitespace char = false := by
  constructor
  · intro trimmed
    constructor
    · intro char first
      have starts := dropWhile_trim text
      rw [trimmed] at starts
      obtain ⟨rest, shape⟩ := List.head?_eq_some_iff.mp first
      cases space : isWhitespace char with
      | false => rfl
      | true =>
        rw [shape, List.dropWhile_cons_of_pos space] at starts
        have shorter := (@List.dropWhile_suffix _ rest isWhitespace).length_le
        rw [starts, List.length_cons] at shorter
        omega
    · intro char last
      rw [← trimmed] at last
      exact trim_last last
  · rintro ⟨first, last⟩
    exact trim_eq_self_of_ends first last

/-- Between trimmed texts a separator is inside. -/
theorem trim_intercalate (each : ∀ text ∈ texts, trim text = text ∧ text ≠ "") :
    trim (separator.intercalate texts) = separator.intercalate texts := by
  rw [trim_eq_self_iff, String.toList_intercalate]
  induction texts with
  | nil => simp
  | cons first others ih =>
    obtain ⟨⟨trimmed, nonempty⟩, later⟩ := List.forall_mem_cons.mp each
    rw [trim_eq_self_iff] at trimmed
    have starts : first.toList ≠ [] := by simpa using nonempty
    cases others with
    | nil => simpa using trimmed
    | cons next rest =>
      have nextStarts : next.toList ≠ [] := by simpa using (later next List.mem_cons_self).2
      have more : separator.toList.intercalate ((next :: rest).map String.toList) ≠ [] := by
        cases rest <;> simp [nextStarts]
      have shape : separator.toList.intercalate ((first :: next :: rest).map String.toList) =
          first.toList ++ (separator.toList ++ separator.toList.intercalate ((next :: rest).map String.toList)) := by
        simp
      rw [shape, List.head?_append_of_ne_nil _ starts, ← List.append_assoc, List.getLast?_append_of_ne_nil _ more]
      exact ⟨trimmed.1, (ih later).2⟩

theorem visible_alphanum {char : Char} (alphanumeric : char.isAlphanum) : isWhitespace char = false := by
  have codes := alphanum_code alphanumeric
  simp only [isWhitespace, Bool.or_eq_false_iff, Bool.and_eq_false_iff, decide_eq_false_iff_not, beq_eq_false_iff_ne]
  omega

/-- A word is there, and has no white space. -/
theorem words_plain : ∀ word ∈ words text, word ≠ "" ∧ ∀ char ∈ word.toList, isWhitespace char = false := by
  intro word listed
  obtain ⟨piece, inside, rfl⟩ := List.mem_map.mp listed
  obtain ⟨split, nonempty⟩ := List.mem_filter.mp inside
  refine ⟨by simpa using nonempty, fun char within => ?_⟩
  rw [String.toList_ofList] at within
  exact (of_mem_splitOnP split within).2

theorem mem_words_text {char : Char} (inside : char ∈ (" ".intercalate (words text)).toList) :
    char = ' ' ∨ char ∈ text.toList ∧ isWhitespace char = false := by
  rw [String.toList_intercalate] at inside
  refine (mem_intercalate inside).imp_right ?_
  rintro ⟨part, listed, within⟩
  obtain ⟨word, found, rfl⟩ := List.mem_map.mp listed
  obtain ⟨piece, kept, rfl⟩ := List.mem_map.mp found
  rw [String.toList_ofList] at within
  exact of_mem_splitOnP (List.mem_filter.mp kept).1 within

/-- Joined words have no blanks at the ends. -/
theorem trim_words (value : String) : trim (" ".intercalate (words value)) = " ".intercalate (words value) :=
  trim_intercalate fun word listed => ⟨trim_eq_self (words_plain word listed).2, (words_plain word listed).1⟩

theorem words_joined (each : ∀ word ∈ texts, word ≠ "" ∧ ∀ char ∈ word.toList, isWhitespace char = false) :
    words (" ".intercalate texts) = texts := by
  rw [words, String.toList_intercalate]
  induction texts with
  | nil => rfl
  | cons first others ih =>
    obtain ⟨⟨nonempty, plain⟩, later⟩ := List.forall_mem_cons.mp each
    have starts : first.toList ≠ [] := by simpa using nonempty
    cases others with
    | nil => simp [List.splitOnP_eq_singleton plain, nonempty]
    | cons next rest =>
      have shape : " ".toList.intercalate ((first :: next :: rest).map String.toList) =
          first.toList ++ ' ' :: " ".toList.intercalate ((next :: rest).map String.toList) := by
        simp
      rw [shape, List.splitOnP_append_cons_of_forall_mem plain ' ' (by decide),
        List.filter_cons_of_pos (by simpa using nonempty), List.map_cons, ih later, String.ofList_toList]

/-- White space at the ends does not change the trimmed text. -/
theorem trim_blank_append {before after : List Char} (blank : ∀ char ∈ before, isWhitespace char = true)
    (also : ∀ char ∈ after, isWhitespace char = true) (text : String) :
    trim (.ofList (before ++ text.toList ++ after)) = trim text := by
  have ended : ∀ chars : List Char, (chars ++ after).reverse.dropWhile isWhitespace =
      chars.reverse.dropWhile isWhitespace := by
    intro chars
    rw [List.reverse_append, List.dropWhile_append_of_pos fun char listed => also char (List.mem_reverse.mp listed)]
  rw [trim, trim, String.toList_ofList, List.append_assoc, List.dropWhile_append_of_pos blank, List.dropWhile_append]
  split
  · rename_i empty
    rw [List.isEmpty_iff.mp empty, List.dropWhile_eq_nil_iff.mpr also]
  · rw [ended]

/-- What is between visible characters is not trimmed away. -/
theorem mem_trim_between {first last : List Char} {char : Char}
    (shown : ∃ char ∈ first, isWhitespace char = false) (also : ∃ char ∈ last, isWhitespace char = false) :
    char ∈ (trim (.ofList (first ++ char :: last))).toList := by
  have kept : ∀ chars : List Char, (∃ char ∈ chars, isWhitespace char = false) →
      (chars.dropWhile isWhitespace).isEmpty = false := by
    rintro chars ⟨char, inside, visible⟩
    rw [List.isEmpty_eq_false_iff, Ne, List.dropWhile_eq_nil_iff]
    intro blank
    rw [blank char inside] at visible
    cases visible
  obtain ⟨seen, inside, visible⟩ := also
  rw [trim, String.toList_ofList, String.toList_ofList, List.dropWhile_append, kept first shown, if_neg Bool.false_ne_true,
    List.reverse_append, List.reverse_cons, List.append_assoc, List.dropWhile_append,
    kept last.reverse ⟨seen, List.mem_reverse.mpr inside, visible⟩, if_neg Bool.false_ne_true]
  simp

end DataMax.Domain
