import DataMax.Domain.Words
import DataMax.Ingest.SharedStrings
import DataMax.Library.Framing

/-! Texts whose white space is in order already. -/

namespace DataMax.Ingest

open Domain Library

variable {text raw : String} {parts rows : List String}

/-- One line of words with one blank between them. -/
structure Settled (text : String) : Prop where
  spaced : " ".intercalate (words text) = text
  noNul : '\x00' ∉ text.toList

theorem settled_plain (plain : ∀ char ∈ text.toList, isWhitespace char = false ∧ char ≠ '\x00') : Settled text := by
  refine ⟨?_, fun inside => (plain _ inside).2 rfl⟩
  by_cases empty : text = ""
  · rw [empty]
    rfl
  · have alone := @words_joined [text] (by simpa [empty] using fun char inside => (plain char inside).1)
    rw [String.intercalate_singleton] at alone
    rw [alone, String.intercalate_singleton]

theorem settled_words (noNul : '\x00' ∉ text.toList) : Settled (" ".intercalate (words text)) := by
  refine ⟨congrArg _ (words_joined words_plain), fun inside => ?_⟩
  rcases mem_words_text inside with blank | ⟨within, -⟩
  · exact absurd blank (by decide)
  · exact noNul within

theorem Settled.trim (settled : Settled text) : trim text = text := by
  have joined := trim_words text
  rwa [settled.spaced] at joined

theorem Settled.visible_char (settled : Settled text) (nonempty : text ≠ "") :
    ∃ char ∈ text.toList, isWhitespace char = false := by
  by_contra none
  push Not at none
  have blank : visible text = [] := visible_eq_nil_iff.mpr (by simpa using none)
  rw [← trim_eq_empty_iff, settled.trim] at blank
  exact nonempty blank

/-- The only white space is a blank. -/
theorem Settled.not_mem (settled : Settled text) {char : Char} (space : isWhitespace char = true)
    (other : char ≠ ' ') : char ∉ text.toList := by
  intro inside
  rw [← settled.spaced] at inside
  rcases mem_words_text inside with blank | ⟨-, visible⟩
  · exact other blank
  · rw [space] at visible
    cases visible

/-- The text of a line without tabs is that of one of its parts. -/
theorem trim_tabbed (settled : ∀ part ∈ parts, Settled part) (untabbed : '\t' ∉ (trim ("\t".intercalate parts)).toList) :
    trim ("\t".intercalate parts) = "" ∨ trim ("\t".intercalate parts) ∈ parts := by
  induction parts with
  | nil => exact .inl rfl
  | cons first others ih =>
    obtain ⟨here, later⟩ := List.forall_mem_cons.mp settled
    cases others with
    | nil =>
      rw [String.intercalate_singleton, here.trim]
      exact .inr List.mem_cons_self
    | cons next rest =>
      have tab : isWhitespace '\t' = true := by decide
      have shape : "\t".intercalate (first :: next :: rest) =
          .ofList (first.toList ++ '\t' :: ("\t".intercalate (next :: rest)).toList) := by
        rw [← String.toList_inj, String.toList_ofList, String.toList_intercalate, String.toList_intercalate]
        simp
      rw [shape] at untabbed ⊢
      generalize "\t".intercalate (next :: rest) = more at ih untabbed ⊢
      by_cases empty : first = ""
      · have dropped : Domain.trim (.ofList (first.toList ++ '\t' :: more.toList)) = Domain.trim more := by
          have blank := @trim_blank_append ['\t'] [] (by simp [tab]) (by simp) more
          rw [List.append_nil, List.singleton_append] at blank
          rw [empty, String.toList_empty, List.nil_append, blank]
        rw [dropped] at untabbed ⊢
        exact (ih later untabbed).imp_right (List.mem_cons_of_mem _)
      · by_cases blank : ∀ char ∈ more.toList, isWhitespace char = true
        · have alone := @trim_blank_append [] ('\t' :: more.toList) (by simp) (by simpa [tab] using blank) first
          rw [List.nil_append] at alone
          rw [alone, here.trim]
          exact .inr List.mem_cons_self
        · push Not at blank
          refine absurd (mem_trim_between (here.visible_char empty) (by simpa using blank)) untabbed

theorem settled_parts (noNul : '\x00' ∉ text.toList) :
    ∀ part ∈ (splitAt '\t' text).map fun part => " ".intercalate (words part), Settled part := by
  intro part listed
  obtain ⟨piece, inside, rfl⟩ := List.mem_map.mp listed
  obtain ⟨chars, split, rfl⟩ := List.mem_map.mp inside
  rw [List.splitOn_eq_splitOnP] at split
  refine settled_words fun nul => noNul ?_
  rw [String.toList_ofList] at nul
  exact (of_mem_splitOnP split nul).1

theorem mem_lines {line : String} {char : Char} (listed : line ∈ lines text) (inside : char ∈ line.toList) :
    char ∈ text.toList := by
  have ofPiece : ∀ piece ∈ text.toList.splitOn '\n', char ∈ piece → char ∈ text.toList := by
    intro piece split within
    rw [List.splitOn_eq_splitOnP] at split
    exact (of_mem_splitOnP split within).1
  obtain ⟨piece, found, rfl⟩ := List.mem_map.mp listed
  rw [String.toList_ofList] at inside
  have cases : piece ∈ (text.toList.splitOn '\n').dropLast.map dropCarriageReturn ∨
      piece = (text.toList.splitOn '\n').getLast?.getD [] := by
    split at found
    · exact .inl found
    · exact (List.mem_append.mp found).imp_right List.mem_singleton.mp
  rcases cases with ended | rfl
  · obtain ⟨whole, before, rfl⟩ := List.mem_map.mp ended
    refine ofPiece whole (List.dropLast_subset _ before) ?_
    rw [dropCarriageReturn] at inside
    split at inside
    · exact List.dropLast_subset _ inside
    · exact inside
  · cases last : (text.toList.splitOn '\n').getLast? with
    | none => simp [last] at inside
    | some whole =>
      rw [last, Option.getD_some] at inside
      exact ofPiece whole (List.mem_of_getLast? last) inside

/-- What the lines of a normalized text are. -/
theorem collapsed_line {line : String}
    (listed : line ∈ ((lines (withoutNul raw)).map collapseLineSpacesPreservingTabs).filter (· ≠ "")) :
    (trim line = line ∧ line ≠ "") ∧ ∃ rawLine ∈ lines (withoutNul raw), collapseLineSpacesPreservingTabs rawLine = line := by
  obtain ⟨mapped, nonempty⟩ := List.mem_filter.mp listed
  obtain ⟨rawLine, inside, rfl⟩ := List.mem_map.mp mapped
  exact ⟨⟨trim_trim _, of_decide_eq_true nonempty⟩, rawLine, inside, rfl⟩

theorem joinLines_cons_cons (first next : String) (rest : List String) :
    (joinLines (first :: next :: rest)).toList = first.toList ++ '\n' :: (joinLines (next :: rest)).toList := by
  simp [joinLines, String.toList_intercalate]

theorem joinLines_ne_empty {first : String} (nonempty : first ≠ "") (rest : List String) :
    joinLines (first :: rest) ≠ "" := by
  cases rest with
  | nil => rwa [joinLines, String.intercalate_singleton]
  | cons next others =>
    intro empty
    have characters := congrArg String.toList empty
    rw [joinLines_cons_cons] at characters
    simp at characters

/-- A normalized text on one line and without tabs is settled. -/
theorem settled_of_normalized (normalized : normalizeExtractedText raw = some text) (untabbed : '\t' ∉ text.toList)
    (oneLine : '\n' ∉ text.toList) : Settled text := by
  have nonempty := (trim_normalized normalized).2
  rw [normalizeExtractedText] at normalized
  split at normalized
  · simp at normalized
  · have joined := @trim_intercalate _ "\n" fun line listed => (@collapsed_line raw line listed).1
    rw [← joinLines] at joined
    rw [joined, Option.some_inj] at normalized
    have each := @collapsed_line raw
    generalize ((lines (withoutNul raw)).map collapseLineSpacesPreservingTabs).filter (· ≠ "") = collapsed
      at normalized each
    cases collapsed with
    | nil => exact absurd normalized.symm nonempty
    | cons first others =>
      cases others with
      | nil =>
        obtain ⟨rawLine, inside, same⟩ := (each List.mem_cons_self).2
        have alone : joinLines [first] = first := String.intercalate_singleton
        rw [alone, ← same] at normalized
        have noNul : '\x00' ∉ rawLine.toList := fun nul => by simpa [withoutNul] using mem_lines inside nul
        rw [← normalized] at untabbed nonempty ⊢
        rcases trim_tabbed (settled_parts noNul) untabbed with empty | listed
        · exact absurd empty nonempty
        · exact settled_parts noNul _ listed
      | cons next rest =>
        rw [← normalized, joinLines_cons_cons] at oneLine
        simp at oneLine

theorem splitAt_tabbed (settled : ∀ part ∈ parts, Settled part) (nonempty : parts ≠ []) :
    splitAt '\t' ("\t".intercalate parts) = parts := by
  have untabbed : ∀ chars ∈ parts.map String.toList, '\t' ∉ chars := by
    intro chars listed
    obtain ⟨part, inside, rfl⟩ := List.mem_map.mp listed
    exact (settled part inside).not_mem (by decide) (by decide)
  have joined : ("\t".intercalate parts).toList = ['\t'].intercalate (parts.map String.toList) := by
    simp [String.toList_intercalate]
  rw [splitAt, joined, List.splitOn_intercalate _ untabbed (by simpa using nonempty), List.map_map]
  simp [Function.comp_def]

/-- A row of settled texts between tabs loses only the tabs at its ends. -/
theorem collapse_tabbed (settled : ∀ part ∈ parts, Settled part) (nonempty : parts ≠ []) :
    collapseLineSpacesPreservingTabs ("\t".intercalate parts) = trim ("\t".intercalate parts) := by
  have spaced : parts.map (fun part => " ".intercalate (words part)) = parts :=
    (List.map_congr_left fun part listed => (settled part listed).spaced).trans (List.map_id _)
  rw [collapseLineSpacesPreservingTabs, splitAt_tabbed settled nonempty, spaced]

theorem lines_joinLines (kept : ∀ row ∈ rows, row ≠ "" ∧ '\n' ∉ row.toList ∧ '\r' ∉ row.toList) :
    lines (joinLines rows) = rows := by
  cases rows using List.reverseRecOn with
  | nil => rfl
  | append_singleton earlier last _ =>
    have broken : ∀ chars ∈ (earlier ++ [last]).map String.toList, '\n' ∉ chars := by
      intro chars listed
      obtain ⟨row, inside, rfl⟩ := List.mem_map.mp listed
      exact (kept row inside).2.1
    have joined : (joinLines (earlier ++ [last])).toList = ['\n'].intercalate ((earlier ++ [last]).map String.toList) := by
      simp [joinLines, String.toList_intercalate]
    have ended : (earlier.map String.toList).map dropCarriageReturn = earlier.map String.toList := by
      refine (List.map_congr_left fun chars listed => ?_).trans (List.map_id _)
      obtain ⟨row, inside, rfl⟩ := List.mem_map.mp listed
      rw [dropCarriageReturn, if_neg fun last => (kept row (List.mem_append_left _ inside)).2.2 (List.mem_of_getLast? last)]
      rfl
    have lastKept := (kept last (by simp)).1
    rw [lines, joined, List.splitOn_intercalate _ broken (by simp), List.map_append, List.map_singleton,
      List.dropLast_concat, List.getLast?_concat, ended, Option.getD_some, if_neg (by simpa using lastKept), List.map_append,
      List.map_map]
    simp [Function.comp_def]

/-- Lines that stay lines: the normalized text has each of them in order. -/
theorem normalize_lines (kept : ∀ row ∈ rows, '\x00' ∉ row.toList ∧ '\n' ∉ row.toList ∧ '\r' ∉ row.toList ∧
    collapseLineSpacesPreservingTabs row ≠ "") (nonempty : rows ≠ []) :
    normalizeExtractedText (joinLines rows) = some (joinLines (rows.map collapseLineSpacesPreservingTabs)) := by
  have noNul : withoutNul (joinLines rows) = joinLines rows := by
    have clean : ∀ char ∈ (joinLines rows).toList, char ≠ '\x00' := by
      intro char inside
      rw [joinLines, String.toList_intercalate] at inside
      rcases mem_intercalate inside with rfl | ⟨chars, listed, within⟩
      · decide
      · obtain ⟨row, known, rfl⟩ := List.mem_map.mp listed
        rintro rfl
        exact (kept row known).1 within
    rw [withoutNul, List.filter_eq_self.mpr (by simpa using clean), String.ofList_toList]
  have emptyLine : collapseLineSpacesPreservingTabs "" = "" := by decide
  have split : lines (joinLines rows) = rows := by
    refine lines_joinLines fun row listed => ?_
    obtain ⟨-, noBreak, noReturn, shown⟩ := kept row listed
    refine ⟨?_, noBreak, noReturn⟩
    rintro rfl
    exact shown emptyLine
  have each : ∀ line ∈ rows.map collapseLineSpacesPreservingTabs, trim line = line ∧ line ≠ "" := by
    intro line listed
    obtain ⟨row, inside, rfl⟩ := List.mem_map.mp listed
    exact ⟨trim_trim _, (kept row inside).2.2.2⟩
  have all : (rows.map collapseLineSpacesPreservingTabs).filter (· ≠ "") = rows.map collapseLineSpacesPreservingTabs :=
    List.filter_eq_self.mpr fun line listed => decide_eq_true (each line listed).2
  have joined : trim (joinLines (rows.map collapseLineSpacesPreservingTabs)) =
      joinLines (rows.map collapseLineSpacesPreservingTabs) := trim_intercalate each
  have shown : joinLines (rows.map collapseLineSpacesPreservingTabs) ≠ "" := by
    obtain ⟨first, others, rfl⟩ := List.exists_cons_of_ne_nil nonempty
    exact joinLines_ne_empty (each _ List.mem_cons_self).2 _
  rw [normalizeExtractedText, noNul, split, all, joined, if_neg shown]

end DataMax.Ingest
