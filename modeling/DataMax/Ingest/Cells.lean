import DataMax.Ingest.SharedStrings

/-! The cells of a sheet row, placed at the columns that their references name. -/

namespace DataMax.Ingest

open Domain Library

/-- Letters count from `A`, which is one, in base twenty-six. -/
def cellReferenceColumnIndex (reference : String) : Option Nat :=
  let letters := reference.toList.takeWhile Char.isAlpha
  let index := letters.foldl (fun index value => index * 26 + (value.toUpper.toNat - 'A'.toNat + 1)) 0
  if letters = [] then none else some (index - 1)

def placeCell (cells : List String) (columnIndex : Nat) (text : String) : List String :=
  let resized := if cells.length ≤ columnIndex then cells ++ .replicate (columnIndex + 1 - cells.length) "" else cells
  resized.set columnIndex text

/-- Empty cells at the end are dropped. -/
def dropEmptyCells (cells : List String) : List String := cells.rdropWhile (trim · = "")

def cellPlace (cellXml : String) (position : Nat) : Nat :=
  ((xmlAttributeValue cellXml "r").bind cellReferenceColumnIndex).getD position

def extractSheetRowCells (rowXml : String) (sharedStrings : List String) : List String :=
  let placed := (splitXmlElements rowXml "c").zipIdx.foldl (fun cells (cell, position) =>
    placeCell cells (cellPlace cell position) ((extractCellText cell sharedStrings).getD "")) []
  dropEmptyCells placed

section Placement

variable {cells : List String} {placements : List (Nat × String)} {columnIndex : Nat} {text : String}

theorem getD_resized (cells : List String) (count index : Nat) :
    ((cells ++ .replicate count "")[index]?).getD "" = (cells[index]?).getD "" := by
  rcases Nat.lt_or_ge index cells.length with inside | beyond
  · rw [List.getElem?_append_left inside]
  · rw [List.getElem?_append_right beyond, List.getElem?_eq_none beyond, List.getElem?_replicate]
    split <;> rfl

theorem getD_placeCell (cells : List String) (columnIndex : Nat) (text : String) (index : Nat) :
    ((placeCell cells columnIndex text)[index]?).getD "" =
      if index = columnIndex then text else (cells[index]?).getD "" := by
  rw [placeCell, List.getElem?_set]
  by_cases same : columnIndex = index
  · subst same
    rw [if_pos rfl, if_pos, if_pos rfl]
    · rfl
    · split
      · rw [List.length_append, List.length_replicate]
        omega
      · omega
  · rw [if_neg same, if_neg (Ne.symm same)]
    split
    · exact getD_resized ..
    · rfl

/-- A column has the text that was put there, however often. -/
theorem getD_placed (same : ∀ placement ∈ placements, placement.1 = columnIndex → placement.2 = text)
    (placed : text = "" ∨ ∃ placement ∈ placements, placement.1 = columnIndex) :
    ((placements.foldl (fun cells placement => placeCell cells placement.1 placement.2) [])[columnIndex]?).getD "" =
      text := by
  induction placements using List.reverseRecOn with
  | nil => simpa using placed.symm
  | append_singleton earlier last ih =>
    simp only [List.mem_append, List.mem_singleton] at same placed
    rw [List.foldl_append, List.foldl_cons, List.foldl_nil, getD_placeCell]
    split
    · rename_i here
      exact same last (.inr rfl) here.symm
    · rename_i elsewhere
      refine ih (fun placement listed => same placement (.inl listed)) (placed.imp_right ?_)
      rintro ⟨placement, listed | rfl, there⟩
      · exact ⟨placement, listed, there⟩
      · exact absurd there.symm elsewhere

theorem mem_placed : ∀ cell ∈ placements.foldl (fun cells placement => placeCell cells placement.1 placement.2) [],
    cell = "" ∨ ∃ placement ∈ placements, cell = placement.2 := by
  induction placements using List.reverseRecOn with
  | nil => simp
  | append_singleton earlier last ih =>
    intro cell listed
    rw [List.foldl_append, List.foldl_cons, List.foldl_nil, placeCell] at listed
    have before : cell = "" ∨ ∃ placement ∈ earlier ++ [last], cell = placement.2 := by
      rcases List.mem_or_eq_of_mem_set listed with there | rfl
      · have known : cell ∈ earlier.foldl (fun cells placement => placeCell cells placement.1 placement.2) [] ∨
            cell = "" := by
          split at there
          · exact (List.mem_append.mp there).imp_right List.eq_of_mem_replicate
          · exact .inl there
        rcases known with kept | empty
        · exact (ih cell kept).imp_right fun ⟨placement, inside, same⟩ => ⟨placement, List.mem_append_left _ inside, same⟩
        · exact .inl empty
      · exact .inr ⟨last, by simp, rfl⟩
    exact before

theorem foldl_zipIdx {Item State : Type*} {step : State → Item × Nat → State} {plain : State → Item → State}
    {items : List Item} (same : ∀ item ∈ items, ∀ state index, step state (item, index) = plain state item)
    (state : State) (start : Nat) : (items.zipIdx start).foldl step state = items.foldl plain state := by
  induction items generalizing state start with
  | nil => rfl
  | cons item rest ih =>
    obtain ⟨here, later⟩ := List.forall_mem_cons.mp same
    rw [List.zipIdx_cons, List.foldl_cons, List.foldl_cons, here, ih later]

theorem getD_dropEmptyCells (shown : ∀ cell ∈ cells, trim cell = "" → cell = "") (index : Nat) :
    ((dropEmptyCells cells)[index]?).getD "" = (cells[index]?).getD "" := by
  have dropped : cells.rtakeWhile (trim · = "") = .replicate (cells.rtakeWhile (trim · = "")).length "" := by
    refine List.eq_replicate_of_mem fun cell listed => shown cell ?_ ?_
    · exact (List.rtakeWhile_suffix _ cells).subset listed
    · simpa using List.mem_rtakeWhile_imp listed
  have whole : cells = dropEmptyCells cells ++ .replicate (cells.rtakeWhile (trim · = "")).length "" := by
    rw [← dropped]
    exact List.rdropWhile_append_rtakeWhile.symm
  conv_rhs => rw [whole]
  exact (getD_resized ..).symm

theorem last_dropEmptyCells (cells : List String) : ∀ last ∈ (dropEmptyCells cells).getLast?, trim last ≠ "" := by
  intro last ends
  obtain ⟨nonempty, rfl⟩ := List.mem_getLast?_eq_getLast ends
  have stopped := List.rdropWhile_last_not (trim · = "") cells nonempty
  exact fun blank => stopped (decide_eq_true blank)

end Placement

end DataMax.Ingest
