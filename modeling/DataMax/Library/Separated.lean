import Mathlib.Data.List.Induction
import Mathlib.Data.List.Infix

/-! Properties of a text that a separator cannot be part of: they hold of a text
when they hold of one of the parts between its separators. -/

namespace DataMax.Library

universe u v
variable {Item : Type u} {Other : Type v} {separator : Item} {found also : List Item → Prop}

/-- What is found in a text is found on one side of each separator. -/
structure LocalTo (separator : Item) (found : List Item → Prop) : Prop where
  nothing : ¬ found []
  split : ∀ before after, found (before ++ separator :: after) ↔ found before ∨ found after

/-- An infix without the separator lies on one side of it. -/
theorem infix_append_cons {part before after : List Item} (bare : separator ∉ part) :
    part <:+: before ++ separator :: after ↔ part <:+: before ∨ part <:+: after := by
  constructor
  · rintro ⟨first, last, same⟩
    rw [List.append_assoc, List.append_eq_append_iff] at same
    rcases same with ⟨rest, split, reached⟩ | ⟨rest, split, reached⟩
    · rw [List.append_eq_append_iff] at reached
      rcases reached with ⟨more, inner, -⟩ | ⟨more, inner, outer⟩
      · exact .inl ⟨first, more, by rw [split, inner, List.append_assoc]⟩
      · cases more with
        | nil => exact .inl ⟨first, [], by simp [split, inner]⟩
        | cons head tail =>
          obtain ⟨rfl, -⟩ := List.cons.inj outer
          exact False.elim (bare (by simp [inner]))
    · cases rest with
      | nil =>
        cases part with
        | nil => exact .inl List.nil_infix
        | cons head tail =>
          obtain ⟨rfl, -⟩ := List.cons.inj reached
          exact False.elim (bare List.mem_cons_self)
      | cons head tail => exact .inr ⟨tail, last, by simpa using (List.cons.inj reached).2.symm⟩
  · intro side
    rcases side with left | right
    · exact List.infix_append_of_infix_left left
    · exact List.infix_append_of_infix_right (right.trans (List.suffix_cons separator after).isInfix)

/-- The pieces between separators have the other items of the list. -/
theorem of_mem_splitOnP {separates : Item → Bool} {items piece : List Item} {item : Item}
    (listed : piece ∈ items.splitOnP separates) (inside : item ∈ piece) : item ∈ items ∧ separates item = false := by
  induction items generalizing piece with
  | nil =>
    rw [List.splitOnP_nil, List.mem_singleton] at listed
    subst listed
    cases inside
  | cons head tail ih =>
    rw [List.splitOnP_cons_eq_if_modifyHead] at listed
    split at listed
    · rcases List.mem_cons.mp listed with rfl | later
      · cases inside
      · exact (ih later inside).imp_left (List.mem_cons_of_mem head)
    · rename_i kept
      cases pieces : tail.splitOnP separates with
      | nil => exact absurd pieces (List.splitOnP_ne_nil separates tail)
      | cons first others =>
        rw [pieces, List.modifyHead_cons] at listed
        rcases List.mem_cons.mp listed with rfl | later
        · rcases List.mem_cons.mp inside with rfl | within
          · exact ⟨List.mem_cons_self, Bool.eq_false_iff.mpr kept⟩
          · exact (ih (pieces ▸ List.mem_cons_self) within).imp_left (List.mem_cons_of_mem head)
        · exact (ih (pieces ▸ List.mem_cons_of_mem first later) inside).imp_left (List.mem_cons_of_mem head)

/-- The first piece is at the start, and each piece somewhere in the list. -/
theorem splitOnP_placed (separates : Item → Bool) (items : List Item) :
    (∀ first ∈ (items.splitOnP separates).head?, first <+: items) ∧
      ∀ piece ∈ items.splitOnP separates, piece <:+: items := by
  induction items with
  | nil => simp
  | cons head tail ih =>
    obtain ⟨leading, inside⟩ := ih
    have tailInside : tail <:+: head :: tail := (List.suffix_cons head tail).isInfix
    rw [List.splitOnP_cons_eq_if_modifyHead]
    split
    · refine ⟨by simp, ?_⟩
      intro piece listed
      rcases List.mem_cons.mp listed with rfl | later
      · exact List.nil_infix
      · exact (inside piece later).trans tailInside
    · cases pieces : tail.splitOnP separates with
      | nil => exact absurd pieces (List.splitOnP_ne_nil separates tail)
      | cons first others =>
        rw [pieces] at leading inside
        have started : head :: first <+: head :: tail := (List.prefix_cons_inj head).mpr (leading first rfl)
        refine ⟨by simpa using started, ?_⟩
        intro piece listed
        rcases List.mem_cons.mp listed with rfl | later
        · exact started.isInfix
        · exact (inside piece (List.mem_cons_of_mem first later)).trans tailInside

/-- Without the separators the pieces are the list. -/
theorem flatten_splitOnP (separates : Item → Bool) (items : List Item) :
    (items.splitOnP separates).flatten = items.filter (!separates ·) := by
  induction items with
  | nil => rfl
  | cons head tail ih =>
    rw [List.splitOnP_cons_eq_if_modifyHead]
    cases mark : separates head with
    | true => simpa [mark] using ih
    | false =>
      cases pieces : tail.splitOnP separates with
      | nil => exact absurd pieces (List.splitOnP_ne_nil _ _)
      | cons first others =>
        rw [pieces] at ih
        simpa [mark] using ih

theorem infix_of_mem_splitOnP {separates : Item → Bool} {items piece : List Item}
    (listed : piece ∈ items.splitOnP separates) : piece <:+: items :=
  (splitOnP_placed separates items).2 piece listed

section Pieces

variable [DecidableEq Item] {parts others : List (List Item)}

theorem length_splitOn (separator : Item) (items : List Item) :
    (items.splitOn separator).length = items.count separator + 1 := by
  induction items with
  | nil => rfl
  | cons head tail ih =>
    rw [List.splitOn_cons_eq_if_modifyHead]
    by_cases same : head = separator
    · rw [if_pos (beq_iff_eq.mpr same), List.length_cons, ih, same, List.count_cons_self]
    · rw [if_neg (by simpa using same), List.length_modifyHead, ih, List.count_cons_of_ne same]

/-- Joined parts have the pieces of the parts. -/
theorem splitOn_joined (separator : Item) (some : parts ≠ []) :
    ([separator].intercalate parts).splitOn separator = parts.flatMap (·.splitOn separator) := by
  induction parts with
  | nil => exact absurd rfl some
  | cons head tail ih =>
    cases tail with
    | nil => simp
    | cons next rest =>
      rw [List.intercalate_cons_cons, List.append_assoc, List.singleton_append, List.splitOn_append_cons_self,
        ih (List.cons_ne_nil next rest)]
      rfl

theorem splitOn_injective (separator : Item) : Function.Injective (List.splitOn separator) := by
  intro first second same
  have joined := congrArg ([separator].intercalate) same
  rwa [List.intercalate_splitOn, List.intercalate_splitOn] at joined

/-- Parts that are joined cannot be told apart further than by their pieces. -/
theorem joined_eq_iff (separator : Item) (some : parts ≠ []) (othersSome : others ≠ []) :
    [separator].intercalate parts = [separator].intercalate others ↔
      parts.flatMap (·.splitOn separator) = others.flatMap (·.splitOn separator) := by
  rw [← splitOn_joined separator some, ← splitOn_joined separator othersSome]
  exact (splitOn_injective separator).eq_iff.symm

/-- The pieces, and how many separators each part has, determine the parts. -/
theorem parts_eq_iff (separator : Item) : parts = others ↔
    parts.flatMap (·.splitOn separator) = others.flatMap (·.splitOn separator) ∧
      parts.map (List.count separator) = others.map (List.count separator) := by
  constructor
  · rintro rfl
    exact ⟨rfl, rfl⟩
  · intro same
    induction parts generalizing others with
    | nil => exact (List.map_eq_nil_iff.mp same.2.symm).symm
    | cons head tail ih =>
      cases others with
      | nil => cases same.2
      | cons other rest =>
        obtain ⟨pieces, counts⟩ := same
        obtain ⟨count, later⟩ := List.cons.inj counts
        have lengths : (head.splitOn separator).length = (other.splitOn separator).length := by
          rw [length_splitOn, length_splitOn, count]
        obtain ⟨first, following⟩ := List.append_inj pieces lengths
        rw [splitOn_injective separator first, ih ⟨following, later⟩]

/-- In a text with two separators only one part stands between two of them. -/
theorem infix_between {before part after other : List Item} (first : separator ∉ before) (between : separator ∉ part)
    (last : separator ∉ after) :
    separator :: (other ++ [separator]) <:+: before ++ separator :: (part ++ separator :: after) ↔ other = part := by
  constructor
  · rintro ⟨front, back, same⟩
    have counts := congrArg (List.count separator) same
    simp only [List.append_assoc, List.cons_append, List.count_append, List.count_cons_self, List.count_nil,
      List.count_eq_zero.mpr first, List.count_eq_zero.mpr between, List.count_eq_zero.mpr last] at counts
    have joined : [separator].intercalate [front, other, back] = [separator].intercalate [before, part, after] := by
      simpa [List.intercalate_cons_cons] using same
    have parts := (parts_eq_iff separator).mpr ⟨(joined_eq_iff separator (List.cons_ne_nil _ _)
      (List.cons_ne_nil _ _)).mp joined, by
        simp only [List.map_cons, List.map_nil, List.cons.injEq, and_true, List.count_eq_zero.mpr first,
          List.count_eq_zero.mpr between, List.count_eq_zero.mpr last]
        omega⟩
    exact (List.cons.inj (List.cons.inj parts).2).1
  · rintro rfl
    exact ⟨before, after, by simp⟩

end Pieces

namespace LocalTo

theorem occurrence {part : List Item} (nonempty : part ≠ []) (bare : separator ∉ part) :
    LocalTo separator (part <:+: ·) where
  nothing := fun empty => nonempty (List.infix_nil.mp empty)
  split := fun _ _ => infix_append_cons bare

/-- A property of one of the pieces between all separators of a kind. -/
theorem piece {separates : Item → Bool} {good : List Item → Prop} (separated : separates separator)
    (nothing : ¬ good []) : LocalTo separator fun items => ∃ piece ∈ items.splitOnP separates, good piece where
  nothing := by simpa using nothing
  split := by
    intro before after
    rw [List.splitOnP_append_cons before after separated]
    simp only [List.mem_append, or_and_right, exists_or]

theorem either (first : LocalTo separator found) (second : LocalTo separator also) :
    LocalTo separator fun items => found items ∨ also items where
  nothing := not_or.mpr ⟨first.nothing, second.nothing⟩
  split := by
    intro before after
    rw [first.split, second.split]
    exact or_or_or_comm

theorem exists_mem {Index : Type v} {indices : List Index} {found : Index → List Item → Prop}
    (each : ∀ index ∈ indices, LocalTo separator (found index)) :
    LocalTo separator fun items => ∃ index ∈ indices, found index items where
  nothing := fun ⟨index, listed, empty⟩ => (each index listed).nothing empty
  split := by
    intro before after
    rw [← exists_or]
    refine exists_congr fun index => ?_
    rw [← and_or_left]
    exact and_congr_right fun listed => (each index listed).split before after

theorem comp_map {change : Other → Item} {mark : Other} (inner : LocalTo separator found)
    (kept : change mark = separator) : LocalTo mark fun items => found (items.map change) where
  nothing := inner.nothing
  split := by
    intro before after
    rw [List.map_append, List.map_cons, kept, inner.split]

/-- What no item of a kind can be part of is not found among them. -/
theorem between {kind : Item → Bool} (each : ∀ item, kind item = true → LocalTo item found) {before after : List Item}
    (first : ∀ item ∈ before, kind item = true) (last : ∀ item ∈ after, kind item = true) (middle : List Item) :
    found (before ++ middle ++ after) ↔ found middle := by
  induction before with
  | cons head rest ih =>
    have own := each head (first head List.mem_cons_self)
    have split := own.split [] (rest ++ middle ++ after)
    rw [List.nil_append] at split
    rw [List.cons_append, List.cons_append, split, or_iff_right own.nothing]
    exact ih fun item inside => first item (List.mem_cons_of_mem head inside)
  | nil =>
    rw [List.nil_append]
    induction after using List.reverseRecOn with
    | nil => rw [List.append_nil]
    | append_singleton rest tail ih =>
      have own := each tail (last tail (by simp))
      rw [← List.append_assoc, own.split, or_iff_left own.nothing]
      exact ih fun item inside => last item (List.mem_append_left _ inside)

end LocalTo

end DataMax.Library
