import Mathlib.Data.List.Basic
import Mathlib.Logic.Function.Basic

/-! Renderings of values as sequences of symbols that can be read back when
further symbols follow. -/

namespace DataMax.Library

universe u v w

variable {Item : Type u} {Symbol : Type v}

/-- The end of a rendering is seen from its own symbols, whatever follows. -/
def PrefixFree (render : Item → List Symbol) : Prop :=
  ∀ first second rest others, render first ++ rest = render second ++ others → first = second ∧ rest = others

variable {render : Item → List Symbol}

theorem PrefixFree.injective (free : PrefixFree render) : Function.Injective render := by
  intro first second same
  exact (free first second [] [] (by rw [same])).1

theorem PrefixFree.of_width {width : Nat} (widths : ∀ item, (render item).length = width)
    (injective : Function.Injective render) : PrefixFree render := by
  intro first second rest others same
  have lengths : (render first).length = (render second).length := by rw [widths, widths]
  obtain ⟨rendered, following⟩ := List.append_inj same lengths
  exact ⟨injective rendered, following⟩

theorem PrefixFree.comp {Source : Type w} {view : Source → Item} (free : PrefixFree render)
    (injective : Function.Injective view) : PrefixFree (render ∘ view) := by
  intro first second rest others same
  obtain ⟨viewed, following⟩ := free _ _ _ _ same
  exact ⟨injective viewed, following⟩

/-- One rendering after another. -/
theorem PrefixFree.pair {Other : Type w} {following : Other → List Symbol} (free : PrefixFree render)
    (followed : PrefixFree following) :
    PrefixFree fun value : Item × Other => render value.1 ++ following value.2 := by
  rintro ⟨first, after⟩ ⟨second, later⟩ rest others same
  simp only [List.append_assoc] at same
  obtain ⟨equal, remaining⟩ := free _ _ _ _ same
  obtain ⟨alike, extra⟩ := followed _ _ _ _ remaining
  exact ⟨Prod.ext equal alike, extra⟩

/-- A symbol that no rendering contains ends each of them. -/
theorem PrefixFree.terminated {mark : Symbol} (injective : Function.Injective render)
    (absent : ∀ item, mark ∉ render item) : PrefixFree fun item => render item ++ [mark] := by
  have split : ∀ first second rest others : List Symbol, mark ∉ first → mark ∉ second →
      first ++ mark :: rest = second ++ mark :: others → first = second ∧ rest = others := by
    intro first
    induction first with
    | nil =>
      intro second rest others _ without same
      cases second with
      | nil => simpa using same
      | cons head tail =>
        have marked : mark = head := by simpa using (List.cons.inj same).1
        simp [marked] at without
    | cons head tail ih =>
      intro second rest others without lacking same
      cases second with
      | nil =>
        have marked : head = mark := by simpa using (List.cons.inj same).1
        simp [marked] at without
      | cons other remaining =>
        obtain ⟨heads, tails⟩ := List.cons.inj same
        obtain ⟨equal, following⟩ := ih remaining rest others (fun inside => without (.tail _ inside))
          (fun inside => lacking (.tail _ inside)) tails
        exact ⟨by rw [heads, equal], following⟩
  intro first second rest others same
  simp only [List.append_assoc, List.singleton_append] at same
  obtain ⟨rendered, following⟩ := split _ _ _ _ (absent first) (absent second) same
  exact ⟨injective rendered, following⟩

/-- A measure of each rendering, itself readable, is written before it. -/
theorem PrefixFree.framed {number : Nat → List Symbol} {size : List Symbol → Nat} (free : PrefixFree number)
    (sizes : ∀ first second, size (first ++ second) = size first + size second)
    (positive : ∀ symbols, size symbols = 0 → symbols = []) (injective : Function.Injective render) :
    PrefixFree fun item => number (size (render item)) ++ render item := by
  have same_size : ∀ first second rest others : List Symbol, size first = size second →
      first ++ rest = second ++ others → first = second ∧ rest = others := by
    intro first second rest others measured same
    rcases List.append_eq_append_iff.mp same with ⟨extra, longer, following⟩ | ⟨extra, longer, following⟩
    · have blank : extra = [] := positive extra (by rw [longer, sizes] at measured; omega)
      simp [longer, following, blank]
    · have blank : extra = [] := positive extra (by rw [longer, sizes] at measured; omega)
      simp [longer, following, blank]
  intro first second rest others same
  simp only [List.append_assoc] at same
  obtain ⟨measured, remaining⟩ := free _ _ _ _ same
  obtain ⟨rendered, following⟩ := same_size _ _ _ _ measured remaining
  exact ⟨injective rendered, following⟩

/-- Each item is announced by one symbol and the sequence is ended by another. -/
theorem PrefixFree.sequence {announce stop : Symbol} (free : PrefixFree render) (different : announce ≠ stop) :
    PrefixFree fun items : List Item => items.flatMap (fun item => announce :: render item) ++ [stop] := by
  intro first
  induction first with
  | nil =>
    intro second rest others same
    cases second with
    | nil => simpa using same
    | cons head tail => exact False.elim (different (by simpa using (List.cons.inj same).1.symm))
  | cons head tail ih =>
    intro second rest others same
    cases second with
    | nil => exact False.elim (different (by simpa using (List.cons.inj same).1))
    | cons other remaining =>
      simp only [List.flatMap_cons, List.cons_append, List.append_assoc, List.cons.injEq, true_and] at same
      obtain ⟨heads, following⟩ := free _ _ _ _ same
      obtain ⟨tails, extra⟩ := ih remaining rest others (by simpa using following)
      exact ⟨by rw [heads, tails], extra⟩

theorem PrefixFree.flatMap_injective (free : PrefixFree render) (nonempty : ∀ item, render item ≠ []) :
    Function.Injective fun items : List Item => items.flatMap render := by
  intro first
  induction first with
  | nil =>
    intro second same
    cases second with
    | nil => rfl
    | cons head tail =>
      have blank : render head = [] := (List.append_eq_nil_iff.mp same.symm).1
      exact False.elim (nonempty head blank)
  | cons head tail ih =>
    intro second same
    cases second with
    | nil =>
      have blank : render head = [] := (List.append_eq_nil_iff.mp same).1
      exact False.elim (nonempty head blank)
    | cons other remaining =>
      obtain ⟨heads, tails⟩ := free _ _ _ _ same
      rw [heads, ih tails]

section Separated

variable {mark symbol : Symbol} {parts others : List (List Symbol)}

theorem mem_intercalate (inside : symbol ∈ [mark].intercalate parts) :
    symbol = mark ∨ ∃ part ∈ parts, symbol ∈ part := by
  induction parts with
  | nil => simp at inside
  | cons head rest ih =>
    cases rest with
    | nil => exact .inr ⟨head, List.mem_cons_self, by simpa using inside⟩
    | cons next remaining =>
      rw [List.intercalate_cons_cons, List.mem_append, List.mem_append, List.mem_singleton] at inside
      rcases inside with (within | same) | later
      · exact .inr ⟨head, List.mem_cons_self, within⟩
      · exact .inl same
      · rcases ih later with same | ⟨part, listed, within⟩
        · exact .inl same
        · exact .inr ⟨part, List.mem_cons_of_mem head listed, within⟩

theorem intercalate_ne_nil (nonempty : parts ≠ []) (each : ∀ part ∈ parts, part ≠ []) : [mark].intercalate parts ≠ [] := by
  cases parts with
  | nil => exact False.elim (nonempty rfl)
  | cons head rest =>
    cases rest with
    | nil => simpa using each head List.mem_cons_self
    | cons next remaining => simp [List.intercalate_cons_cons]

/-- Other symbols than the mark come from the parts. -/
theorem mem_intercalate_iff (other : symbol ≠ mark) :
    symbol ∈ [mark].intercalate parts ↔ ∃ part ∈ parts, symbol ∈ part := by
  constructor
  · intro inside
    exact (mem_intercalate inside).resolve_left other
  · rintro ⟨part, listed, within⟩
    induction parts with
    | nil => cases listed
    | cons head rest ih =>
      cases rest with
      | nil =>
        rcases List.mem_cons.mp listed with rfl | none
        · simpa using within
        · cases none
      | cons next remaining =>
        rw [List.intercalate_cons_cons, List.mem_append, List.mem_append]
        rcases List.mem_cons.mp listed with rfl | later
        · exact .inl (.inl within)
        · exact .inr (ih later)

/-- Parts that are not empty and do not contain the mark between them. -/
theorem intercalate_injective [DecidableEq Symbol] (filled : ∀ part ∈ parts, part ≠ [] ∧ mark ∉ part)
    (othersFilled : ∀ part ∈ others, part ≠ [] ∧ mark ∉ part)
    (same : [mark].intercalate parts = [mark].intercalate others) : parts = others := by
  have blank : ∀ rows : List (List Symbol), (∀ part ∈ rows, part ≠ [] ∧ mark ∉ part) →
      [mark].intercalate rows = [] → rows = [] := by
    intro rows full none
    cases rows with
    | nil => rfl
    | cons head rest =>
      have empty : head = [] := by
        cases rest with
        | nil => simpa using none
        | cons next remaining => simp at none
      exact False.elim ((full head List.mem_cons_self).1 empty)
  by_cases empty : parts = []
  · subst empty
    exact (blank others othersFilled same.symm).symm
  by_cases otherEmpty : others = []
  · subst otherEmpty
    exact blank parts filled same
  rw [← List.splitOn_intercalate mark (fun part listed => (filled part listed).2) empty, same,
    List.splitOn_intercalate mark (fun part listed => (othersFilled part listed).2) otherEmpty]

/-- All parts but the first are announced by the mark. -/
theorem intercalate_announced (mark : Symbol) (head : List Symbol) (rest : List (List Symbol)) :
    [mark].intercalate (head :: rest) = head ++ rest.flatMap (mark :: ·) := by
  induction rest generalizing head with
  | nil => simp
  | cons next rest ih =>
    rw [List.intercalate_cons_cons, ih, List.flatMap_cons]
    simp

/-- Parts that do not contain the mark, each announced by it. -/
theorem announced_injective [DecidableEq Symbol] (bare : ∀ part ∈ parts, mark ∉ part)
    (othersBare : ∀ part ∈ others, mark ∉ part)
    (same : parts.flatMap (mark :: ·) = others.flatMap (mark :: ·)) : parts = others := by
  have split : ∀ rows : List (List Symbol), (∀ part ∈ rows, mark ∉ part) →
      (rows.flatMap (mark :: ·)).splitOn mark = [] :: rows := by
    intro rows without
    have separated : rows.flatMap (mark :: ·) = [mark].intercalate ([] :: rows) := by
      rw [intercalate_announced, List.nil_append]
    rw [separated]
    exact List.splitOn_intercalate mark (by simpa using without) (by simp)
  have rows := split parts bare
  rw [same, split others othersBare] at rows
  exact (List.cons.inj rows).2.symm

end Separated

end DataMax.Library
