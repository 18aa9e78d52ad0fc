import Mathlib.Data.Int.Order.Basic
import Mathlib.Data.List.Induction
import Mathlib.Data.List.TakeDrop

/-! A log whose entries are numbered as they are committed, by writers that read the log some time
before they write to it. -/

namespace DataMax.Library

universe u

variable {Entry : Type u} (number : Entry → Int)

/-- The highest number, or zero where there is none. -/
def highest (log : List Entry) : Int := (log.map number).foldl max 0

/-- The number of every entry is its place, counted from one. -/
def Numbered (log : List Entry) : Prop := ∀ place (inside : place < log.length), number log[place] = place + 1

variable {number} {log earlier : List Entry} {entry : Entry}

theorem numbered_nil : Numbered number ([] : List Entry) := fun _ inside => absurd inside (Nat.not_lt_zero _)

theorem Numbered.concat (numbered : Numbered number log) (next : number entry = log.length + 1) :
    Numbered number (log ++ [entry]) := by
  intro place inside
  rw [List.length_append, List.length_singleton] at inside
  rcases Nat.lt_succ_iff_lt_or_eq.mp inside with before | rfl
  · rw [List.getElem_append_left before]
    exact numbered place before
  · rw [List.getElem_concat_length rfl]
    exact next

theorem Numbered.of_prefix (numbered : Numbered number log) (shorter : earlier <+: log) :
    Numbered number earlier := by
  intro place inside
  rw [shorter.getElem inside]
  exact numbered place (Nat.lt_of_lt_of_le inside shorter.length_le)

theorem highest_concat (log : List Entry) (entry : Entry) :
    highest number (log ++ [entry]) = max (highest number log) (number entry) := by
  rw [highest, List.map_append, List.foldl_append]
  rfl

theorem Numbered.highest (numbered : Numbered number log) : Library.highest number log = log.length := by
  induction log using List.reverseRecOn with
  | nil => rfl
  | append_singleton log entry ih =>
    have last := numbered log.length (by simp)
    rw [List.getElem_concat_length rfl] at last
    rw [highest_concat, ih (numbered.of_prefix (List.prefix_append ..)), last, List.length_append,
      List.length_singleton]
    omega

theorem Numbered.mem_iff (numbered : Numbered number log) {wanted : Int} :
    (∃ entry ∈ log, number entry = wanted) ↔ 1 ≤ wanted ∧ wanted ≤ log.length := by
  constructor
  · rintro ⟨entry, inside, rfl⟩
    obtain ⟨place, bounded, rfl⟩ := List.mem_iff_getElem.mp inside
    rw [numbered place bounded]
    omega
  · intro range
    have bounded : (wanted - 1).toNat < log.length := by omega
    refine ⟨log[(wanted - 1).toNat], List.getElem_mem bounded, ?_⟩
    rw [numbered _ bounded]
    omega

/-- The number a writer takes is free exactly where nothing was committed since it read the log. -/
theorem Numbered.free_iff (numbered : Numbered number log) (read : earlier <+: log) :
    (∀ entry ∈ log, number entry ≠ Library.highest number earlier + 1) ↔ earlier = log := by
  have taken : (∃ entry ∈ log, number entry = earlier.length + 1) ↔ 1 ≤ (earlier.length + 1 : Int) ∧
      (earlier.length + 1 : Int) ≤ log.length := numbered.mem_iff
  have shorter := read.length_le
  rw [(numbered.of_prefix read).highest]
  constructor
  · intro free
    refine read.eq_of_length_le (Nat.le_of_not_lt fun longer => ?_)
    obtain ⟨entry, inside, same⟩ := taken.mpr (by omega)
    exact free entry inside same
  · rintro rfl entry inside same
    have range := taken.mp ⟨entry, inside, same⟩
    omega

theorem Numbered.increasing (numbered : Numbered number log) :
    log.Pairwise fun first second => number first < number second := by
  rw [List.pairwise_iff_getElem]
  intro first second inside within before
  rw [numbered first inside, numbered second within]
  omega

/-- The entries past a number are those that a log of that length lacks. -/
theorem Numbered.filter_later (numbered : Numbered number log) (seen : Nat) :
    log.filter (fun entry => decide ((seen : Int) < number entry)) = log.drop seen := by
  conv_lhs => rw [← List.take_append_drop seen log]
  rw [List.filter_append]
  have none : (log.take seen).filter (fun entry => decide ((seen : Int) < number entry)) = [] := by
    rw [List.filter_eq_nil_iff]
    intro entry inside
    obtain ⟨place, bounded, rfl⟩ := List.mem_iff_getElem.mp inside
    have range : place < seen ∧ place < log.length := by
      rw [List.length_take] at bounded
      omega
    rw [List.getElem_take, numbered place range.2, decide_eq_true_eq]
    omega
  have all : (log.drop seen).filter (fun entry => decide ((seen : Int) < number entry)) = log.drop seen := by
    rw [List.filter_eq_self]
    intro entry inside
    obtain ⟨place, bounded, rfl⟩ := List.mem_iff_getElem.mp inside
    rw [List.length_drop] at bounded
    rw [List.getElem_drop, numbered _ (by omega), decide_eq_true_eq]
    omega
  rw [none, all, List.nil_append]

end DataMax.Library
