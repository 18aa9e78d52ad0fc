import Mathlib.Algebra.Ring.Nat
import Mathlib.Tactic.Common

/-! Weights counted in windows: a window begins when the one before it has elapsed, and what is in one
window stays within a limit. What an interval of any other place can hold follows. -/

namespace DataMax.Library

/-- The weight of the entries between the two instants, without the last one. -/
def within (since till : Nat) (log : List (Nat × Nat)) : Nat :=
  ((log.filter fun entry => since ≤ entry.1 ∧ entry.1 < till).map (·.2)).sum

section Within

variable {since till middle now weight : Nat} {log : List (Nat × Nat)}

@[simp] theorem within_nil : within since till [] = 0 := rfl

theorem within_concat : within since till (log ++ [(now, weight)]) =
    within since till log + if since ≤ now ∧ now < till then weight else 0 := by
  rw [within, List.filter_append, List.map_append, List.sum_append, ← within]
  split <;> simp_all

theorem within_cons {entry : Nat × Nat} : within since till (entry :: log) =
    (if since ≤ entry.1 ∧ entry.1 < till then entry.2 else 0) + within since till log := by
  rw [within, List.filter_cons]
  by_cases inside : since ≤ entry.1 ∧ entry.1 < till
  · rw [if_pos (decide_eq_true inside), if_pos inside, List.map_cons, List.sum_cons, within]
  · rw [if_neg (by simpa using inside), if_neg inside, Nat.zero_add, within]

theorem within_split (early : since ≤ middle) (late : middle ≤ till) :
    within since till log = within since middle log + within middle till log := by
  induction log with
  | nil => rfl
  | cons entry rest ih =>
    rw [within_cons, within_cons, within_cons, ih]
    split <;> split <;> split <;> omega

/-- Where no entry is later, the interval need not reach further. -/
theorem within_le {earlier last : Nat} (inside : ∀ entry ∈ log, entry.1 < last) (early : earlier ≤ since) :
    within since till log ≤ within earlier last log := by
  induction log with
  | nil => exact Nat.le_refl _
  | cons entry rest ih =>
    obtain ⟨here, later⟩ := List.forall_mem_cons.mp inside
    have rest := ih later
    rw [within_cons, within_cons]
    split <;> split <;> omega

theorem within_eq_zero (before : ∀ entry ∈ log, entry.1 < since) : within since till log = 0 := by
  induction log with
  | nil => rfl
  | cons entry rest ih =>
    obtain ⟨here, later⟩ := List.forall_mem_cons.mp before
    rw [within_cons, ih later, if_neg (by omega)]

end Within

/-- What is known of the log in the window that begins at `start`. -/
structure Windowed (limit length : Nat) (log : List (Nat × Nat)) (starts : List Nat) (start : Nat) : Prop where
  inside : ∀ entry ∈ log, entry.1 < start + length
  current : within start (start + length) log ≤ limit
  /-- An interval that reaches into the window meets only one window before it. -/
  previous : ∀ since, start ≤ since + length → within since start log ≤ limit
  anywhere : ∀ since, within since (since + length + 1) log ≤ 2 * limit
  aligned : ∀ first ∈ starts, within first (first + length) log ≤ limit
  apart : ∀ first ∈ starts, first = start ∨ first + length ≤ start

namespace Windowed

variable {limit length start now weight : Nat} {log : List (Nat × Nat)} {starts : List Nat}

theorem first : Windowed limit length [] [now] now where
  inside := by simp
  current := by simp
  previous := by simp
  anywhere := by simp
  aligned := by simp
  apart := by simp

/-- A window that has elapsed is the one before the next. -/
theorem restart (windowed : Windowed limit length log starts start) (elapsed : start + length ≤ now) :
    Windowed limit length log (now :: starts) now := by
  have before : ∀ entry ∈ log, entry.1 < now := fun entry listed => Nat.lt_of_lt_of_le (windowed.inside entry listed) elapsed
  have empty : within now (now + length) log = 0 := within_eq_zero before
  refine { windowed with inside := ?_, current := ?_, previous := ?_, aligned := ?_, apart := ?_ }
  · exact fun entry listed => Nat.lt_of_lt_of_le (before entry listed) (Nat.le_add_right ..)
  · omega
  · intro since reaches
    exact Nat.le_trans (within_le windowed.inside (by omega)) windowed.current
  · exact List.forall_mem_cons.mpr ⟨by omega, windowed.aligned⟩
  · refine List.forall_mem_cons.mpr ⟨.inl rfl, fun first listed => .inr ?_⟩
    rcases windowed.apart first listed with same | earlier
    · omega
    · omega

/-- The window can be named once more. -/
theorem again (windowed : Windowed limit length log starts start) : Windowed limit length log (start :: starts) start :=
  { windowed with
    aligned := List.forall_mem_cons.mpr ⟨windowed.current, windowed.aligned⟩
    apart := List.forall_mem_cons.mpr ⟨.inl rfl, windowed.apart⟩ }

/-- An entry that the limit of the window leaves room for. -/
theorem admitted (windowed : Windowed limit length log starts start) (began : start ≤ now) (running : now < start + length)
    (room : within start (start + length) log + weight ≤ limit) :
    Windowed limit length (log ++ [(now, weight)]) starts start where
  inside := by
    intro entry listed
    rcases List.mem_append.mp listed with earlier | last
    · exact windowed.inside entry earlier
    · rw [List.mem_singleton.mp last]
      exact running
  current := by
    rw [within_concat]
    split <;> omega
  previous := by
    intro since reaches
    rw [within_concat, if_neg (by omega)]
    exact windowed.previous since reaches
  anywhere := by
    intro since
    rw [within_concat]
    split
    · rename_i meets
      -- What is in the interval is in this window or in the one before it.
      rcases Nat.le_total since start with before | after
      · have earlier := windowed.previous since (by omega)
        have own : within start (since + length + 1) log ≤ within start (start + length) log :=
          within_le windowed.inside (Nat.le_refl start)
        rw [within_split before (by omega)]
        omega
      · have own : within since (since + length + 1) log ≤ within start (start + length) log :=
          within_le windowed.inside after
        omega
    · exact windowed.anywhere since
  aligned := by
    intro first listed
    rw [within_concat]
    rcases windowed.apart first listed with same | earlier
    · subst same
      split <;> omega
    · rw [if_neg (by omega)]
      exact windowed.aligned first listed
  apart := windowed.apart

end Windowed

end DataMax.Library
