import Mathlib.Data.List.Infix

/-! Maximal runs of the items of one kind in a list, and the buffer of a scanner that finds them. -/

namespace DataMax.Library

universe u v
variable {Item : Type u} {belongs : Item → Bool} {items run : List Item} {item : Item}

/-- Nothing of the kind stands at the end. -/
def EndsOutside (belongs : Item → Bool) (items : List Item) : Prop :=
  ∀ last ∈ items.getLast?, belongs last = false

/-- A nonempty run of the kind that cannot be extended on either side. -/
def MaximalRun (belongs : Item → Bool) (items run : List Item) : Prop :=
  run ≠ [] ∧ (∀ member ∈ run, belongs member) ∧ ∃ before after, items = before ++ run ++ after ∧
    EndsOutside belongs before ∧ ∀ first ∈ after.head?, belongs first = false

/-- A run that an item of another kind has ended. -/
def ClosedRun (belongs : Item → Bool) (items run : List Item) : Prop :=
  run ≠ [] ∧ (∀ member ∈ run, belongs member) ∧ ∃ before stop after, items = before ++ run ++ stop :: after ∧
    EndsOutside belongs before ∧ belongs stop = false

/-- The run, possibly empty, that reaches the end. -/
def PendingRun (belongs : Item → Bool) (items run : List Item) : Prop :=
  (∀ member ∈ run, belongs member) ∧ ∃ before, items = before ++ run ∧ EndsOutside belongs before

theorem maximalRun_iff : MaximalRun belongs items run ↔
    ClosedRun belongs items run ∨ (run ≠ [] ∧ PendingRun belongs items run) := by
  constructor
  · intro maximal
    rcases maximal with ⟨nonempty, members, before, after, split, outside, stopped⟩
    cases after with
    | nil => exact .inr ⟨nonempty, members, before, by simpa using split, outside⟩
    | cons stop rest => exact .inl ⟨nonempty, members, before, stop, rest, split, outside, stopped stop rfl⟩
  · intro found
    rcases found with ⟨nonempty, members, before, stop, rest, split, outside, stopped⟩ |
      ⟨nonempty, members, before, split, outside⟩
    · exact ⟨nonempty, members, before, stop :: rest, split, outside, by simp [stopped]⟩
    · exact ⟨nonempty, members, before, [], by simpa using split, outside, by simp⟩

theorem not_closedRun_nil : ¬ ClosedRun belongs [] run := by
  intro closed
  rcases closed with ⟨-, -, before, stop, after, split, -⟩
  simp at split

theorem pendingRun_nil : PendingRun belongs [] run ↔ run = [] := by
  constructor
  · intro pending
    rcases pending with ⟨-, before, split, -⟩
    exact (List.append_eq_nil_iff.mp split.symm).2
  · intro empty
    subst run
    exact ⟨by simp, [], rfl, by simp [EndsOutside]⟩

/-- Only an item of another kind ends a run. -/
theorem closedRun_concat : ClosedRun belongs (items ++ [item]) run ↔
    ClosedRun belongs items run ∨ (belongs item = false ∧ run ≠ [] ∧ PendingRun belongs items run) := by
  constructor
  · intro closed
    rcases closed with ⟨nonempty, members, before, stop, after, split, outside, stopped⟩
    rcases List.eq_nil_or_concat after with empty | ⟨shorter, last, longer⟩
    · subst after
      have ends := List.append_inj' split rfl
      cases ends.2
      exact .inr ⟨stopped, nonempty, members, before, ends.1, outside⟩
    · subst after
      have regrouped : items ++ [item] = (before ++ run ++ stop :: shorter) ++ [last] := by simpa using split
      have ends := List.append_inj' regrouped rfl
      exact .inl ⟨nonempty, members, before, stop, shorter, ends.1, outside, stopped⟩
  · intro found
    rcases found with ⟨nonempty, members, before, stop, after, split, outside, stopped⟩ |
      ⟨stopped, nonempty, members, before, split, outside⟩
    · exact ⟨nonempty, members, before, stop, after ++ [item], by simp [split], outside, stopped⟩
    · exact ⟨nonempty, members, before, item, [], by simp [split], outside, stopped⟩

theorem pendingRun_concat : PendingRun belongs (items ++ [item]) run ↔
    if belongs item then ∃ shorter, PendingRun belongs items shorter ∧ run = shorter ++ [item] else run = [] := by
  by_cases inside : belongs item
  · rw [if_pos inside]
    constructor
    · intro pending
      rcases pending with ⟨members, before, split, outside⟩
      rcases List.eq_nil_or_concat run with empty | ⟨shorter, last, longer⟩
      · subst run
        have ended : belongs item = false := outside item (by rw [← List.append_nil before, ← split]; simp)
        exact absurd inside (by simp [ended])
      · subst run
        have regrouped : items ++ [item] = (before ++ shorter) ++ [last] := by simpa using split
        have ends := List.append_inj' regrouped rfl
        cases ends.2
        exact ⟨shorter, ⟨fun member found => members member (by simp [found]), before, ends.1, outside⟩, by simp⟩
    · intro extended
      rcases extended with ⟨shorter, ⟨members, before, split, outside⟩, longer⟩
      subst run
      refine ⟨?_, before, by simp [split], outside⟩
      intro member found
      rcases List.mem_append.mp found with earlier | last
      · exact members member earlier
      · rw [List.mem_singleton.mp last]
        exact inside
  · rw [if_neg inside]
    constructor
    · intro pending
      rcases pending with ⟨members, before, split, outside⟩
      rcases List.eq_nil_or_concat run with empty | ⟨shorter, last, longer⟩
      · exact empty
      · subst run
        have regrouped : items ++ [item] = (before ++ shorter) ++ [last] := by simpa using split
        cases (List.append_inj' regrouped rfl).2
        exact absurd (members item (by simp)) inside
    · intro empty
      subst run
      refine ⟨by simp, items ++ [item], by simp, ?_⟩
      intro last found
      rw [List.getLast?_concat] at found
      cases found
      simpa using inside

section Scanning

variable {Token : Type v} {emits : List Item → Token → Prop} {buffer : List Item} {found : Token → Prop}

/-- After the items seen so far the buffer holds the run that is still open, and the tokens of all the runs that
have ended are found. -/
structure RunBuffer (belongs : Item → Bool) (emits : List Item → Token → Prop) (seen buffer : List Item)
    (found : Token → Prop) : Prop where
  pending : ∀ run, PendingRun belongs seen run ↔ run = buffer
  closed : ∀ token, found token ↔ ∃ run, ClosedRun belongs seen run ∧ emits run token

theorem RunBuffer.start (belongs : Item → Bool) (emits : List Item → Token → Prop) :
    RunBuffer belongs emits [] [] fun _ => False where
  pending run := pendingRun_nil
  closed token := by
    constructor
    · exact False.elim
    · intro present
      rcases present with ⟨run, closed, -⟩
      exact not_closedRun_nil closed

theorem RunBuffer.push (scanned : RunBuffer belongs emits items buffer found) (inside : belongs item) :
    RunBuffer belongs emits (items ++ [item]) (buffer ++ [item]) found where
  pending run := by
    rw [pendingRun_concat, if_pos inside]
    constructor
    · intro extended
      rcases extended with ⟨shorter, pending, longer⟩
      rw [longer, (scanned.pending shorter).mp pending]
    · intro longer
      exact ⟨buffer, (scanned.pending buffer).mpr rfl, longer⟩
  closed token := by
    rw [scanned.closed]
    simp only [closedRun_concat, inside, Bool.true_eq_false, false_and, or_false]

/-- An empty buffer has nothing to emit. -/
def Quiet (emits : List Item → Token → Prop) : Prop := ∀ token, ¬ emits [] token

theorem Quiet.ne_nil {token : Token} (quiet : Quiet emits) (emitted : emits buffer token) : buffer ≠ [] := by
  intro empty
  exact quiet token (empty ▸ emitted)

theorem RunBuffer.flush (scanned : RunBuffer belongs emits items buffer found) (quiet : Quiet emits)
    (outside : belongs item = false) :
    RunBuffer belongs emits (items ++ [item]) [] fun token => found token ∨ emits buffer token where
  pending run := by
    rw [pendingRun_concat, if_neg (by simp [outside])]
  closed token := by
    rw [scanned.closed]
    simp only [closedRun_concat, outside, true_and, scanned.pending]
    constructor
    · intro present
      rcases present with ⟨run, closed, emitted⟩ | emitted
      · exact ⟨run, .inl closed, emitted⟩
      · exact ⟨buffer, .inr ⟨quiet.ne_nil emitted, rfl⟩, emitted⟩
    · intro present
      rcases present with ⟨run, closed | ⟨-, rfl⟩, emitted⟩
      · exact .inl ⟨run, closed, emitted⟩
      · exact .inr emitted

/-- A last flush finds the tokens of all the maximal runs. -/
theorem RunBuffer.finish (scanned : RunBuffer belongs emits items buffer found) (quiet : Quiet emits) (token : Token) :
    found token ∨ emits buffer token ↔ ∃ run, MaximalRun belongs items run ∧ emits run token := by
  rw [scanned.closed]
  simp only [maximalRun_iff, scanned.pending]
  constructor
  · intro present
    rcases present with ⟨run, closed, emitted⟩ | emitted
    · exact ⟨run, .inl closed, emitted⟩
    · exact ⟨buffer, .inr ⟨quiet.ne_nil emitted, rfl⟩, emitted⟩
  · intro present
    rcases present with ⟨run, closed | ⟨-, rfl⟩, emitted⟩
    · exact .inl ⟨run, closed, emitted⟩
    · exact .inr emitted

theorem RunBuffer.members (scanned : RunBuffer belongs emits items buffer found) : ∀ member ∈ buffer, belongs member :=
  ((scanned.pending buffer).mpr rfl).1

end Scanning

section Windows

/-- All the windows of one size, `slice::windows`. -/
def windows (size : Nat) (items : List Item) : List (List Item) :=
  (List.range (items.length + 1 - size)).map fun start => (items.drop start).take size

theorem mem_windows {size : Nat} {window : List Item} :
    window ∈ windows size items ↔ window.length = size ∧ window <:+: items := by
  rw [windows, List.mem_map]
  constructor
  · intro listed
    rcases listed with ⟨start, bounded, rfl⟩
    rw [List.mem_range] at bounded
    refine ⟨?_, ((List.take_prefix size _).isInfix).trans (List.drop_suffix start items).isInfix⟩
    rw [List.length_take, List.length_drop]
    omega
  · intro inside
    rcases inside with ⟨sized, before, after, split⟩
    refine ⟨before.length, ?_, ?_⟩
    · rw [List.mem_range, ← split]
      simp only [List.length_append]
      omega
    · rw [← split, List.append_assoc, List.drop_left, ← sized, List.take_left]

end Windows

end DataMax.Library
