import Mathlib.Data.List.Infix

/-! Scanning a text from mark to mark: the first occurrence of a part, what cannot hold one,
and the items that are found one after the other. -/

namespace DataMax.Library

universe u v
variable {Item : Type u} [DecidableEq Item]

/-- What is before the first occurrence of the part, and what is after it. -/
def splitOnce (part : List Item) : List Item → Option (List Item × List Item)
  | [] => if part = [] then some ([], []) else none
  | head :: tail =>
    if part.isPrefixOf (head :: tail) then some ([], (head :: tail).drop part.length)
    else (splitOnce part tail).map fun found => (head :: found.1, found.2)

/-- A search for the part reads over the text. -/
def Passes (part before : List Item) : Prop :=
  ∀ text, splitOnce part (before ++ text) = (splitOnce part text).map fun found => (before ++ found.1, found.2)

variable {part before after text tail : List Item} {head second other : Item}

theorem splitOnce_nil : splitOnce part [] = if part = [] then some ([], []) else none := rfl

theorem splitOnce_cons : splitOnce part (head :: tail) =
    if part.isPrefixOf (head :: tail) then some ([], (head :: tail).drop part.length)
    else (splitOnce part tail).map fun found => (head :: found.1, found.2) := rfl

theorem splitOnce_skip (different : ¬ part <+: head :: text) :
    splitOnce part (head :: text) = (splitOnce part text).map fun found => (head :: found.1, found.2) := by
  rw [splitOnce_cons, if_neg (by rwa [List.isPrefixOf_iff_prefix])]

theorem splitOnce_prefix (part text : List Item) : splitOnce part (part ++ text) = some ([], text) := by
  cases whole : part ++ text with
  | nil =>
    obtain ⟨rfl, rfl⟩ := List.append_eq_nil_iff.mp whole
    rfl
  | cons head tail =>
    have leading : part.isPrefixOf (head :: tail) := by
      rw [List.isPrefixOf_iff_prefix, ← whole]
      exact List.prefix_append part text
    rw [splitOnce_cons, if_pos leading, ← whole, List.drop_left]

theorem append_of_splitOnce (found : splitOnce part text = some (before, after)) : text = before ++ part ++ after := by
  induction text generalizing before with
  | nil =>
    rw [splitOnce_nil] at found
    split at found
    · rename_i empty
      cases found
      simp [empty]
    · cases found
  | cons head tail ih =>
    rw [splitOnce_cons] at found
    split at found
    · rename_i leading
      obtain ⟨rest, shape⟩ := List.isPrefixOf_iff_prefix.mp leading
      cases found
      rw [← shape, List.drop_left, List.nil_append]
    · obtain ⟨inner, later, same⟩ := Option.map_eq_some_iff.mp found
      cases same
      rw [ih later]
      rfl

theorem splitOnce_eq_none (absent : ¬ part <:+: text) : splitOnce part text = none := by
  cases found : splitOnce part text with
  | none => rfl
  | some sides =>
    rw [append_of_splitOnce found] at absent
    exact absurd (List.infix_append ..) absent

theorem splitOnce_ne_none (inside : part <:+: text) : splitOnce part text ≠ none := by
  induction text with
  | nil =>
    rw [List.infix_nil] at inside
    simp [splitOnce_nil, inside]
  | cons head tail ih =>
    rw [splitOnce_cons]
    split
    · simp
    · rename_i unlike
      rw [List.isPrefixOf_iff_prefix] at unlike
      rcases List.infix_cons_iff.mp inside with leading | later
      · exact absurd leading unlike
      · simpa using ih later

theorem passes_nil (part : List Item) : Passes part [] := by
  intro text
  cases found : splitOnce part text <;> simp [found]

theorem Passes.append (first : Passes part before) (later : Passes part after) : Passes part (before ++ after) := by
  intro text
  rw [List.append_assoc, first, later]
  cases splitOnce part text <;> simp

/-- What has none of the first item of the part is read over. -/
theorem passes_of_head (absent : head ∉ before) : Passes (head :: tail) before := by
  induction before with
  | nil => exact passes_nil _
  | cons first rest ih =>
    rw [List.mem_cons, not_or] at absent
    intro text
    rw [List.cons_append, splitOnce_skip fun leading => absent.1 (List.cons_prefix_cons.mp leading).1, ih absent.2]
    cases splitOnce (head :: tail) text <;> rfl

/-- A first item that goes on otherwise is read over. -/
theorem passes_pair (goesOn : second ≠ other) (apart : head ≠ other) : Passes (head :: second :: tail) [head, other] := by
  intro text
  have unlike : ¬ head :: second :: tail <+: head :: ([other] ++ text) := by
    intro leading
    exact goesOn (List.cons_prefix_cons.mp (List.cons_prefix_cons.mp leading).2).1
  have alone : Passes (head :: second :: tail) [other] := passes_of_head (by simpa using apart)
  have shape : [head, other] ++ text = head :: ([other] ++ text) := rfl
  rw [shape, splitOnce_skip unlike, alone]
  cases splitOnce (head :: second :: tail) text <;> rfl

theorem Passes.splitOnce_found (passes : Passes part before) :
    splitOnce part (before ++ (part ++ after)) = some (before, after) := by
  rw [passes, splitOnce_prefix, Option.map_some, List.append_nil]

/-- A part whose first item does not come again is found where it stands first. -/
theorem splitOnce_first (once : head ∉ tail) (absent : ¬ head :: tail <:+: before) (after : List Item) :
    splitOnce (head :: tail) (before ++ (head :: tail ++ after)) = some (before, after) := by
  induction before with
  | nil => exact splitOnce_prefix ..
  | cons first rest ih =>
    rw [List.infix_cons_iff, not_or] at absent
    have unlike : ¬ head :: tail <+: first :: (rest ++ (head :: tail ++ after)) := by
      intro leading
      rcases List.prefix_or_prefix_of_prefix leading (List.prefix_append (first :: rest) _) with whole | within
      · exact absent.1 whole
      · obtain ⟨rfl, inner⟩ := List.cons_prefix_cons.mp within
        obtain ⟨more, rfl⟩ := inner
        rw [List.cons_prefix_cons, List.prefix_append_right_inj] at leading
        cases more with
        | nil => simp at absent
        | cons next others =>
          obtain ⟨rfl, -⟩ := List.cons_prefix_cons.mp leading.2
          simp at once
    rw [List.cons_append, splitOnce_skip unlike, ih absent.2]
    rfl

section Scan

variable {Found : Type v} {next : List Item → Option (Found × List Item)} {found : Found} {rest : List Item}

omit [DecidableEq Item]

/-- The items found one after the other, in so many rounds at most. -/
def scan (next : List Item → Option (Found × List Item)) : Nat → List Item → List Found
  | 0, _ => []
  | rounds + 1, text => match next text with
    | none => []
    | some (found, rest) => found :: scan next rounds rest

/-- As many rounds as the text has places for an item. -/
def scanAll (next : List Item → Option (Found × List Item)) (text : List Item) : List Found :=
  scan next (text.length + 1) text

/-- What is found is taken from the text. -/
def Advances (next : List Item → Option (Found × List Item)) : Prop :=
  ∀ text found rest, next text = some (found, rest) → rest.length < text.length

attribute [local simp] scan in
theorem scan_enough (advances : Advances next) {rounds more : Nat} (enough : text.length < rounds)
    (also : text.length < more) : scan next rounds text = scan next more text := by
  induction rounds generalizing more text with
  | zero => exact absurd enough (Nat.not_lt_zero _)
  | succ rounds ih =>
    cases more with
    | zero => exact absurd also (Nat.not_lt_zero _)
    | succ more =>
      cases step : next text with
      | none => simp [scan, step]
      | some pair =>
        have shorter := advances text pair.1 pair.2 step
        have same : scan next rounds pair.2 = scan next more pair.2 := ih (by omega) (by omega)
        simp only [scan, step, same]

theorem scanAll_none (nothing : next text = none) : scanAll next text = [] := by
  simp [scanAll, scan, nothing]

theorem scanAll_some (advances : Advances next) (step : next text = some (found, rest)) :
    scanAll next text = found :: scanAll next rest := by
  have shorter := advances text found rest step
  rw [scanAll, scan, step]
  exact congrArg (found :: ·) (scan_enough advances shorter (Nat.lt_succ_self _))

/-- What is found lies in the text. -/
theorem infix_of_mem_scanAll {shown : Found → List Item}
    (step : ∀ text found rest, next text = some (found, rest) → shown found <:+: text ∧ rest <:+: text)
    (listed : found ∈ scanAll next text) : shown found <:+: text := by
  suffices rounds : ∀ rounds text, found ∈ scan next rounds text → shown found <:+: text from rounds _ _ listed
  intro rounds
  induction rounds with
  | zero => simp [scan]
  | succ rounds ih =>
    intro text listed
    cases first : next text with
    | none => simp [scan, first] at listed
    | some pair =>
      obtain ⟨here, later⟩ := step text pair.1 pair.2 first
      simp only [scan, first, List.mem_cons] at listed
      rcases listed with rfl | listed
      · exact here
      · exact (ih pair.2 listed).trans later

end Scan

end DataMax.Library
