import Mathlib.Data.List.Infix

/-! Replacement of all occurrences of a part, from the left and without overlaps, and
when a word cannot occur in the result. -/

namespace DataMax.Library

universe u
variable {Item : Type u} [DecidableEq Item]

/-- The first count of items still belongs to an occurrence. -/
def replaceFrom (part replacement : List Item) : Nat → List Item → List Item
  | _, [] => []
  | skip + 1, _ :: rest => replaceFrom part replacement skip rest
  | 0, head :: rest =>
    if part.isPrefixOf (head :: rest) then replacement ++ replaceFrom part replacement (part.length - 1) rest
    else head :: replaceFrom part replacement 0 rest

def replaceAll (part replacement text : List Item) : List Item := replaceFrom part replacement 0 text

/-- One of the two starts with the other. -/
def agree (first second : List Item) : Bool := first.isPrefixOf second || second.isPrefixOf first

/-- The word neither starts inside the replacement nor runs into it. -/
def staysApart (word replacement : List Item) : Bool :=
  (replacement.tails.all fun rest => rest.isEmpty || !agree word rest) &&
    word.tails.all fun rest => rest.isEmpty || !agree rest replacement

variable {part replacement word text before after : List Item}

theorem agree_iff : agree word text ↔ word <+: text ∨ text <+: word := by
  simp [agree, List.isPrefixOf_iff_prefix]

theorem agree_of_prefix_append (leading : word <+: before ++ after) : agree word before := by
  rw [agree_iff]
  exact List.prefix_or_prefix_of_prefix leading (List.prefix_append before after)

theorem not_agree_of_suffix (apart : staysApart word replacement) {rest : List Item} (ending : rest <:+ word)
    (nonempty : rest ≠ []) : ¬ agree rest replacement := by
  simp only [staysApart, Bool.and_eq_true, List.all_eq_true, List.mem_tails] at apart
  have known := apart.2 rest ending
  simpa [nonempty] using known

theorem not_agree_of_replacement_suffix (apart : staysApart word replacement) {rest : List Item}
    (ending : rest <:+ replacement) (nonempty : rest ≠ []) : ¬ agree word rest := by
  simp only [staysApart, Bool.and_eq_true, List.all_eq_true, List.mem_tails] at apart
  have known := apart.1 rest ending
  simpa [nonempty] using known

attribute [local simp] replaceFrom in
/-- What the result starts with, the text starts with. -/
theorem prefix_of_prefix_replaceFrom (apart : staysApart word replacement) {rest : List Item} (ending : rest <:+ word)
    (leading : rest <+: replaceFrom part replacement 0 text) : rest <+: text := by
  induction text generalizing rest with
  | nil => simpa using leading
  | cons head tail ih =>
    rw [replaceFrom] at leading
    cases rest with
    | nil => exact List.nil_prefix
    | cons first others =>
      split at leading
      · exact False.elim (not_agree_of_suffix apart ending (List.cons_ne_nil first others) (agree_of_prefix_append leading))
      · obtain ⟨rfl, later⟩ := List.cons_prefix_cons.mp leading
        exact List.cons_prefix_cons.mpr ⟨rfl, ih ((List.suffix_cons first others).trans ending) later⟩

omit [DecidableEq Item] in
/-- An infix of two joined lists begins in the first one or lies in the second one. -/
theorem infix_append_cases (inside : word <:+: before ++ after) :
    (∃ rest, rest <:+ before ∧ rest ≠ [] ∧ word <+: rest ++ after) ∨ word <:+: after := by
  induction before with
  | nil => exact .inr inside
  | cons head tail ih =>
    rcases List.infix_cons_iff.mp inside with leading | later
    · exact .inl ⟨head :: tail, List.suffix_rfl, List.cons_ne_nil head tail, leading⟩
    · rcases ih later with ⟨rest, ending, nonempty, leading⟩ | within
      · exact .inl ⟨rest, ending.trans (List.suffix_cons head tail), nonempty, leading⟩
      · exact .inr within

theorem not_infix_replaceFrom (apart : staysApart word replacement) (nonempty : word ≠ []) (skip : Nat)
    (absent : word = part ∨ ¬ word <:+: text) : ¬ word <:+: replaceFrom part replacement skip text := by
  induction text generalizing skip with
  | nil => simpa [replaceFrom] using nonempty
  | cons head tail ih =>
    have later : word = part ∨ ¬ word <:+: tail :=
      absent.imp_right fun beyond inside => beyond (inside.trans (List.suffix_cons head tail).isInfix)
    cases skip with
    | succ skip => exact ih skip later
    | zero =>
      rw [replaceFrom]
      split
      · intro inside
        rcases infix_append_cases inside with ⟨rest, ending, filled, leading⟩ | within
        · exact not_agree_of_replacement_suffix apart ending filled (agree_of_prefix_append leading)
        · exact ih _ later within
      · rename_i elsewhere
        intro inside
        rcases List.infix_cons_iff.mp inside with leading | within
        · have original : word <+: head :: tail := by
            cases word with
            | nil => exact absurd rfl nonempty
            | cons first others =>
              obtain ⟨rfl, rest⟩ := List.cons_prefix_cons.mp leading
              exact List.cons_prefix_cons.mpr
                ⟨rfl, prefix_of_prefix_replaceFrom apart (List.suffix_cons first others) rest⟩
          rcases absent with rfl | beyond
          · exact elsewhere (List.isPrefixOf_iff_prefix.mpr original)
          · exact beyond original.isInfix
        · exact ih 0 later within

/-- A word that the replacement neither has nor completes is absent from the result if it is the
replaced part or was absent from the text. -/
theorem not_infix_replaceAll (apart : staysApart word replacement) (nonempty : word ≠ [])
    (absent : word = part ∨ ¬ word <:+: text) : ¬ word <:+: replaceAll part replacement text :=
  not_infix_replaceFrom apart nonempty 0 absent

section Coding

variable {Other : Type u} {part replacement block text : List Item}

/-- The part starts nowhere inside the block. -/
def avoids (part block : List Item) : Bool := block.tails.all fun rest => rest.isEmpty || !agree part rest

theorem avoids_cons {head : Item} : avoids part (head :: block) = true ↔
    ¬ agree part (head :: block) ∧ avoids part block = true := by
  simp [avoids]

theorem not_prefix_of_avoids {head : Item} (apart : avoids part (head :: block) = true) :
    ¬ part.isPrefixOf (head :: (block ++ text)) := by
  rw [avoids_cons] at apart
  intro leading
  exact apart.1 (agree_of_prefix_append (List.isPrefixOf_iff_prefix.mp leading))

theorem replaceAll_append_block (apart : avoids part block) :
    replaceAll part replacement (block ++ text) = block ++ replaceAll part replacement text := by
  induction block with
  | nil => rfl
  | cons head rest ih =>
    have foreign := @not_prefix_of_avoids _ _ _ _ text _ apart
    rw [avoids_cons] at apart
    have inner := ih apart.2
    rw [replaceAll] at inner ⊢
    rw [List.cons_append, replaceFrom, if_neg foreign, inner, List.cons_append]

theorem replaceFrom_skip (dropped rest : List Item) :
    replaceFrom part replacement dropped.length (dropped ++ rest) = replaceAll part replacement rest := by
  induction dropped with
  | nil => rfl
  | cons head more ih => exact ih

theorem replaceAll_append_part (filled : part ≠ []) :
    replaceAll part replacement (part ++ text) = replacement ++ replaceAll part replacement text := by
  cases part with
  | nil => exact absurd rfl filled
  | cons head rest =>
    have leading : (head :: rest).isPrefixOf (head :: (rest ++ text)) :=
      List.isPrefixOf_iff_prefix.mpr (List.prefix_append (head :: rest) text)
    rw [replaceAll, List.cons_append, replaceFrom, if_pos leading]
    exact congrArg (replacement ++ ·) (replaceFrom_skip rest text)

/-- In a text of blocks, the blocks that are the part are replaced. -/
theorem replaceAll_flatMap {items : List Other} {encode decode : Other → List Item} (filled : part ≠ [])
    (blocks : ∀ item, encode item = part ∧ decode item = replacement ∨
      avoids part (encode item) ∧ decode item = encode item) :
    replaceAll part replacement (items.flatMap encode) = items.flatMap decode := by
  induction items with
  | nil => rfl
  | cons item rest ih =>
    rw [List.flatMap_cons, List.flatMap_cons]
    rcases blocks item with ⟨same, decoded⟩ | ⟨apart, decoded⟩
    · rw [same, decoded, replaceAll_append_part filled, ih]
    · rw [decoded, replaceAll_append_block apart, ih]

/-- A mark of one item is replaced wherever it stands. -/
theorem replaceAll_mark (mark : Item) (replacement text : List Item) :
    replaceAll [mark] replacement text = text.flatMap fun item => if item = mark then replacement else [item] := by
  have single : text.flatMap (fun item => [item]) = text := List.flatMap_singleton' text
  refine (congrArg (replaceAll [mark] replacement) single.symm).trans ?_
  refine replaceAll_flatMap (List.cons_ne_nil _ _) fun item => ?_
  by_cases same : item = mark
  · exact .inl ⟨by rw [same], if_pos same⟩
  · refine .inr ⟨?_, if_neg same⟩
    simp [avoids, agree, List.isPrefixOf, same, Ne.symm same]

theorem replaceAll_eq_self (absent : ¬ part <:+: text) : replaceAll part replacement text = text := by
  induction text with
  | nil => rfl
  | cons head rest ih =>
    have elsewhere : ¬ part.isPrefixOf (head :: rest) := fun leading =>
      absent (List.isPrefixOf_iff_prefix.mp leading).isInfix
    have inner := ih fun inside => absent (inside.trans (List.suffix_cons head rest).isInfix)
    rw [replaceAll] at inner ⊢
    rw [replaceFrom, if_neg elsewhere, inner]

theorem length_replaceFrom_le (shorter : replacement.length ≤ part.length) {skip : Nat} (within : skip ≤ text.length) :
    (replaceFrom part replacement skip text).length + skip ≤ text.length := by
  induction text generalizing skip with
  | nil => simpa [replaceFrom] using within
  | cons head rest ih =>
    cases skip with
    | succ skip =>
      have later := ih (Nat.le_of_succ_le_succ within)
      rw [replaceFrom, List.length_cons]
      omega
    | zero =>
      rw [replaceFrom]
      split
      · rename_i leading
        have fits := (List.isPrefixOf_iff_prefix.mp leading).length_le
        rw [List.length_cons] at fits
        have later := @ih (part.length - 1) (by omega)
        rw [List.length_append, List.length_cons]
        omega
      · have later := ih (Nat.zero_le _)
        rw [List.length_cons, List.length_cons]
        omega

theorem length_replaceAll_lt (shorter : replacement.length < part.length) (inside : part <:+: text) :
    (replaceAll part replacement text).length < text.length := by
  induction text with
  | nil =>
    have empty := List.infix_nil.mp inside
    simp [empty] at shorter
  | cons head rest ih =>
    rw [replaceAll, replaceFrom]
    split
    · rename_i leading
      have fits := (List.isPrefixOf_iff_prefix.mp leading).length_le
      rw [List.length_cons] at fits
      have later := @length_replaceFrom_le _ _ part replacement rest shorter.le (part.length - 1) (by omega)
      rw [List.length_append, List.length_cons]
      omega
    · rename_i elsewhere
      rcases List.infix_cons_iff.mp inside with leading | later
      · exact absurd (List.isPrefixOf_iff_prefix.mpr leading) elsewhere
      · exact Nat.succ_lt_succ (ih later)

/-- What gets shorter stays only if there is nothing to replace. -/
theorem replaceAll_eq_self_iff (shorter : replacement.length < part.length) :
    replaceAll part replacement text = text ↔ ¬ part <:+: text := by
  constructor
  · intro same inside
    have less := length_replaceAll_lt shorter inside
    rw [same] at less
    exact absurd less (Nat.lt_irrefl _)
  · exact replaceAll_eq_self

/-- One item is written as the part, others as blocks that start with the same mark, and the
rest as they are. -/
structure EncodesOne (mark : Item) (tail : List Item) (item : Item) (encode : Item → List Item) : Prop where
  unmarked : mark ∉ tail
  hidden : item ∉ mark :: tail
  own : encode item = mark :: tail
  others : ∀ other, other ≠ item → encode other = [other] ∨
    other ∉ mark :: tail ∧ avoids (mark :: tail) (encode other) ∧ ∃ rest, encode other = mark :: rest

variable {mark item : Item} {tail word : List Item} {encode : Item → List Item}

theorem EncodesOne.plain (encodes : EncodesOne mark tail item encode) {other : Item} (inside : other ∈ mark :: tail) :
    encode other = [other] := by
  have apart : other ≠ item := by
    rintro rfl
    exact encodes.hidden inside
  rcases encodes.others other apart with plain | ⟨absent, _⟩
  · exact plain
  · exact absurd inside absent

/-- A word of the part is seen through the encoding. -/
theorem EncodesOne.prefix_iff (encodes : EncodesOne mark tail item encode) (plain : ∀ other ∈ word, encode other = [other])
    (unmarked : mark ∉ word) : word <+: text.flatMap encode ↔ word <+: text := by
  induction text generalizing word with
  | nil => rfl
  | cons head rest ih =>
    cases word with
    | nil => exact ⟨fun _ => List.nil_prefix, fun _ => List.nil_prefix⟩
    | cons first more =>
      have blocked : ∀ after, encode head = mark :: after →
          ((first :: more) <+: (head :: rest).flatMap encode ↔ (first :: more) <+: head :: rest) := by
        intro after block
        rw [List.flatMap_cons, block]
        constructor
        · intro leading
          obtain ⟨rfl, _⟩ := List.cons_prefix_cons.mp leading
          exact absurd List.mem_cons_self unmarked
        · intro leading
          obtain ⟨rfl, _⟩ := List.cons_prefix_cons.mp leading
          obtain ⟨rfl, _⟩ := List.cons.inj ((plain _ List.mem_cons_self).symm.trans block)
          exact absurd List.mem_cons_self unmarked
      by_cases own : head = item
      · exact blocked tail (own ▸ encodes.own)
      · rcases encodes.others head own with bare | ⟨_, _, after, block⟩
        · rw [List.flatMap_cons, bare, List.singleton_append, List.cons_prefix_cons, List.cons_prefix_cons,
            ih (fun other inside => plain other (List.mem_cons_of_mem _ inside))
              fun inside => unmarked (List.mem_cons_of_mem _ inside)]
        · exact blocked after block

/-- Replacing the part in the encoded text undoes the encoding of the item, and replaces the
part where the text itself has it. -/
theorem EncodesOne.replaceFrom_flatMap (encodes : EncodesOne mark tail item encode) (skip : Nat)
    (skipped : ∀ other ∈ text.take skip, encode other = [other]) :
    replaceFrom (mark :: tail) [item] skip (text.flatMap encode) =
      (replaceFrom (mark :: tail) [item] skip text).flatMap
        fun other => if other = item then [item] else encode other := by
  induction text generalizing skip with
  | nil => rfl
  | cons head rest ih =>
    cases skip with
    | succ skip =>
      rw [List.take_succ_cons] at skipped
      rw [List.flatMap_cons, skipped head List.mem_cons_self]
      exact ih skip fun other inside => skipped other (List.mem_cons_of_mem _ inside)
    | zero =>
      have later := ih 0 (by simp)
      by_cases own : head = item
      · have elsewhere : ¬ (mark :: tail).isPrefixOf (item :: rest) := by
          intro leading
          obtain ⟨rfl, _⟩ := List.cons_prefix_cons.mp (List.isPrefixOf_iff_prefix.mp leading)
          exact encodes.hidden List.mem_cons_self
        have whole := @replaceAll_append_part _ _ (mark :: tail) [item] (rest.flatMap encode) (List.cons_ne_nil _ _)
        rw [replaceAll, replaceAll, later] at whole
        rw [own, List.flatMap_cons, encodes.own, whole, replaceFrom, if_neg elsewhere, List.flatMap_cons, if_pos rfl]
      · rcases encodes.others head own with bare | ⟨absent, apart, _⟩
        · have seen : (mark :: tail).isPrefixOf (head :: rest.flatMap encode) = (mark :: tail).isPrefixOf (head :: rest) := by
            rw [Bool.eq_iff_iff, List.isPrefixOf_iff_prefix, List.isPrefixOf_iff_prefix, List.cons_prefix_cons,
              List.cons_prefix_cons, encodes.prefix_iff (fun other inside => encodes.plain (List.mem_cons_of_mem _ inside))
                encodes.unmarked]
          rw [List.flatMap_cons, bare, List.singleton_append, replaceFrom, replaceFrom, seen]
          split
          · rename_i leading
            obtain ⟨_, follows⟩ := List.cons_prefix_cons.mp (List.isPrefixOf_iff_prefix.mp leading)
            rw [List.length_cons, Nat.add_sub_cancel, ih tail.length]
            · simp
            · intro other inside
              rw [← List.prefix_iff_eq_take.mp follows] at inside
              exact encodes.plain (List.mem_cons_of_mem _ inside)
          · rw [later, List.flatMap_cons, if_neg own, bare, List.singleton_append]
        · have elsewhere : ¬ (mark :: tail).isPrefixOf (head :: rest) := by
            intro leading
            obtain ⟨rfl, _⟩ := List.cons_prefix_cons.mp (List.isPrefixOf_iff_prefix.mp leading)
            exact absent List.mem_cons_self
          have whole := @replaceAll_append_block _ _ (mark :: tail) [item] (encode head) (rest.flatMap encode) apart
          rw [replaceAll, replaceAll, later] at whole
          rw [List.flatMap_cons, whole, replaceFrom, if_neg elsewhere, List.flatMap_cons, if_neg own]

theorem EncodesOne.replaceAll_flatMap (encodes : EncodesOne mark tail item encode) (text : List Item) :
    replaceAll (mark :: tail) [item] (text.flatMap encode) =
      (replaceAll (mark :: tail) [item] text).flatMap fun other => if other = item then [item] else encode other :=
  encodes.replaceFrom_flatMap 0 (by simp)

end Coding

end DataMax.Library
