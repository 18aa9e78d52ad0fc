import Mathlib.Data.List.Perm.Basic

/-! The item that is kept when each one of a list replaces the one before it that it beats. Beating
need not be transitive: whether the list has a champion is a matter of its items. -/

namespace DataMax.Library

universe u
variable {Item : Type u} (beats : Item → Item → Bool)

def keepBetter (current : Option Item) (candidate : Item) : Option Item :=
  if (current.map (beats candidate)).getD true then some candidate else current

def champion (items : List Item) : Option Item := items.foldl (keepBetter beats) none

variable {beats} {items others : List Item} {best current item : Item}

theorem keepBetter_none : keepBetter beats none item = some item := rfl

theorem keepBetter_some : keepBetter beats (some current) item = if beats item current then some item else some current := rfl

theorem foldl_keepBetter_mem (kept : items.foldl (keepBetter beats) (some current) = some best) :
    best = current ∨ best ∈ items := by
  induction items generalizing current with
  | nil => exact .inl (Option.some.inj kept).symm
  | cons first rest ih =>
    rw [List.foldl_cons, keepBetter_some] at kept
    split at kept
    · exact .inr ((ih kept).elim (· ▸ List.mem_cons_self) (List.mem_cons_of_mem first))
    · exact (ih kept).imp_right (List.mem_cons_of_mem first)

theorem foldl_keepBetter_isSome (items : List Item) (current : Item) :
    ∃ best, items.foldl (keepBetter beats) (some current) = some best := by
  induction items generalizing current with
  | nil => exact ⟨current, rfl⟩
  | cons first rest ih =>
    rw [List.foldl_cons, keepBetter_some]
    split
    · exact ih first
    · exact ih current

theorem champion_mem (won : champion beats items = some best) : best ∈ items := by
  cases items with
  | nil => cases won
  | cons first rest => exact (foldl_keepBetter_mem won).elim (· ▸ List.mem_cons_self) (List.mem_cons_of_mem first)

theorem champion_eq_none : champion beats items = none ↔ items = [] := by
  cases items with
  | nil => exact iff_of_true rfl rfl
  | cons first rest =>
    obtain ⟨best, kept⟩ := @foldl_keepBetter_isSome _ beats rest first
    exact iff_of_false (by simp [champion, keepBetter_none, kept]) (List.cons_ne_nil first rest)

/-- It beats every other item. -/
def IsChampion (beats : Item → Item → Bool) (items : List Item) (best : Item) : Prop :=
  best ∈ items ∧ ∀ item ∈ items, item ≠ best → beats best item = true

/-- What nothing beats stays. -/
theorem foldl_keepBetter_stays (unbeaten : ∀ item ∈ items, beats item best = false) :
    items.foldl (keepBetter beats) (some best) = some best := by
  induction items with
  | nil => rfl
  | cons first rest ih =>
    obtain ⟨here, later⟩ := List.forall_mem_cons.mp unbeaten
    rw [List.foldl_cons, keepBetter_some, here, if_neg Bool.false_ne_true, ih later]

/-- In an order where another item comes first, the copies of an item that does not beat it are lost. -/
theorem beats_of_order [DecidableEq Item] (ordered : ∀ others, others.Perm items → champion beats others = some best)
    (listed : item ∈ items) (other : item ≠ best) : beats best item = true := by
  by_contra unbeaten
  let copies := (items.erase item).filter (· = best)
  let rest := (items.erase item).filter fun other => !decide (other = best)
  have perm : (item :: (copies ++ rest)).Perm items :=
    ((List.filter_append_perm (· = best) (items.erase item)).cons item).trans (List.perm_cons_erase listed).symm
  have won := ordered _ perm
  have lost : ∀ copy ∈ copies, beats copy item = false := by
    intro copy inside
    obtain rfl : copy = best := of_decide_eq_true (List.mem_filter.mp inside).2
    exact Bool.eq_false_iff.mpr unbeaten
  rw [champion, List.foldl_cons, keepBetter_none, List.foldl_append, foldl_keepBetter_stays lost] at won
  rcases foldl_keepBetter_mem won with same | later
  · exact other same.symm
  · simpa using (List.mem_filter.mp later).2

section Asymmetric

variable (asymm : ∀ first second, beats first second = true → beats second first = false)
include asymm

theorem IsChampion.unbeaten (wins : IsChampion beats items best) : ∀ item ∈ items, beats item best = false := by
  intro item listed
  by_cases same : item = best
  · subst same
    cases own : beats item item with
    | false => rfl
    | true => exact own.symm.trans (asymm item item own)
  · exact asymm best item (wins.2 item listed same)

theorem IsChampion.wins (champ : IsChampion beats items best) : champion beats items = some best := by
  have unbeaten := champ.unbeaten asymm
  obtain ⟨listed, better⟩ := champ
  obtain ⟨before, after, rfl⟩ := List.append_of_mem listed
  have kept : keepBetter beats (champion beats before) best = some best := by
    cases first : champion beats before with
    | none => rfl
    | some current =>
      rw [keepBetter_some]
      by_cases same : current = best
      · rw [same, ite_self]
      · rw [if_pos (better current (List.mem_append_left _ (champion_mem first)) same)]
  rw [champion, List.foldl_append, List.foldl_cons, ← champion, kept]
  exact foldl_keepBetter_stays fun item inside => unbeaten item (by simp [inside])

/-- The kept item is a maximum that does not depend on the order exactly where there is a champion. -/
theorem champion_maximum_iff [DecidableEq Item] :
    ((∀ others, others.Perm items → champion beats others = champion beats items) ∧
      ∀ best, champion beats items = some best → best ∈ items ∧ ∀ item ∈ items, beats item best = false) ↔
      items = [] ∨ ∃ best, IsChampion beats items best := by
  constructor
  · rintro ⟨ordered, -⟩
    cases won : champion beats items with
    | none => exact .inl (champion_eq_none.mp won)
    | some best =>
      rw [won] at ordered
      exact .inr ⟨best, champion_mem won, fun item listed other => beats_of_order ordered listed other⟩
  · rintro (rfl | ⟨best, champ⟩)
    · exact ⟨fun others perm => by rw [perm.eq_nil], fun best won => absurd won (by simp [champion])⟩
    · rw [champ.wins asymm]
      refine ⟨fun others perm => ?_, ?_⟩
      · have moved : IsChampion beats others best :=
          ⟨perm.mem_iff.mpr champ.1, fun item inside => champ.2 item (perm.mem_iff.mp inside)⟩
        exact moved.wins asymm
      · rintro winner same
        obtain rfl := Option.some.inj same
        exact ⟨champ.1, champ.unbeaten asymm⟩

end Asymmetric

/-- In a strict order that is total every list that is not empty has a champion. -/
theorem exists_champion (total : ∀ first second, first ≠ second → beats first second = true ∨ beats second first = true)
    (trans : ∀ first second third, beats first second = true → beats second third = true → beats first third = true)
    (nonempty : items ≠ []) : ∃ best, IsChampion beats items best := by
  induction items with
  | nil => exact absurd rfl nonempty
  | cons first rest ih =>
    by_cases alone : rest = []
    · subst alone
      exact ⟨first, List.mem_cons_self, fun item listed other => absurd (List.mem_singleton.mp listed) other⟩
    · obtain ⟨best, listed, better⟩ := ih alone
      by_cases same : first = best
      · exact ⟨best, List.mem_cons_of_mem first listed, List.forall_mem_cons.mpr ⟨fun other => absurd same other, better⟩⟩
      · rcases total first best same with ahead | behind
        · refine ⟨first, List.mem_cons_self, List.forall_mem_cons.mpr ⟨fun other => absurd rfl other, fun item inside _ => ?_⟩⟩
          by_cases equal : item = best
          · exact equal ▸ ahead
          · exact trans first best item ahead (better item inside equal)
        · exact ⟨best, List.mem_cons_of_mem first listed, List.forall_mem_cons.mpr ⟨fun _ => behind, better⟩⟩

end DataMax.Library
