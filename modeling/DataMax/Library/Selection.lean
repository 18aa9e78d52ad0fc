import DataMax.Library.Sorting

/-! Which items a selection keeps: the best items of the first few keys, the
first of neighbours, and a limited number of each group. -/

namespace DataMax.Library

universe u v

variable {Item : Type u} {Key : Type v}

section Ranking

/-- The first key has an item that is less than every item of the second. -/
def Precedes (key : Item → Key) (order : Item → Item → Ordering) (items : List Item) (first second : Key) :
    Prop :=
  ∃ item ∈ items, key item = first ∧ ∀ other ∈ items, key other = second → order item other = .lt

variable [DecidableEq Key]

instance (key : Item → Key) (order : Item → Item → Ordering) (items : List Item) :
    DecidableRel (Precedes key order items) :=
  fun first second => inferInstanceAs (Decidable (∃ item ∈ items, key item = first ∧
    ∀ other ∈ items, key other = second → order item other = .lt))

/-- The key is listed and fewer than `limit` keys precede it. -/
def Leading (key : Item → Key) (order : Item → Item → Ordering) (limit : Nat) (items : List Item)
    (candidate : Key) : Prop :=
  candidate ∈ items.map key ∧
    ((items.map key).dedup.filter fun other => decide (Precedes key order items other candidate)).length < limit

instance (key : Item → Key) (order : Item → Item → Ordering) (limit : Nat) (items : List Item) :
    DecidablePred (Leading key order limit items) :=
  fun candidate => inferInstanceAs (Decidable (candidate ∈ items.map key ∧
    ((items.map key).dedup.filter fun other =>
      decide (Precedes key order items other candidate)).length < limit))

/-- No item with the same key is less. -/
def IsLeast (key : Item → Key) (order : Item → Item → Ordering) (items : List Item) (item : Item) : Prop :=
  ∀ other ∈ items, key other = key item → order other item ≠ .lt

/-- The leading keys have one least item each. -/
def Unambiguous (key : Item → Key) (order : Item → Item → Ordering) (limit : Nat) (items : List Item) : Prop :=
  ∀ first ∈ items, ∀ second ∈ items, key first = key second → IsLeast key order items first →
    IsLeast key order items second → Leading key order limit items (key first) → first = second

instance (key : Item → Key) (order : Item → Item → Ordering) (items : List Item) :
    DecidablePred (IsLeast key order items) :=
  fun item => inferInstanceAs (Decidable (∀ other ∈ items, key other = key item → order other item ≠ .lt))

instance [DecidableEq Item] (key : Item → Key) (order : Item → Item → Ordering) (limit : Nat)
    (items : List Item) : Decidable (Unambiguous key order limit items) :=
  inferInstanceAs (Decidable (∀ first ∈ items, ∀ second ∈ items, key first = key second →
    IsLeast key order items first → IsLeast key order items second →
      Leading key order limit items (key first) → first = second))

omit [DecidableEq Key] in
/-- Lists with the same keys in the same order are related where items of one key are. -/
theorem forall₂_of_map_eq {key : Item → Key} {related : Item → Item → Prop} {items others : List Item}
    (maps : items.map key = others.map key)
    (same : ∀ item ∈ items, ∀ other ∈ others, key item = key other → related item other) :
    List.Forall₂ related items others := by
  induction items generalizing others with
  | nil =>
    rw [List.map_eq_nil_iff.mp maps.symm]
    exact .nil
  | cons head rest ih =>
    cases others with
    | nil => cases maps
    | cons other more =>
      obtain ⟨heads, tails⟩ := List.cons.inj maps
      refine .cons (same head List.mem_cons_self other List.mem_cons_self heads) (ih tails ?_)
      exact fun item inside other within =>
        same item (List.mem_cons_of_mem head inside) other (List.mem_cons_of_mem _ within)

omit [DecidableEq Key] in
theorem eq_of_map_eq {key : Item → Key} {items others : List Item} (maps : items.map key = others.map key)
    (same : ∀ item ∈ items, ∀ other ∈ others, key item = key other → item = other) : items = others :=
  List.forall₂_eq_eq_eq ▸ forall₂_of_map_eq maps same

/-- Membership in the first few of a strictly sorted list is a count. -/
theorem mem_take_iff {before : Item → Item → Prop} [DecidableRel before] (asymm : ∀ first second,
    before first second → ¬ before second first) {list : List Item} (sorted : list.Pairwise before)
    {limit : Nat} {item : Item} :
    item ∈ list.take limit ↔ item ∈ list ∧ (list.filter fun other => decide (before other item)).length <
      limit := by
  induction list generalizing limit with
  | nil => simp
  | cons head rest ih =>
    obtain ⟨headFirst, restSorted⟩ := List.pairwise_cons.mp sorted
    have irrefl : ¬ before head head := fun self => asymm head head self self
    cases limit with
    | zero => simp
    | succ limit =>
      rw [List.take_succ_cons, List.mem_cons, List.mem_cons, ih restSorted]
      by_cases same : item = head
      · subst same
        have none : ∀ other ∈ rest, ¬ before other item := fun other later => asymm item other (headFirst other later)
        have empty : (item :: rest).filter (fun other => decide (before other item)) = [] := by
          simp only [List.filter_eq_nil_iff, List.forall_mem_cons, decide_eq_true_eq]
          exact ⟨irrefl, none⟩
        simp [empty]
      · by_cases later : item ∈ rest
        · have counted := headFirst item later
          simp [same, later, counted]
        · simp [same, later]

omit [DecidableEq Key] in
/-- Whether a list is cut before or after it is filtered makes no difference exactly when the
places are taken by wanted items or nothing wanted comes after them. -/
theorem filter_take_eq_iff {keep : Item → Bool} {items : List Item} {limit : Nat} :
    (items.take limit).filter keep = (items.filter keep).take limit ↔
      (∀ item ∈ items.take limit, keep item = true) ∨ ∀ item ∈ items.drop limit, keep item = false := by
  have parts : (items.filter keep).take limit = ((items.take limit).filter keep).take limit ++
      ((items.drop limit).filter keep).take (limit - ((items.take limit).filter keep).length) := by
    rw [← List.take_append, ← List.filter_append, List.take_append_drop]
  have short : ((items.take limit).filter keep).length ≤ limit :=
    (List.length_filter_le ..).trans (List.length_take_le limit items)
  rw [parts, List.take_of_length_le short, List.self_eq_append_right, List.take_eq_nil_iff, List.filter_eq_nil_iff,
    Nat.sub_eq_zero_iff_le]
  constructor
  · rintro (full | none)
    · have long : (items.take limit).length ≤ ((items.take limit).filter keep).length :=
        (List.length_take_le limit items).trans full
      exact .inl (List.length_filter_eq_length_iff.mp (Nat.le_antisymm (List.length_filter_le ..) long))
    · exact .inr fun item inside => Bool.eq_false_iff.mpr (none item inside)
  · rintro (all | none)
    · rw [List.filter_eq_self.mpr all, List.length_take]
      by_cases long : limit ≤ items.length
      · exact .inl (Nat.le_min.mpr ⟨Nat.le_refl limit, long⟩)
      · rw [List.drop_eq_nil_of_le (Nat.le_of_not_le long)]
        exact .inr nofun
    · exact .inr fun item inside => Bool.eq_false_iff.mp (none item inside)

variable {key : Item → Key} {order : Item → Item → Ordering} {items others : List Item} {item other : Item}
  {first second candidate : Key} {limit : Nat}

omit [DecidableEq Key] in
theorem IsLeast.congr (same : ∀ item, item ∈ items ↔ item ∈ others) :
    IsLeast key order items item ↔ IsLeast key order others item := by
  simp only [IsLeast, same]

omit [DecidableEq Key] in
theorem Precedes.congr (same : ∀ item, item ∈ items ↔ item ∈ others) :
    Precedes key order items first second ↔ Precedes key order others first second := by
  simp only [Precedes, same]

theorem Leading.congr (same : ∀ item, item ∈ items ↔ item ∈ others) :
    Leading key order limit items candidate ↔ Leading key order limit others candidate := by
  have keys : ∀ listed, listed ∈ items.map key ↔ listed ∈ others.map key := by
    simp only [List.mem_map, same, implies_true]
  have permuted : (items.map key).dedup.Perm (others.map key).dedup := by
    rw [List.perm_ext_iff_of_nodup (List.nodup_dedup _) (List.nodup_dedup _)]
    simp only [List.mem_dedup, keys, implies_true]
  have precedes : ∀ listed, Precedes key order items listed candidate ↔ Precedes key order others listed candidate :=
    fun listed => Precedes.congr same
  simp only [Leading, keys, precedes, (permuted.filter _).length_eq]

/-- If all the least items of the leading keys are kept, one for each key, none
of them tie. -/
theorem unambiguous_of_kept {kept : List Item} (distinct : (kept.map key).Nodup)
    (all : ∀ item ∈ items, IsLeast key order items item → Leading key order limit items (key item) →
      item ∈ kept) : Unambiguous key order limit items := by
  intro first firstInside second secondInside same firstLeast secondLeast leading
  exact List.inj_on_of_nodup_map distinct (all first firstInside firstLeast leading)
    (all second secondInside secondLeast (same ▸ leading)) same

variable [Std.TransCmp order]

omit [DecidableEq Key] in
theorem Precedes.asymm (before : Precedes key order items first second) :
    ¬ Precedes key order items second first := by
  rintro ⟨other, otherInside, otherKey, otherLess⟩
  obtain ⟨item, inside, itemKey, less⟩ := before
  have forward := less other otherInside otherKey
  have backward := otherLess item inside itemKey
  have self : order item item = .eq := Std.ReflCmp.compare_self
  exact absurd (Std.TransCmp.lt_trans forward backward) (by simp [self])

variable [Ord Key] [Std.TransOrd Key] [Std.LawfulEqOrd Key]

theorem isLeast_of_mem_dedupeBy (kept : item ∈ dedupeBy key order items) : IsLeast key order items item := by
  intro other inside same less
  have below := le_of_mem_dedupeBy kept inside same
  simp [Std.OrientedCmp.gt_iff_lt.mpr less] at below

section

variable (separates : ∀ first second : Item, order first second = .eq → key first = key second)

include separates

/-- The best items stand in the order of their keys. -/
theorem dedupeBy_pairwise (items : List Item) :
    (dedupeBy key order items).Pairwise fun first second => Precedes key order items (key first) (key second) ∧
      order first second = .lt := by
  have distinct := List.pairwise_map.mp (dedupeBy_keys_nodup key order items)
  have sorted := dedupeBy_sorted key order items
  refine (sorted.and distinct).imp_of_mem ?_
  rintro first second inside within ⟨notGreater, different⟩
  have less : order first second = .lt := by
    cases compared : order first second with
    | lt => rfl
    | eq => exact False.elim (different (separates first second compared))
    | gt => simp [compared] at notGreater
  refine ⟨⟨first, dedupeBy_subset inside, rfl, ?_⟩, less⟩
  intro other otherInside same
  exact Std.TransCmp.lt_of_lt_of_isLE less (le_of_mem_dedupeBy within otherInside same)

theorem dedupeBy_keys_pairwise (items : List Item) :
    ((dedupeBy key order items).map key).Pairwise (Precedes key order items) :=
  List.pairwise_map.mpr ((dedupeBy_pairwise separates items).imp And.left)

/-- The order of the list leaves the selected keys and their order alone. -/
theorem dedupeBy_keys_congr (same : ∀ item, item ∈ items ↔ item ∈ others) :
    (dedupeBy key order items).map key = (dedupeBy key order others).map key := by
  have otherPairwise := (dedupeBy_keys_pairwise separates others).imp
    fun before => (Precedes.congr same).mpr before
  refine eq_of_strictly_sorted (fun _ _ => Precedes.asymm) (dedupeBy_keys_pairwise separates items) otherPairwise ?_
  intro candidate
  rw [mem_dedupeBy_keys, mem_dedupeBy_keys, List.mem_map, List.mem_map]
  simp only [same]

/-- The first keys are the leading ones. -/
theorem mem_take_dedupeBy_keys :
    candidate ∈ ((dedupeBy key order items).take limit).map key ↔ Leading key order limit items candidate := by
  have permuted := dedupeBy_keys_perm key order items
  rw [List.map_take, mem_take_iff (fun _ _ => Precedes.asymm) (dedupeBy_keys_pairwise separates items),
    mem_dedupeBy_keys, (permuted.filter _).length_eq, Leading]

/-- Items that are sorted and have different keys stay as they are. -/
theorem dedupeBy_eq_self (sorted : items.Pairwise fun first second => order first second = .lt)
    (distinct : (items.map key).Nodup) : dedupeBy key order items = items := by
  have asymm : ∀ first second, order first second = .lt → ¬ order second first = .lt :=
    fun first second less more => by simp [Std.OrientedCmp.gt_iff_lt.mpr less] at more
  refine eq_of_strictly_sorted asymm ((dedupeBy_pairwise separates items).imp And.right) sorted ?_
  intro item
  constructor
  · exact dedupeBy_subset
  · intro inside
    have listed : key item ∈ (dedupeBy key order items).map key :=
      mem_dedupeBy_keys.mpr (List.mem_map_of_mem inside)
    obtain ⟨kept, keptInside, same⟩ := List.mem_map.mp listed
    rwa [← List.inj_on_of_nodup_map distinct (dedupeBy_subset keptInside) inside same]

/-- Keys can be left out before the selection or after it. -/
theorem dedupeBy_filter {keep : Item → Bool}
    (respects : ∀ first second : Item, key first = key second → keep first = keep second) :
    (dedupeBy key order items).filter keep = dedupeBy key order (items.filter keep) := by
  have asymm : ∀ first second, order first second = .lt → ¬ order second first = .lt :=
    fun first second less more => by simp [Std.OrientedCmp.gt_iff_lt.mpr less] at more
  have sorted := (dedupeBy_pairwise separates items).imp And.right
  have otherSorted := (dedupeBy_pairwise separates (items.filter keep)).imp And.right
  refine eq_of_strictly_sorted asymm (sorted.filter keep) otherSorted ?_
  intro item
  rw [List.mem_filter, mem_dedupeBy, mem_dedupeBy, List.filter_filter]
  by_cases kept : keep item = true
  · have same : items.filter (fun other => decide (key other = key item) && keep other) =
        items.filter fun other => decide (key other = key item) := by
      apply List.filter_congr
      intro other _
      by_cases own : key other = key item
      · simp [own, respects other item own, kept]
      · simp [own]
    rw [same]
    exact and_iff_left kept
  · constructor
    · exact fun found => absurd found.2 kept
    · intro found
      have inside := (List.mem_filter.mp (leastBy_mem found)).2
      simp [kept] at inside

/-- Selecting again changes nothing. -/
theorem dedupeBy_take_dedupeBy (limit : Nat) :
    dedupeBy key order ((dedupeBy key order items).take limit) = (dedupeBy key order items).take limit := by
  have sorted := (dedupeBy_pairwise separates items).imp And.right
  exact dedupeBy_eq_self separates (sorted.sublist (List.take_sublist limit _))
    ((dedupeBy_keys_nodup key order items).sublist ((List.take_sublist limit _).map key))

theorem dedupeBy_dedupeBy : dedupeBy key order (dedupeBy key order items) = dedupeBy key order items :=
  dedupeBy_eq_self separates ((dedupeBy_pairwise separates items).imp And.right) (dedupeBy_keys_nodup key order items)

/-- The selection is that of any list with the same items. -/
theorem take_dedupeBy_congr (same : ∀ item, item ∈ items ↔ item ∈ others)
    (unambiguous : Unambiguous key order limit items) :
    (dedupeBy key order items).take limit = (dedupeBy key order others).take limit := by
  apply @eq_of_map_eq _ _ key
  · rw [List.map_take, List.map_take, dedupeBy_keys_congr separates same]
  · intro first inside second within sameKey
    have leading : Leading key order limit items (key first) :=
      (mem_take_dedupeBy_keys separates).mp (List.mem_map_of_mem inside)
    have firstLeast := isLeast_of_mem_dedupeBy (List.mem_of_mem_take inside)
    have secondLeast := (IsLeast.congr same).mpr (isLeast_of_mem_dedupeBy (List.mem_of_mem_take within))
    have firstInside : first ∈ items := dedupeBy_subset (List.mem_of_mem_take inside)
    have secondInside : second ∈ items := (same second).mpr (dedupeBy_subset (List.mem_of_mem_take within))
    exact unambiguous first firstInside second secondInside sameKey firstLeast secondLeast leading

theorem dedupeBy_congr_of_functional (same : ∀ item, item ∈ items ↔ item ∈ others)
    (functional : ∀ first ∈ items, ∀ second ∈ items, key first = key second → first = second) :
    dedupeBy key order items = dedupeBy key order others := by
  apply @eq_of_map_eq _ _ key
  · exact dedupeBy_keys_congr separates same
  · intro first inside second within
    exact functional first (dedupeBy_subset inside) second ((same second).mpr (dedupeBy_subset within))

/-- A least item that stands first is selected if its key leads. -/
theorem mem_take_dedupeBy_of_first (least : IsLeast key order items item)
    (leading : Leading key order limit items (key item)) (same : ∀ other, other ∈ items ↔ other ∈ item :: others) :
    item ∈ (dedupeBy key order (item :: others)).take limit := by
  have least := (IsLeast.congr same).mp least
  have kept : item ∈ dedupeBy key order (item :: others) :=
    mem_dedupeBy_of_first fun other later => least other (List.mem_cons_of_mem item later)
  have keys := (mem_take_dedupeBy_keys separates).mpr leading
  rw [List.map_take, dedupeBy_keys_congr separates same, ← List.map_take] at keys
  obtain ⟨other, otherInside, sameKey⟩ := List.mem_map.mp keys
  have equal := List.inj_on_of_nodup_map (dedupeBy_keys_nodup key order _) (List.mem_of_mem_take otherInside)
    kept sameKey
  exact equal ▸ otherInside

end

/-- An item whose key is not selected is not less than a selected one. -/
theorem le_of_not_selected (inside : other ∈ items)
    (dropped : key other ∉ ((dedupeBy key order items).take limit).map key)
    (selected : item ∈ (dedupeBy key order items).take limit) : (order item other).isLE := by
  have listed : key other ∈ (dedupeBy key order items).map key :=
    mem_dedupeBy_keys.mpr (List.mem_map_of_mem inside)
  obtain ⟨best, bestInside, same⟩ := List.mem_map.mp listed
  have below : (order best other).isLE := le_of_mem_dedupeBy bestInside inside same.symm
  have sorted := dedupeBy_sorted key order items
  rw [← List.take_append_drop limit (dedupeBy key order items)] at sorted bestInside
  rcases List.mem_append.mp bestInside with early | late
  · exact False.elim (dropped (same ▸ List.mem_map_of_mem early))
  · exact Std.TransCmp.isLE_trans ((List.pairwise_append.mp sorted).2.2 item selected best late) below

end Ranking

section Best

/-- No dropped candidate is less than a kept item: neither one whose key was not
kept nor one that lost against the kept item of its key. -/
structure KeepsBest (key : Item → Key) (order : Item → Item → Ordering) (candidates kept : List Item) : Prop
    where
  dropped : ∀ other ∈ candidates, key other ∉ kept.map key → ∀ item ∈ kept, order other item ≠ .lt
  replaced : ∀ other ∈ candidates, ∀ item ∈ kept, key item = key other → order other item ≠ .lt

variable [DecidableEq Key] [Ord Key] [Std.TransOrd Key] [Std.LawfulEqOrd Key] {key : Item → Key}
  {order given : Item → Item → Ordering} [Std.TransCmp order] {items : List Item}

theorem take_dedupeBy_keepsBest (key : Item → Key) (order : Item → Item → Ordering) [Std.TransCmp order]
    (limit : Nat) (items : List Item) : KeepsBest key order items ((dedupeBy key order items).take limit) where
  dropped := by
    intro other inside dropped item selected less
    have below := le_of_not_selected inside dropped selected
    simp [Std.OrientedCmp.gt_iff_lt.mpr less] at below
  replaced := by
    intro other inside item selected same
    exact isLeast_of_mem_dedupeBy (List.mem_of_mem_take selected) other inside same.symm

section

variable (agree : ∀ first ∈ items, ∀ second ∈ items, given first second = order first second)

include agree

/-- A comparison that is a total order on the items at hand sorts them. -/
theorem dedupeBy_sorted_of_agree :
    (dedupeBy key given items).Pairwise fun first second => (given first second).isLE := by
  rw [dedupeBy_congr agree]
  refine (dedupeBy_sorted key order items).imp_of_mem ?_
  intro first second inside within below
  rw [agree first (dedupeBy_subset inside) second (dedupeBy_subset within)]
  exact below

theorem dedupeBy_take_of_agree (separates : ∀ first second : Item, order first second = .eq →
    key first = key second) (limit : Nat) :
    dedupeBy key given ((dedupeBy key given items).take limit) = (dedupeBy key given items).take limit := by
  rw [dedupeBy_congr agree]
  have listed : ∀ item ∈ (dedupeBy key order items).take limit, item ∈ items :=
    fun item selected => dedupeBy_subset (List.mem_of_mem_take selected)
  rw [dedupeBy_congr fun first inside second within => agree first (listed first inside) second (listed second within)]
  exact dedupeBy_take_dedupeBy separates limit

omit [Ord Key] [Std.TransOrd Key] [Std.LawfulEqOrd Key] [Std.TransCmp order] in
theorem leading_of_agree {limit : Nat} {candidate : Key} :
    Leading key given limit items candidate ↔ Leading key order limit items candidate := by
  have precedes : ∀ first second, Precedes key given items first second ↔ Precedes key order items first second := by
    intro first second
    simp only [Precedes]
    constructor
    · rintro ⟨item, inside, own, less⟩
      exact ⟨item, inside, own, fun other within same => agree item inside other within ▸ less other within same⟩
    · rintro ⟨item, inside, own, less⟩
      exact ⟨item, inside, own, fun other within same =>
        (agree item inside other within).symm ▸ less other within same⟩
  simp only [Leading, precedes]

omit [DecidableEq Key] [Ord Key] [Std.TransOrd Key] [Std.LawfulEqOrd Key] [Std.TransCmp order] in
theorem isLeast_of_agree {item : Item} (inside : item ∈ items) :
    IsLeast key given items item ↔ IsLeast key order items item := by
  constructor
  · intro least other within same
    rw [← agree other within item inside]
    exact least other within same
  · intro least other within same
    rw [agree other within item inside]
    exact least other within same

omit [Ord Key] [Std.TransOrd Key] [Std.LawfulEqOrd Key] [Std.TransCmp order] in
theorem unambiguous_of_agree {limit : Nat} :
    Unambiguous key given limit items ↔ Unambiguous key order limit items := by
  constructor
  · intro unambiguous first inside second within same firstLeast secondLeast leading
    exact unambiguous first inside second within same ((isLeast_of_agree agree inside).mpr firstLeast)
      ((isLeast_of_agree agree within).mpr secondLeast) ((leading_of_agree agree).mpr leading)
  · intro unambiguous first inside second within same firstLeast secondLeast leading
    exact unambiguous first inside second within same ((isLeast_of_agree agree inside).mp firstLeast)
      ((isLeast_of_agree agree within).mp secondLeast) ((leading_of_agree agree).mp leading)

section

variable (separates : ∀ first second : Item, order first second = .eq → key first = key second) {limit : Nat}

include separates

/-- The first keys are the leading ones. -/
theorem mem_take_keys_of_agree {candidate : Key} :
    candidate ∈ ((dedupeBy key given items).take limit).map key ↔ Leading key given limit items candidate := by
  rw [dedupeBy_congr agree, leading_of_agree agree]
  exact mem_take_dedupeBy_keys separates

theorem take_dedupeBy_congr_of_agree {others : List Item} (same : ∀ item, item ∈ items ↔ item ∈ others)
    (unambiguous : Unambiguous key given limit items) :
    (dedupeBy key given items).take limit = (dedupeBy key given others).take limit := by
  have otherAgree : ∀ first ∈ others, ∀ second ∈ others, given first second = order first second :=
    fun first inside second within => agree first ((same first).mpr inside) second ((same second).mpr within)
  rw [dedupeBy_congr agree, dedupeBy_congr otherAgree]
  exact take_dedupeBy_congr separates same ((unambiguous_of_agree agree).mp unambiguous)

theorem dedupeBy_pairwise_of_agree : (dedupeBy key given items).Pairwise fun first second =>
    given first second = .lt := by
  rw [dedupeBy_congr agree]
  refine (dedupeBy_pairwise separates items).imp_of_mem ?_
  intro first second inside within before
  rw [agree first (dedupeBy_subset inside) second (dedupeBy_subset within)]
  exact before.2

theorem dedupeBy_filter_of_agree {keep : Item → Bool}
    (respects : ∀ first second : Item, key first = key second → keep first = keep second) :
    (dedupeBy key given items).filter keep = dedupeBy key given (items.filter keep) := by
  have keptAgree : ∀ first ∈ items.filter keep, ∀ second ∈ items.filter keep,
      given first second = order first second := fun first inside second within =>
    agree first (List.mem_filter.mp inside).1 second (List.mem_filter.mp within).1
  rw [dedupeBy_congr agree, dedupeBy_congr keptAgree]
  exact dedupeBy_filter separates respects

theorem mem_take_of_first_of_agree {item : Item} {others : List Item}
    (same : ∀ other, other ∈ items ↔ other ∈ item :: others) (least : IsLeast key given items item)
    (leading : Leading key given limit items (key item)) :
    item ∈ (dedupeBy key given (item :: others)).take limit := by
  have inside : item ∈ items := (same item).mpr List.mem_cons_self
  have otherAgree : ∀ first ∈ item :: others, ∀ second ∈ item :: others, given first second = order first second :=
    fun first inside second within => agree first ((same first).mpr inside) second ((same second).mpr within)
  rw [dedupeBy_congr otherAgree]
  exact mem_take_dedupeBy_of_first separates ((isLeast_of_agree agree inside).mp least)
    ((leading_of_agree agree).mp leading) same

end

theorem keepsBest_of_agree (limit : Nat) :
    KeepsBest key given items ((dedupeBy key given items).take limit) := by
  rw [dedupeBy_congr agree]
  have best := take_dedupeBy_keepsBest key order limit items
  have listed : ∀ item ∈ (dedupeBy key order items).take limit, item ∈ items :=
    fun item selected => dedupeBy_subset (List.mem_of_mem_take selected)
  constructor
  · intro other inside dropped item selected
    rw [agree other inside item (listed item selected)]
    exact best.dropped other inside dropped item selected
  · intro other inside item selected same
    rw [agree other inside item (listed item selected)]
    exact best.replaced other inside item selected same

end

end Best

section Adjacent

variable [DecidableEq Key]

def dedupAfter (key : Item → Key) (kept : Item) : List Item → List Item
  | [] => []
  | item :: rest => if key item = key kept then dedupAfter key kept rest else item :: dedupAfter key item rest

/-- Of neighbours with the same key the first stays. -/
def dedupAdjacent (key : Item → Key) : List Item → List Item
  | [] => []
  | item :: rest => item :: dedupAfter key item rest

variable {key : Item → Key} {order : Item → Item → Ordering} {items : List Item} {item kept : Item}

theorem dedupAfter_sublist (key : Item → Key) (kept : Item) (items : List Item) :
    (dedupAfter key kept items).Sublist items := by
  induction items generalizing kept with
  | nil => exact List.nil_sublist _
  | cons head rest ih =>
    rw [dedupAfter]
    split
    · exact (ih kept).cons head
    · exact (ih head).cons_cons head

theorem dedupAdjacent_map {Other : Type u} (change : Item → Other) {view : Other → Key}
    (same : ∀ item ∈ items, view (change item) = key item) :
    dedupAdjacent view (items.map change) = (dedupAdjacent key items).map change := by
  have after : ∀ (rest : List Item) (kept : Item), (∀ item ∈ kept :: rest, view (change item) = key item) →
      dedupAfter view (change kept) (rest.map change) = (dedupAfter key kept rest).map change := by
    intro rest
    induction rest with
    | nil => exact fun _ _ => rfl
    | cons head rest ih =>
      intro kept same
      obtain ⟨keptSame, others⟩ := List.forall_mem_cons.mp same
      obtain ⟨headSame, restSame⟩ := List.forall_mem_cons.mp others
      rw [List.map_cons, dedupAfter, dedupAfter, keptSame, headSame]
      split
      · exact ih kept (List.forall_mem_cons.mpr ⟨keptSame, restSame⟩)
      · rw [List.map_cons, ih head others]
  cases items with
  | nil => rfl
  | cons head rest => rw [List.map_cons, dedupAdjacent, dedupAdjacent, List.map_cons, after rest head same]

/-- Dropping repeated neighbours keeps the items as a set. -/
theorem mem_dedupAdjacent_self [DecidableEq Item] : item ∈ dedupAdjacent id items ↔ item ∈ items := by
  have after : ∀ (rest : List Item) (kept : Item), item ∈ kept :: dedupAfter id kept rest ↔ item ∈ kept :: rest := by
    intro rest
    induction rest with
    | nil => exact fun _ => Iff.rfl
    | cons head rest ih =>
      intro kept
      rw [dedupAfter]
      split
      · rename_i same
        obtain rfl : head = kept := same
        rw [ih, List.mem_cons, List.mem_cons, List.mem_cons, ← or_assoc, or_self]
      · rw [List.mem_cons, ih, ← List.mem_cons]
  cases items with
  | nil => exact Iff.rfl
  | cons head rest => exact after rest head

/-- Of items that are each repeated at once, those that come at all stay. -/
theorem dedupAdjacent_replicate [DecidableEq Item] {times : Item → Nat} (distinct : items.Nodup) :
    dedupAdjacent id (items.flatMap fun item => List.replicate (times item) item) =
      items.filter fun item => times item ≠ 0 := by
  have repeated : ∀ (count : Nat) (kept : Item) (rest : List Item),
      dedupAfter id kept (List.replicate count kept ++ rest) = dedupAfter id kept rest := by
    intro count kept rest
    induction count with
    | zero => rfl
    | succ count ih => rw [List.replicate_succ, List.cons_append, dedupAfter, if_pos rfl, ih]
  have after : ∀ (items : List Item) (kept : Item), (kept :: items).Nodup →
      dedupAfter id kept (items.flatMap fun item => List.replicate (times item) item) =
        items.filter fun item => times item ≠ 0 := by
    intro items
    induction items with
    | nil => exact fun _ _ => rfl
    | cons head rest ih =>
      intro kept apart
      obtain ⟨absent, later⟩ := List.nodup_cons.mp apart
      rw [List.flatMap_cons]
      cases present : times head with
      | zero =>
        have skipped : (kept :: rest).Nodup := apart.sublist ((List.sublist_cons_self head rest).cons_cons kept)
        rw [List.filter_cons_of_neg (by simp [present])]
        exact ih kept skipped
      | succ count =>
        have different : id head ≠ id kept := fun same => absent (by simp [← show head = kept from same])
        rw [List.filter_cons_of_pos (by simp [present]), List.replicate_succ, List.cons_append, dedupAfter,
          if_neg different, repeated, ih head later]
  induction items with
  | nil => rfl
  | cons head rest ih =>
    rw [List.flatMap_cons]
    cases present : times head with
    | zero =>
      rw [List.filter_cons_of_neg (by simp [present])]
      exact ih distinct.of_cons
    | succ count =>
      rw [List.filter_cons_of_pos (by simp [present]), List.replicate_succ, List.cons_append, dedupAdjacent,
        repeated, after rest head distinct]

/-- Neighbours of different keys all stay. -/
theorem dedupAdjacent_eq_self (distinct : (items.map key).Nodup) : dedupAdjacent key items = items := by
  have after : ∀ (rest : List Item) (kept : Item), ((kept :: rest).map key).Nodup → dedupAfter key kept rest = rest := by
    intro rest
    induction rest with
    | nil => exact fun _ _ => rfl
    | cons head rest ih =>
      intro kept apart
      obtain ⟨absent, later⟩ := List.nodup_cons.mp apart
      have different : key head ≠ key kept := fun same => absent (by simp [same])
      rw [dedupAfter, if_neg different, ih head later]
  cases items with
  | nil => rfl
  | cons head rest => rw [dedupAdjacent, after rest head distinct]

theorem dedupAdjacent_sublist (key : Item → Key) (items : List Item) :
    (dedupAdjacent key items).Sublist items := by
  cases items with
  | nil => exact List.nil_sublist _
  | cons head rest => exact (dedupAfter_sublist key head rest).cons_cons head

section

variable [Std.TransCmp order] (level : ∀ first second, order first second = .eq ↔ key first = key second)

include level

theorem mem_dedupAfter (sorted : (kept :: items).Pairwise fun first second => (order first second).isLE) :
    item ∈ dedupAfter key kept items ↔ key item ≠ key kept ∧
      (items.filter fun other => decide (key other = key item)).head? = some item := by
  induction items generalizing kept with
  | nil => simp [dedupAfter]
  | cons head rest ih =>
    obtain ⟨keptFirst, restSorted⟩ := List.pairwise_cons.mp sorted
    obtain ⟨headFirst, _⟩ := List.pairwise_cons.mp restSorted
    rw [dedupAfter]
    split
    · rename_i same
      have keptSorted : (kept :: rest).Pairwise fun first second => (order first second).isLE :=
        sorted.sublist ((List.sublist_cons_self head rest).cons_cons kept)
      rw [ih keptSorted]
      by_cases own : key item = key kept
      · simp [own]
      · simp [own, same, Ne.symm own]
    · rename_i different
      rw [List.mem_cons, ih restSorted]
      by_cases own : key head = key item
      · have away : key item ≠ key kept := own ▸ different
        simp [own, away, eq_comm]
      · -- The neighbours are sorted, so a later item is greater than the kept one too.
        have away : (rest.filter fun other => decide (key other = key item)).head? = some item →
            key item ≠ key kept := by
          intro found same
          have inside : item ∈ rest := (List.mem_filter.mp (List.mem_of_mem_head? found)).1
          have below := Std.TransCmp.isLE_trans (keptFirst head List.mem_cons_self) (headFirst item inside)
          have equal : order item kept = .eq := (level item kept).mpr same
          have above := Std.TransCmp.isLE_trans (headFirst item inside) (by simp [equal] : (order item kept).isLE)
          have level' := Std.OrientedCmp.isLE_antisymm above (keptFirst head List.mem_cons_self)
          exact different ((level head kept).mp level')
        have notHead : item ≠ head := fun same => own (by rw [same])
        have apart : key item ≠ key head := Ne.symm own
        simp only [notHead, false_or, apart, ne_eq, not_false_eq_true, true_and, List.filter_cons, own,
          decide_false, Bool.false_eq_true, if_false]
        exact ⟨fun found => ⟨away found, found⟩, And.right⟩

theorem mem_dedupAdjacent (sorted : items.Pairwise fun first second => (order first second).isLE) :
    item ∈ dedupAdjacent key items ↔
      (items.filter fun other => decide (key other = key item)).head? = some item := by
  cases items with
  | nil => simp [dedupAdjacent]
  | cons head rest =>
    rw [dedupAdjacent, List.mem_cons, mem_dedupAfter level sorted]
    by_cases own : key head = key item
    · simp [own, eq_comm]
    · have notHead : item ≠ head := fun same => own (by rw [same])
      simp [own, notHead, Ne.symm own]

theorem dedupAfter_distinct (sorted : (kept :: items).Pairwise fun first second => (order first second).isLE) :
    (dedupAfter key kept items).Pairwise fun first second => key first ≠ key second := by
  induction items generalizing kept with
  | nil => exact .nil
  | cons head rest ih =>
    have restSorted := (List.pairwise_cons.mp sorted).2
    have keptSorted : (kept :: rest).Pairwise fun first second => (order first second).isLE :=
      sorted.sublist ((List.sublist_cons_self head rest).cons_cons kept)
    rw [dedupAfter]
    split
    · exact ih keptSorted
    · exact List.pairwise_cons.mpr ⟨fun item later => ((mem_dedupAfter level restSorted).mp later).1.symm,
        ih restSorted⟩

theorem dedupAdjacent_distinct (sorted : items.Pairwise fun first second => (order first second).isLE) :
    (dedupAdjacent key items).Pairwise fun first second => key first ≠ key second := by
  cases items with
  | nil => exact .nil
  | cons head rest =>
    exact List.pairwise_cons.mpr ⟨fun item later => ((mem_dedupAfter level sorted).mp later).1.symm,
      dedupAfter_distinct level sorted⟩

variable [Ord Key] [Std.TransOrd Key] [Std.LawfulEqOrd Key]

/-- After a sort that compares the keys alone, one item of each key stays: the
one that stood first. -/
theorem dedupAdjacent_sortBy : dedupAdjacent key (sortBy order items) = dedupeBy key order items := by
  have sorted := sortBy_sorted order items
  have dedupSorted : (dedupAdjacent key (sortBy order items)).Pairwise fun first second =>
      order first second = .lt := by
    have embedded := sorted.sublist (dedupAdjacent_sublist key (sortBy order items))
    refine (embedded.and (dedupAdjacent_distinct level sorted)).imp ?_
    rintro first second ⟨notGreater, different⟩
    cases compared : order first second with
    | lt => rfl
    | eq => exact False.elim (different ((level first second).mp compared))
    | gt => simp [compared] at notGreater
  have bestSorted := (dedupeBy_pairwise (fun first second => (level first second).mp) items).imp And.right
  have asymm : ∀ first second, order first second = .lt → ¬ order second first = .lt :=
    fun first second less more => by simp [Std.OrientedCmp.gt_iff_lt.mpr less] at more
  refine eq_of_strictly_sorted asymm dedupSorted bestSorted ?_
  intro item
  have tied : ∀ first second, key first = key item → key second = key item → order first second = .eq :=
    fun first second same also => (level first second).mpr (same.trans also.symm)
  rw [mem_dedupAdjacent level sorted, mem_dedupeBy, filter_sortBy, leastBy_eq_head?]
  · intro first inside second within
    simp [tied first second (of_decide_eq_true (List.mem_filter.mp inside).2)
      (of_decide_eq_true (List.mem_filter.mp within).2)]
  · intro first _ second _ own also
    simp [tied first second (of_decide_eq_true own) (of_decide_eq_true also)]

end

section Self

variable [Ord Item] [Std.TransOrd Item] [Std.LawfulEqOrd Item] [DecidableEq Item]

theorem dedupAdjacent_sortBy_self (items : List Item) :
    dedupAdjacent id (sortBy compare items) = dedupeBy id compare items := by
  apply dedupAdjacent_sortBy
  exact fun first second => Std.LawfulEqCmp.compare_eq_iff_eq

omit [Std.TransOrd Item] [Std.LawfulEqOrd Item] in
/-- Sorting and dropping repeated neighbours keeps the items as a set. -/
theorem mem_dedupAdjacent_sortBy_self : item ∈ dedupAdjacent id (sortBy compare items) ↔ item ∈ items := by
  rw [mem_dedupAdjacent_self, mem_sortBy]

theorem dedupAdjacent_sortBy_self_congr {others : List Item} (same : ∀ item, item ∈ items ↔ item ∈ others) :
    dedupAdjacent id (sortBy compare items) = dedupAdjacent id (sortBy compare others) := by
  have asymm : ∀ first second : Item, compare first second = .lt → ¬ compare second first = .lt :=
    fun first second less more => by simp [Std.OrientedCmp.gt_iff_lt.mpr less] at more
  have sorted : ∀ list : List Item, (dedupAdjacent id (sortBy compare list)).Pairwise fun first second =>
      compare first second = .lt := by
    intro list
    rw [dedupAdjacent_sortBy_self]
    exact (dedupeBy_pairwise (fun _ _ => Std.LawfulEqCmp.eq_of_compare) list).imp And.right
  refine eq_of_strictly_sorted asymm (sorted items) (sorted others) fun item => ?_
  rw [mem_dedupAdjacent_sortBy_self, mem_dedupAdjacent_sortBy_self, same]

end Self

end Adjacent

section Capped

universe w

variable {Group : Type w} [Ord Group] [Std.TransOrd Group]

/-- A pass that keeps an item while its group has fewer than `limit`. -/
def retainCapped (group : Item → Group) (limit : Nat) (counts : SortedMap Group Nat) : List Item → List Item
  | [] => []
  | item :: rest =>
    let count := (counts.get? (group item)).getD 0
    if limit ≤ count then retainCapped group limit (counts.insert (group item) count) rest
    else item :: retainCapped group limit (counts.insert (group item) (count + 1)) rest

variable [Std.LawfulEqOrd Group] [DecidableEq Group] {group : Item → Group} {limit : Nat}
  {counts : SortedMap Group Nat} {items : List Item} {item : Item}

/-- Of each group the first items stay, as many as are missing to the limit. -/
theorem retainCapped_filter (candidate : Group) :
    (retainCapped group limit counts items).filter (fun item => decide (group item = candidate)) =
      (items.filter fun item => decide (group item = candidate)).take
        (limit - (counts.get? candidate).getD 0) := by
  induction items generalizing counts with
  | nil => simp [retainCapped]
  | cons head rest ih =>
    rw [retainCapped]
    by_cases own : group head = candidate
    · subst own
      split
      · rename_i full
        rw [ih, SortedMap.get?_insert_self]
        simp only [Option.getD_some, decide_true, List.filter_cons_of_pos]
        rw [Nat.sub_eq_zero_of_le full, List.take_zero, List.take_zero]
      · rename_i room
        have more : limit - (counts.get? (group head)).getD 0 =
            (limit - ((counts.get? (group head)).getD 0 + 1)) + 1 := by omega
        rw [List.filter_cons_of_pos (by simp), ih, SortedMap.get?_insert_self]
        simp only [Option.getD_some, decide_true, List.filter_cons_of_pos]
        rw [more, List.take_succ_cons]
    · have apart := fun count => SortedMap.get?_insert_other counts count (Ne.symm own)
      split
      · rw [ih, apart, List.filter_cons_of_neg (by simpa using own)]
      · rw [List.filter_cons_of_neg (by simpa using own), ih, apart,
          List.filter_cons_of_neg (by simpa using own)]

omit [Std.LawfulEqOrd Group] [DecidableEq Group] in
theorem retainCapped_sublist : (retainCapped group limit counts items).Sublist items := by
  induction items generalizing counts with
  | nil => exact List.nil_sublist _
  | cons head rest ih =>
    rw [retainCapped]
    split
    · exact ih.cons head
    · exact ih.cons_cons head

theorem mem_retainCapped : item ∈ retainCapped group limit .empty items ↔
    item ∈ (items.filter fun other => decide (group other = group item)).take limit := by
  have first : (retainCapped group limit .empty items).filter (fun other => decide (group other = group item)) =
      (items.filter fun other => decide (group other = group item)).take limit :=
    retainCapped_filter (group item)
  rw [← first, List.mem_filter]
  simp

end Capped

end DataMax.Library
