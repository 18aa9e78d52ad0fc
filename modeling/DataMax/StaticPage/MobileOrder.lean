import DataMax.StaticPage.Design

/-! The order of the modules on a small screen: the requested one, completed. -/

namespace DataMax.StaticPage

open Domain Json Library

section Occurrences

variable {seen others ids first second : List String} {id : String}

attribute [local simp] firstOccurrences in
theorem mem_firstOccurrences : id ∈ firstOccurrences seen ids ↔ id ∈ ids ∧ id ∉ seen := by
  induction ids generalizing seen with
  | nil => simp [firstOccurrences]
  | cons head rest ih =>
    rw [firstOccurrences]
    split
    · rename_i known
      have listed : head ∈ seen := List.contains_iff_mem.mp known
      rw [ih, List.mem_cons]
      constructor
      · exact fun ⟨inside, unseen⟩ => ⟨.inr inside, unseen⟩
      · rintro ⟨rfl | inside, unseen⟩
        · exact absurd listed unseen
        · exact ⟨inside, unseen⟩
    · rename_i unknown
      have fresh : head ∉ seen := fun listed => unknown (List.contains_iff_mem.mpr listed)
      rw [List.mem_cons, ih, List.mem_cons, List.mem_cons]
      by_cases same : id = head
      · simp [same, fresh]
      · simp [same]

theorem firstOccurrences_nodup (seen ids : List String) : (firstOccurrences seen ids).Nodup := by
  induction ids generalizing seen with
  | nil => exact .nil
  | cons head rest ih =>
    rw [firstOccurrences]
    split
    · exact ih seen
    · refine List.nodup_cons.mpr ⟨fun again => ?_, ih _⟩
      rw [mem_firstOccurrences] at again
      exact again.2 List.mem_cons_self

theorem firstOccurrences_congr (same : ∀ id, id ∈ seen ↔ id ∈ others) :
    firstOccurrences seen ids = firstOccurrences others ids := by
  induction ids generalizing seen others with
  | nil => rfl
  | cons head rest ih =>
    have known : seen.contains head = others.contains head := by
      rw [Bool.eq_iff_iff, List.contains_iff_mem, List.contains_iff_mem, same]
    rw [firstOccurrences, firstOccurrences, known, ih same]
    split
    · rfl
    · refine congrArg (head :: ·) (ih fun id => ?_)
      rw [List.mem_cons, List.mem_cons, same]

theorem firstOccurrences_append : firstOccurrences seen (first ++ second) =
    firstOccurrences seen first ++ firstOccurrences (first ++ seen) second := by
  induction first generalizing seen with
  | nil => rfl
  | cons head rest ih =>
    rw [List.cons_append, firstOccurrences, firstOccurrences]
    split
    · rename_i known
      have listed : head ∈ seen := List.contains_iff_mem.mp known
      rw [ih]
      refine congrArg (firstOccurrences seen rest ++ ·) (firstOccurrences_congr fun id => ?_)
      constructor
      · exact fun inside => List.mem_cons_of_mem head inside
      · intro inside
        rcases List.mem_cons.mp inside with rfl | inside
        · exact List.mem_append_right rest listed
        · exact inside
    · rw [ih, List.cons_append]
      refine congrArg (head :: firstOccurrences (head :: seen) rest ++ ·) (firstOccurrences_congr fun id => ?_)
      simp only [List.mem_append, List.mem_cons]
      tauto

/-- The items come in the order in which they occurred first. -/
theorem firstOccurrences_ordered (seen ids : List String) :
    (firstOccurrences seen ids).Pairwise fun first second => ids.idxOf first < ids.idxOf second := by
  induction ids generalizing seen with
  | nil => exact .nil
  | cons head rest ih =>
    have later : ∀ seen, head ∈ seen → (firstOccurrences seen rest).Pairwise fun first second =>
        (head :: rest).idxOf first < (head :: rest).idxOf second := by
      intro seen listed
      refine (ih seen).imp_of_mem fun {first second} inside within less => ?_
      have apart : ∀ id ∈ firstOccurrences seen rest, head ≠ id := by
        rintro id inside rfl
        rw [mem_firstOccurrences] at inside
        exact inside.2 listed
      rw [List.idxOf_cons_ne _ (apart first inside), List.idxOf_cons_ne _ (apart second within)]
      exact Nat.succ_lt_succ less
    rw [firstOccurrences]
    split
    · rename_i known
      exact later seen (List.contains_iff_mem.mp known)
    · refine List.pairwise_cons.mpr ⟨fun id inside => ?_, later _ List.mem_cons_self⟩
      have apart : head ≠ id := by
        rintro rfl
        rw [mem_firstOccurrences] at inside
        exact inside.2 List.mem_cons_self
      rw [List.idxOf_cons_self, List.idxOf_cons_ne _ apart]
      exact Nat.succ_pos _

theorem firstOccurrences_eq_nil (known : ∀ id ∈ ids, id ∈ seen) : firstOccurrences seen ids = [] := by
  rw [List.eq_nil_iff_forall_not_mem]
  intro id inside
  rw [mem_firstOccurrences] at inside
  exact inside.2 (known id inside.1)

theorem firstOccurrences_of_nodup (distinct : ids.Nodup) (apart : ∀ id ∈ ids, id ∉ seen) :
    firstOccurrences seen ids = ids := by
  induction ids generalizing seen with
  | nil => rfl
  | cons head rest ih =>
    obtain ⟨fresh, others⟩ := List.nodup_cons.mp distinct
    have unknown : ¬ seen.contains head := fun known => apart head List.mem_cons_self (List.contains_iff_mem.mp known)
    rw [firstOccurrences, if_neg unknown, ih others]
    intro id inside listed
    rcases List.mem_cons.mp listed with rfl | listed
    · exact fresh inside
    · exact apart id (List.mem_cons_of_mem head inside) listed

theorem idxOf_filter_lt {keep : String → Bool} {id other : String} (kept : keep id) (also : keep other)
    (less : (ids.filter keep).idxOf id < (ids.filter keep).idxOf other) : ids.idxOf id < ids.idxOf other := by
  induction ids with
  | nil => simp at less
  | cons head rest ih =>
    by_cases listed : keep head
    · rw [List.filter_cons_of_pos listed] at less
      by_cases last : head = other
      · rw [last, List.idxOf_cons_self] at less
        exact absurd less (Nat.not_lt_zero _)
      · rw [List.idxOf_cons_ne _ last] at less ⊢
        by_cases start : head = id
        · rw [start, List.idxOf_cons_self]
          exact Nat.succ_pos _
        · rw [List.idxOf_cons_ne _ start] at less ⊢
          exact Nat.succ_lt_succ (ih (Nat.lt_of_succ_lt_succ less))
    · rw [List.filter_cons_of_neg listed] at less
      have apart : ∀ item, keep item → head ≠ item := by
        rintro item held rfl
        exact listed held
      rw [List.idxOf_cons_ne _ (apart id kept), List.idxOf_cons_ne _ (apart other also)]
      exact Nat.succ_lt_succ (ih less)

end Occurrences

section Order

def trimmedModuleIds (modules : List Value) : List String :=
  modules.filterMap fun module => module.get "id" >>= trimmedId

def mobileOrderKeys : List String := ["mobileOrder", "mobile_order"]

def requestedModuleIds (payload : Value) : List String :=
  ((payloadValue payload mobileOrderKeys >>= Value.asArray).getD []).filterMap trimmedId

/-- All the ids, each once: those that were requested as they were requested, then the others. -/
structure IsStableCompletion (requested ids order : List String) : Prop where
  nodup : order.Nodup
  complete : ∀ id, id ∈ order ↔ id ∈ ids
  requestedFirst : ∃ first rest, order = first ++ rest ∧ (∀ id, id ∈ first ↔ id ∈ requested ∧ id ∈ ids) ∧
    first.Pairwise (fun id other => requested.idxOf id < requested.idxOf other) ∧
    rest.Pairwise fun id other => ids.idxOf id < ids.idxOf other

variable {payload : Value} {modules : List Value} {id : String}

def completedOrder (payload : Value) (modules : List Value) : List String :=
  firstOccurrences [] ((requestedModuleIds payload).filter (trimmedModuleIds modules).contains ++ trimmedModuleIds modules)

theorem payloadMobileOrder_eq (payload : Value) (modules : List Value) :
    payloadMobileOrder payload modules = strings (completedOrder payload modules) := rfl

theorem completedOrder_stable (payload : Value) (modules : List Value) :
    IsStableCompletion (requestedModuleIds payload) (trimmedModuleIds modules) (completedOrder payload modules) where
  nodup := firstOccurrences_nodup _ _
  complete id := by
    simp [completedOrder, mem_firstOccurrences]
  requestedFirst := by
    refine ⟨_, _, firstOccurrences_append, fun id => ?_, ?_, firstOccurrences_ordered _ _⟩
    · simp [mem_firstOccurrences]
    · refine (firstOccurrences_ordered _ _).imp_of_mem fun {first second} inside within less => ?_
      have kept := (List.mem_filter.mp (mem_firstOccurrences.mp inside).1).2
      have also := (List.mem_filter.mp (mem_firstOccurrences.mp within).1).2
      exact idxOf_filter_lt kept also less

theorem trimmedId_again {value : Value} (found : trimmedId value = some id) : trimmedId (.string id) = some id := by
  obtain ⟨named, filled⟩ := Option.filter_eq_some_iff.mp found
  obtain ⟨text, _, rfl⟩ := Option.map_eq_some_iff.mp named
  rw [trimmedId, Value.asStr, Option.map_some, trim_trim]
  exact Option.filter_eq_some_iff.mpr ⟨rfl, filled⟩

/-- An order that was completed is complete when it is requested. -/
theorem payloadMobileOrder_requested {again : Value}
    (asked : payloadValue again mobileOrderKeys = some (payloadMobileOrder payload modules)) :
    payloadMobileOrder again modules = payloadMobileOrder payload modules := by
  obtain ⟨distinct, complete, _⟩ := completedOrder_stable payload modules
  have requested : requestedModuleIds again = completedOrder payload modules := by
    rw [requestedModuleIds, asked, payloadMobileOrder_eq, strings, Option.bind_eq_bind, Option.bind_some,
      Value.asArray, Option.getD_some, List.filterMap_map]
    refine (List.filterMap_congr fun id inside => ?_).trans List.filterMap_some
    obtain ⟨module, _, named⟩ := List.mem_filterMap.mp ((complete id).mp inside)
    obtain ⟨value, _, found⟩ := Option.bind_eq_some_iff.mp named
    rw [Function.comp_apply]
    exact trimmedId_again found
  have known : (completedOrder payload modules).filter (trimmedModuleIds modules).contains =
      completedOrder payload modules :=
    List.filter_eq_self.mpr fun id inside => List.contains_iff_mem.mpr ((complete id).mp inside)
  rw [payloadMobileOrder_eq again, completedOrder, requested, known, firstOccurrences_append,
    firstOccurrences_of_nodup distinct fun _ _ => List.not_mem_nil, firstOccurrences_eq_nil, List.append_nil]
  · rfl
  · intro id inside
    exact List.mem_append_left _ ((complete id).mpr inside)

/-- The mobile order is complete and stable, and it stays when it is requested. -/
theorem mobile_order_stable (payload : Value) (modules : List Value) : ∃ order,
    payloadMobileOrder payload modules = strings order ∧
      IsStableCompletion (requestedModuleIds payload) (trimmedModuleIds modules) order ∧
      payloadMobileOrder (setPayloadValue payload "mobileOrder" (payloadMobileOrder payload modules)) modules =
        payloadMobileOrder payload modules := by
  refine ⟨completedOrder payload modules, rfl, completedOrder_stable payload modules, payloadMobileOrder_requested ?_⟩
  simp [payloadValue, mobileOrderKeys, setPayloadValue, get_ofMap]

example : completedOrder (json [("mobileOrder", strings ["risk", "missing", "hero", "risk"])])
    (["hero", "risk", "trend"].map fun id => json [("id", .string id)]) = ["risk", "hero", "trend"] := by
  decide

end Order

end DataMax.StaticPage
