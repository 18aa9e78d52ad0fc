import Mathlib.Tactic.Common

/-! Results that may be errors, one step after the other. -/

namespace DataMax.Library

universe u v w

variable {Error : Type u} {Item Result : Type v}

/-- Both steps of a run that ends well end well. -/
theorem bind_eq_ok {first : Except Error Item} {rest : Item → Except Error Result} {result : Result} :
    (first >>= rest) = .ok result ↔ ∃ item, first = .ok item ∧ rest item = .ok result := by
  cases first with
  | error error => simp [bind, Except.bind]
  | ok item => simp [bind, Except.bind]

theorem unit_bind_eq_ok {Last : Type} {first : Except Error Unit} {rest : Unit → Except Error Last} {result : Last} :
    (first >>= rest) = .ok result ↔ first = .ok () ∧ rest () = .ok result := by
  rw [bind_eq_ok]
  exact ⟨fun ⟨_, ran, ended⟩ => ⟨ran, ended⟩, fun ⟨ran, ended⟩ => ⟨(), ran, ended⟩⟩

theorem forM_eq_ok {check : Item → Except Error Unit} {items : List Item} :
    forM items check = .ok () ↔ ∀ item ∈ items, check item = .ok () := by
  induction items with
  | nil => exact iff_of_true rfl fun _ inside => absurd inside List.not_mem_nil
  | cons item rest ih => rw [List.forM_cons, unit_bind_eq_ok, ih, List.forall_mem_cons]

/-- Nothing, or the error where something does not hold. -/
def ensure (holds : Bool) (error : Error) : Except Error Unit := if holds then .ok () else .error error

@[simp] theorem ensure_eq_ok {holds : Bool} {error : Error} : ensure holds error = .ok () ↔ holds = true := by
  cases holds <;> simp [ensure]

theorem exists_bind_ok {first : Except Error Item} {rest : Item → Except Error Result} :
    (∃ result, (first >>= rest) = .ok result) ↔ ∃ item, first = .ok item ∧ ∃ result, rest item = .ok result := by
  simp only [bind_eq_ok]
  constructor
  · rintro ⟨result, item, ran, ended⟩
    exact ⟨item, ran, result, ended⟩
  · rintro ⟨item, ran, result, ended⟩
    exact ⟨result, item, ran, ended⟩

theorem exists_error {outcome : Except Error Item} (failed : ¬ ∃ item, outcome = .ok item) :
    ∃ error, outcome = .error error := by
  cases outcome with
  | error error => exact ⟨error, rfl⟩
  | ok item => exact absurd ⟨item, rfl⟩ failed

/-- The item that is there, or the error that says it is not. -/
def okOr (found : Option Item) (error : Error) : Except Error Item := match found with
  | some item => .ok item
  | none => .error error

@[simp] theorem okOr_some (item : Item) (error : Error) : okOr (some item) error = .ok item := rfl

@[simp] theorem okOr_none (error : Error) : okOr (none : Option Item) error = .error error := rfl

@[simp] theorem okOr_eq_ok {found : Option Item} {error : Error} {item : Item} :
    okOr found error = .ok item ↔ found = some item := by
  cases found <;> simp

/-- Another error is still an error. -/
@[simp] theorem mapError_eq_ok {Other : Type w} {result : Except Error Item} {change : Error → Other} {item : Item} :
    result.mapError change = .ok item ↔ result = .ok item := by
  cases result <;> simp [Except.mapError]

theorem mapM_cons_eq_ok {change : Item → Except Error Result} {item : Item} {rest : List Item} {results : List Result} :
    (item :: rest).mapM change = .ok results ↔
      ∃ result others, change item = .ok result ∧ rest.mapM change = .ok others ∧ results = result :: others := by
  rw [List.mapM_cons]
  cases first : change item with
  | error error => simp [bind, Except.bind]
  | ok result =>
    cases later : rest.mapM change with
    | error error => simp [bind, Except.bind]
    | ok others => simp [bind, Except.bind, pure, Except.pure, eq_comm]

/-- Steps that all end well have results. -/
theorem mapM_ok_of {change : Item → Except Error Result} {items : List Item}
    (each : ∀ item ∈ items, ∃ result, change item = .ok result) : ∃ results, items.mapM change = .ok results := by
  induction items with
  | nil => exact ⟨[], rfl⟩
  | cons item rest ih =>
    obtain ⟨⟨result, first⟩, others⟩ := List.forall_mem_cons.mp each
    obtain ⟨results, later⟩ := ih others
    refine ⟨result :: results, ?_⟩
    rw [mapM_cons_eq_ok]
    exact ⟨result, results, first, later, rfl⟩

theorem length_of_mapM_ok {change : Item → Except Error Result} {items : List Item} {results : List Result}
    (ran : items.mapM change = .ok results) : results.length = items.length := by
  induction items generalizing results with
  | nil =>
    cases ran
    rfl
  | cons item rest ih =>
    rw [mapM_cons_eq_ok] at ran
    obtain ⟨result, others, _, later, rfl⟩ := ran
    rw [List.length_cons, List.length_cons, ih later]

theorem forall₂_of_mapM_ok {change : Item → Except Error Result} {items : List Item} {results : List Result}
    (ran : items.mapM change = .ok results) :
    List.Forall₂ (fun item result => change item = .ok result) items results := by
  induction items generalizing results with
  | nil =>
    cases ran
    exact .nil
  | cons item rest ih =>
    rw [mapM_cons_eq_ok] at ran
    obtain ⟨result, others, first, later, rfl⟩ := ran
    exact .cons first (ih later)

theorem exists_of_mem_mapM {change : Item → Except Error Result} {items : List Item} {results : List Result}
    (ran : items.mapM change = .ok results) {result : Result} (inside : result ∈ results) :
    ∃ item ∈ items, change item = .ok result := by
  induction items generalizing results with
  | nil =>
    cases ran
    cases inside
  | cons item rest ih =>
    rw [mapM_cons_eq_ok] at ran
    obtain ⟨head, others, first, later, rfl⟩ := ran
    rcases List.mem_cons.mp inside with rfl | tail
    · exact ⟨item, List.mem_cons_self, first⟩
    · obtain ⟨source, listed, same⟩ := ih later tail
      exact ⟨source, List.mem_cons_of_mem item listed, same⟩

/-- If each result is its own result, so is the list of results. -/
theorem mapM_again {change : Item → Except Error Item}
    (again : ∀ item result, change item = .ok result → change result = .ok result) {items results : List Item}
    (ran : items.mapM change = .ok results) : results.mapM change = .ok results := by
  induction items generalizing results with
  | nil =>
    cases ran
    rfl
  | cons item rest ih =>
    rw [mapM_cons_eq_ok] at ran
    obtain ⟨result, others, first, later, rfl⟩ := ran
    rw [mapM_cons_eq_ok]
    exact ⟨result, others, again item result first, ih later, rfl⟩

/-- A run whose steps all end well is the run of what they give. -/
theorem foldlM_ok_of {State : Type w} {step : State → Item → Except Error State} {next : State → Item → State}
    {items : List Item} (each : ∀ item ∈ items, ∀ state, step state item = .ok (next state item)) (state : State) :
    items.foldlM step state = .ok (items.foldl next state) := by
  induction items generalizing state with
  | nil => rfl
  | cons item rest ih =>
    obtain ⟨first, others⟩ := List.forall_mem_cons.mp each
    rw [List.foldlM_cons, first]
    exact ih others (next state item)

end DataMax.Library
