import Mathlib.Data.List.Induction
import Mathlib.Logic.Function.Basic

/-! Runs of labelled steps: the relational form keeps a log of the steps taken,
the functional form folds a total step function over the labels. -/

namespace DataMax.Library

universe u v w

variable {State : Type u} {Label : Type v}

/-- A chronological log of labelled steps and the state it leads to. -/
inductive Run (step : State → Label → State → Prop) (start : State) : List Label → State → Prop where
  | nil : Run step start [] start
  | snoc (earlier : Run step start log state) (taken : step state label next) :
      Run step start (log ++ [label]) next

theorem Run.trans {step : State → Label → State → Prop} (run : Run step start log state)
    (onward : Run step state more final) : Run step start (log ++ more) final := by
  induction onward with
  | nil =>
    rw [List.append_nil]
    exact run
  | snoc earlier last ih =>
    rw [← List.append_assoc]
    exact .snoc ih last

theorem Run.head {step : State → Label → State → Prop} (taken : step start label state)
    (onward : Run step state log final) : Run step start (label :: log) final :=
  (Run.snoc .nil taken).trans onward

/-- A property of the log and the state that every step keeps holds after every run. -/
theorem Run.invariant {step : State → Label → State → Prop} {holds : List Label → State → Prop}
    (initial : holds [] start)
    (kept : ∀ {log state label next}, holds log state → step state label next →
      holds (log ++ [label]) next)
    (run : Run step start log state) : holds log state := by
  induction run with
  | nil => exact initial
  | snoc earlier taken ih => exact kept ih taken

/-- A step-by-step simulation carries a whole run over to the abstract steps,
label by label. -/
theorem Run.simulate {Abstract Event : Type w} {origin : Abstract} {step : State → Label → State → Prop}
    {abstractStep : Abstract → Event → Abstract → Prop} {related : State → Abstract → Prop}
    {view : Label → Event} (initial : related start origin)
    (simulates : ∀ {state label next abstract}, step state label next → related state abstract →
      ∃ after, abstractStep abstract (view label) after ∧ related next after)
    (run : Run step start log state) :
    ∃ abstract, Run abstractStep origin (log.map view) abstract ∧ related state abstract := by
  induction run with
  | nil => exact ⟨origin, .nil, initial⟩
  | snoc earlier taken ih =>
    obtain ⟨abstract, walked, matched⟩ := ih
    obtain ⟨after, advanced, rematched⟩ := simulates taken matched
    refine ⟨after, ?_, rematched⟩
    rw [List.map_append]
    exact .snoc walked advanced

/-- What a table of parties holds after one of them moved. -/
theorem moved_cases {Party : Type u} {Item : Type v} [DecidableEq Party] {parties next : Party → Option Item}
    {party other : Party} {item found : Item} (moved : next = Function.update parties party (some item))
    (held : next other = some found) : other = party ∧ found = item ∨ other ≠ party ∧ parties other = some found := by
  rw [moved] at held
  by_cases same : other = party
  · rw [same, Function.update_self] at held
    exact .inl ⟨same, (Option.some.inj held).symm⟩
  · rw [Function.update_of_ne same] at held
    exact .inr ⟨same, held⟩

variable (step : State → Label → State)

/-- Every state on the way, from the start to the last one, has the property. -/
def Always (holds : State → Prop) (start : State) (labels : List Label) : Prop :=
  ∀ earlier, earlier <+: labels → holds (earlier.foldl step start)

/-- Every label is allowed after the labels before it. -/
def Stepwise (allowed : List Label → Label → Prop) (labels : List Label) : Prop :=
  ∀ earlier label, earlier ++ [label] <+: labels → allowed earlier label

/-- Every label of the run is allowed in the state it is applied to. -/
def Guarded (allowed : State → Label → Prop) (start : State) (labels : List Label) : Prop :=
  Stepwise (fun earlier label => allowed (earlier.foldl step start) label) labels

theorem always_nil (holds : State → Prop) (start : State) :
    Always step holds start [] ↔ holds start := by
  constructor
  · intro always
    exact always [] List.prefix_rfl
  · intro initial earlier shorter
    rw [List.prefix_nil.mp shorter]
    exact initial

theorem always_concat (holds : State → Prop) (start : State) (labels : List Label) (label : Label) :
    Always step holds start (labels ++ [label]) ↔
      Always step holds start labels ∧ holds (step (labels.foldl step start) label) := by
  have final : (labels ++ [label]).foldl step start = step (labels.foldl step start) label := by
    simp
  constructor
  · intro always
    refine ⟨fun earlier shorter => always earlier (shorter.trans (List.prefix_append ..)), ?_⟩
    rw [← final]
    exact always _ List.prefix_rfl
  · rintro ⟨always, last⟩ earlier shorter
    rcases List.prefix_concat_iff.mp shorter with whole | before
    · rw [whole, final]
      exact last
    · exact always earlier before

theorem stepwise_nil (allowed : List Label → Label → Prop) : Stepwise allowed [] := by
  intro earlier label shorter
  have none := List.prefix_nil.mp shorter
  simp at none

theorem stepwise_concat (allowed : List Label → Label → Prop) (labels : List Label) (label : Label) :
    Stepwise allowed (labels ++ [label]) ↔ Stepwise allowed labels ∧ allowed labels label := by
  constructor
  · intro stepwise
    exact ⟨fun earlier other shorter => stepwise earlier other (shorter.trans (List.prefix_append ..)),
      stepwise labels label List.prefix_rfl⟩
  · rintro ⟨stepwise, last⟩ earlier other shorter
    rcases List.prefix_concat_iff.mp shorter with whole | before
    · obtain ⟨rfl, same⟩ := List.append_inj' whole rfl
      cases same
      exact last
    · exact stepwise earlier other before

theorem guarded_nil (allowed : State → Label → Prop) (start : State) :
    Guarded step allowed start [] :=
  stepwise_nil _

theorem guarded_concat (allowed : State → Label → Prop) (start : State) (labels : List Label)
    (label : Label) : Guarded step allowed start (labels ++ [label]) ↔
      Guarded step allowed start labels ∧ allowed (labels.foldl step start) label :=
  stepwise_concat _ labels label

theorem guarded_cons (allowed : State → Label → Prop) (start : State) (label : Label) (rest : List Label) :
    Guarded step allowed start (label :: rest) ↔
      allowed start label ∧ Guarded step allowed (step start label) rest := by
  constructor
  · intro guarded
    refine ⟨guarded [] label (by simp), ?_⟩
    intro earlier later shorter
    exact guarded (label :: earlier) later (List.cons_prefix_cons.mpr ⟨rfl, shorter⟩)
  · intro guarded
    rcases guarded with ⟨first, others⟩
    intro earlier later shorter
    cases earlier with
    | nil =>
      cases (List.cons_prefix_cons.mp shorter).1
      exact first
    | cons head before =>
      rcases List.cons_prefix_cons.mp shorter with ⟨same, within⟩
      cases same
      exact others before later within

instance decidableGuarded (allowed : State → Label → Prop) [∀ state label, Decidable (allowed state label)] :
    ∀ (start : State) (labels : List Label), Decidable (Guarded step allowed start labels)
  | start, [] => .isTrue (guarded_nil step allowed start)
  | start, label :: rest =>
    have := decidableGuarded allowed (step start label) rest
    decidable_of_iff _ (guarded_cons step allowed start label rest).symm

/-- A property of states that every step keeps holds after every run. -/
theorem foldl_invariant {holds : State → Prop} (kept : ∀ state label, holds state → holds (step state label))
    (initial : holds start) (labels : List Label) : holds (labels.foldl step start) := by
  induction labels generalizing start with
  | nil => exact initial
  | cons label rest ih => exact ih (kept start label initial)

/-- Once a state on the way has the property, all later ones have it. -/
def Persists (holds : State → Prop) (start : State) (labels : List Label) : Prop :=
  ∀ earlier later, earlier <+: later → later <+: labels →
    holds (earlier.foldl step start) → holds (later.foldl step start)

/-- A property persists exactly when no single step loses it. -/
theorem persists_iff_guarded (holds : State → Prop) (start : State) (labels : List Label) :
    Persists step holds start labels ↔
      Guarded step (fun state label => holds state → holds (step state label)) start labels := by
  constructor
  · intro persists earlier label shorter held
    simpa using persists earlier (earlier ++ [label]) (List.prefix_append ..) shorter held
  · intro guarded earlier later before shorter held
    rcases before with ⟨rest, rfl⟩
    induction rest using List.reverseRecOn with
    | nil => simpa using held
    | append_singleton rest label ih =>
      rw [← List.append_assoc] at shorter ⊢
      rw [List.foldl_append, List.foldl_cons, List.foldl_nil]
      exact guarded (earlier ++ rest) label shorter (ih ((List.prefix_append ..).trans shorter))

/-- Where the step of a permitted label keeps the property exactly when the label is
allowed, a run of permitted labels never leaves the property exactly when all of them
are allowed. -/
theorem always_iff_guarded_within {holds : State → Prop} {permitted : Label → Prop} {allowed : State → Label → Prop}
    (exact_step : ∀ state label, permitted label → holds state → (holds (step state label) ↔ allowed state label))
    (initial : holds start) (labels : List Label) (within : ∀ label ∈ labels, permitted label) :
    Always step holds start labels ↔ Guarded step allowed start labels := by
  induction labels using List.reverseRecOn with
  | nil =>
    rw [always_nil]
    exact ⟨fun _ => guarded_nil step allowed start, fun _ => initial⟩
  | append_singleton labels label ih =>
    rw [always_concat, guarded_concat, ← ih fun other inside => within other (List.mem_append_left _ inside)]
    apply and_congr_right
    intro always
    exact exact_step _ label (within label (by simp)) (always labels List.prefix_rfl)

/-- Where a step keeps the property exactly when its label is allowed, a run
never leaves the property exactly when all of its labels are allowed. -/
theorem always_iff_guarded {holds structural : State → Prop} {allowed : State → Label → Prop}
    (kept : ∀ state label, structural state → structural (step state label))
    (exact_step : ∀ state label, structural state → holds state →
      (holds (step state label) ↔ allowed state label))
    (wellFormed : structural start) (initial : holds start) (labels : List Label) :
    Always step holds start labels ↔ Guarded step allowed start labels := by
  induction labels using List.reverseRecOn with
  | nil =>
    rw [always_nil]
    exact ⟨fun _ => guarded_nil step allowed start, fun _ => initial⟩
  | append_singleton labels label ih =>
    rw [always_concat, guarded_concat, ← ih]
    apply and_congr_right
    intro always
    exact exact_step _ label (foldl_invariant step kept wellFormed labels)
      (always labels List.prefix_rfl)

end DataMax.Library
