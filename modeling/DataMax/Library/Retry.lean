import DataMax.Library.Run
import Mathlib.Data.List.Nodup
import Mathlib.Data.List.TakeDrop

/-! A plan is a fixed list of keys worked through one at a time. A stopped
attempt may be queued again from the first key while retries are left. -/

namespace DataMax.Library.Retry

universe u

variable {Key : Type u}

inductive Phase where
  | queued
  | active (position : Nat)
  | stopped
  | finished
  | cancelled
  | exhausted
  deriving DecidableEq

structure Progress where
  phase : Phase
  retries : Nat

inductive Event (Key : Type u) where
  | started (key : Key)
  | completed (key : Key) (following : Option Key)
  | aborted
  | requeued
  | exhausted
  | cancelled

/-- The keys handed out for work by one event. -/
def Event.issued : Event Key → List Key
  | .started key => [key]
  | .completed _ following => following.toList
  | _ => []

def Event.isStarted : Event Key → Bool
  | .started _ => true
  | _ => false

def Event.isRequeued : Event Key → Bool
  | .requeued => true
  | _ => false

inductive Step (plan : List Key) : Progress → Event Key → Progress → Prop where
  | start (first : plan[0]? = some key) :
      Step plan ⟨.queued, retries⟩ (.started key) ⟨.active 0, retries⟩
  | advance (current : plan[position]? = some key) (later : plan[position + 1]? = some next) :
      Step plan ⟨.active position, retries⟩ (.completed key (some next)) ⟨.active (position + 1), retries⟩
  | finish (current : plan[position]? = some key) (last : plan[position + 1]? = none) :
      Step plan ⟨.active position, retries⟩ (.completed key none) ⟨.finished, retries⟩
  | abort : Step plan ⟨.active position, retries⟩ .aborted ⟨.stopped, retries⟩
  | requeue : Step plan ⟨.stopped, retries + 1⟩ .requeued ⟨.queued, retries⟩
  | exhaust : Step plan ⟨.stopped, 0⟩ .exhausted ⟨.exhausted, 0⟩
  | cancel : Step plan ⟨phase, retries⟩ .cancelled ⟨.cancelled, retries⟩

def starts (log : List (Event Key)) : Nat := log.countP Event.isStarted

def requeues (log : List (Event Key)) : Nat := log.countP Event.isRequeued

def issuedKeys (log : List (Event Key)) : List Key := log.flatMap Event.issued

/-- The keys completed in order since the latest start. -/
def completedSinceStart (log : List (Event Key)) : List Key :=
  log.foldl (fun completed event => match event with
    | .started _ => []
    | .completed key _ => completed ++ [key]
    | _ => completed) []

@[simp] theorem starts_concat (log : List (Event Key)) (event : Event Key) :
    starts (log ++ [event]) = starts log + if event.isStarted then 1 else 0 := by
  simp [starts, List.countP_append, List.countP_singleton]

@[simp] theorem requeues_concat (log : List (Event Key)) (event : Event Key) :
    requeues (log ++ [event]) = requeues log + if event.isRequeued then 1 else 0 := by
  simp [requeues, List.countP_append, List.countP_singleton]

@[simp] theorem issuedKeys_concat (log : List (Event Key)) (event : Event Key) :
    issuedKeys (log ++ [event]) = issuedKeys log ++ event.issued := by
  simp [issuedKeys]

@[simp] theorem completedSinceStart_started (log : List (Event Key)) (key : Key) :
    completedSinceStart (log ++ [.started key]) = [] := by
  simp [completedSinceStart]

@[simp] theorem completedSinceStart_completed (log : List (Event Key)) (key : Key)
    (following : Option Key) : completedSinceStart (log ++ [.completed key following]) =
      completedSinceStart log ++ [key] := by
  simp [completedSinceStart]

/-- The attempts a phase has opened beyond the counted requeues. -/
def Phase.opened : Phase → Nat
  | .queued => 0
  | _ => 1

/-- An upper bound for the keys the current attempt has handed out. -/
def Phase.spent (size : Nat) : Phase → Nat
  | .queued => 0
  | .active position => position + 1
  | _ => size

/-- What a log of events says about the progress it leads to. -/
structure Accounted (plan : List Key) (budget : Nat) (log : List (Event Key))
    (progress : Progress) : Prop where
  retries : requeues log + progress.retries = budget
  starts : starts log ≤ requeues log + progress.phase.opened
  issued : (issuedKeys log).length ≤ requeues log * plan.length + progress.phase.spent plan.length
  position : ∀ position, progress.phase = .active position → position < plan.length
  current : ∀ position, progress.phase = .active position →
    (issuedKeys log).getLast? = plan[position]?
  completed : ∀ position, progress.phase = .active position →
    completedSinceStart log = plan.take position

theorem Phase.opened_le (phase : Phase) : phase.opened ≤ 1 := by
  cases phase <;> simp [Phase.opened]

theorem Phase.spent_le (phase : Phase) (valid : ∀ position, phase = .active position → position < size) :
    phase.spent size ≤ size := by
  cases phase with
  | active position => exact valid position rfl
  | _ => simp [Phase.spent]

theorem accounted_start (plan : List Key) (budget : Nat) :
    Accounted plan budget [] ⟨.queued, budget⟩ := by
  constructor <;> simp [requeues, starts, issuedKeys]

theorem Step.retries_spent (taken : Step plan progress event next) :
    (if event.isRequeued then 1 else 0) + next.retries = progress.retries := by
  cases taken with
  | requeue => exact Nat.add_comm 1 _
  | _ => exact Nat.zero_add _

theorem Step.opened (taken : Step plan progress event next) :
    (if event.isStarted then 1 else 0) + progress.phase.opened ≤
      (if event.isRequeued then 1 else 0) + next.phase.opened := by
  cases taken with
  | @cancel phase retries => simpa [Event.isStarted, Event.isRequeued, Phase.opened] using phase.opened_le
  | _ => simp [Event.isStarted, Event.isRequeued, Phase.opened]

/-- What a step hands out is within what its attempt may hand out. -/
theorem Step.spent (taken : Step plan progress event next)
    (valid : ∀ position, progress.phase = .active position → position < plan.length) :
    event.issued.length + progress.phase.spent plan.length ≤
      (if event.isRequeued then 1 else 0) * plan.length + next.phase.spent plan.length := by
  have bound := progress.phase.spent_le valid
  cases taken with
  | advance current later =>
    simp only [Event.issued, Event.isRequeued, Phase.spent, Option.toList_some, List.length_singleton,
      Bool.false_eq_true, if_false]
    omega
  | finish current last => simpa [Event.issued, Event.isRequeued, Phase.spent] using bound
  | abort => simpa [Event.issued, Event.isRequeued, Phase.spent] using bound
  | cancel => simpa [Event.issued, Event.isRequeued, Phase.spent] using bound
  | _ => simp [Event.issued, Event.isRequeued, Phase.spent]

/-- A position is reached only by handing out its key. -/
theorem Step.current (taken : Step plan progress event next) (reached : next.phase = .active place) :
    ∃ key, event.issued = [key] ∧ plan[place]? = some key := by
  cases taken with
  | start first =>
    cases reached
    exact ⟨_, rfl, first⟩
  | advance current later =>
    cases reached
    exact ⟨_, rfl, later⟩
  | _ => cases reached

theorem Step.completed (taken : Step plan progress event next)
    (before : ∀ position, progress.phase = .active position → completedSinceStart log = plan.take position)
    (reached : next.phase = .active place) :
    completedSinceStart (log ++ [event]) = plan.take place := by
  cases taken with
  | start first =>
    cases reached
    simp
  | advance current later =>
    cases reached
    rw [completedSinceStart_completed, before _ rfl, List.take_add_one, current]
    rfl
  | _ => cases reached

theorem Accounted.step (accounted : Accounted plan budget log progress)
    (taken : Step plan progress event next) : Accounted plan budget (log ++ [event]) next where
  retries := by
    have before := accounted.retries
    have spent := taken.retries_spent
    rw [requeues_concat]
    omega
  starts := by
    have before := accounted.starts
    have opened := taken.opened
    rw [starts_concat, requeues_concat]
    omega
  issued := by
    have before := accounted.issued
    have spent := taken.spent accounted.position
    rw [issuedKeys_concat, requeues_concat, List.length_append, Nat.add_mul]
    omega
  position := by
    intro place reached
    obtain ⟨_, _, here⟩ := taken.current reached
    exact (List.getElem?_eq_some_iff.mp here).1
  current := by
    intro place reached
    obtain ⟨key, issued, here⟩ := taken.current reached
    rw [issuedKeys_concat, issued, List.getLast?_concat, here]
  completed := fun _ reached => taken.completed accounted.completed reached

theorem Accounted.run (walked : Run (Step plan) ⟨.queued, budget⟩ log progress) :
    Accounted plan budget log progress :=
  walked.invariant (accounted_start plan budget) fun accounted taken => accounted.step taken

/-- One attempt and every retry can each be started once. -/
theorem Accounted.starts_bound (accounted : Accounted plan budget log progress) :
    Retry.starts log ≤ budget + 1 := by
  have bound := accounted.starts
  have left := accounted.retries
  have opened := progress.phase.opened_le
  omega

/-- No attempt hands out more keys than the plan has. -/
theorem Accounted.issued_bound (accounted : Accounted plan budget log progress) :
    (issuedKeys log).length ≤ (budget + 1) * plan.length := by
  have spent := progress.phase.spent_le accounted.position
  have requeued : requeues log ≤ budget := by
    have left := accounted.retries
    omega
  calc (issuedKeys log).length
      ≤ requeues log * plan.length + progress.phase.spent plan.length := accounted.issued
    _ ≤ budget * plan.length + plan.length :=
        Nat.add_le_add (Nat.mul_le_mul_right _ requeued) spent
    _ = (budget + 1) * plan.length := (Nat.succ_mul ..).symm

/-- A key is handed out only by moving to its position. -/
theorem Step.issued_active (taken : Step plan progress event next) (member : key ∈ event.issued) :
    ∃ position, next.phase = .active position ∧ plan[position]? = some key := by
  cases taken with
  | start first =>
    obtain rfl := List.mem_singleton.mp member
    exact ⟨0, rfl, first⟩
  | advance current later =>
    obtain rfl := List.mem_singleton.mp member
    exact ⟨_, rfl, later⟩
  | _ => simp [Event.issued] at member

/-- When a key is handed out, the completions since the latest start are
exactly the keys before it in the plan, in the order of the plan. -/
theorem Accounted.completed_before (accounted : Accounted plan budget log progress)
    (distinct : plan.Nodup) (taken : Step plan progress event next) (member : key ∈ event.issued)
    (located : plan[place]? = some key) :
    completedSinceStart (log ++ [event]) = plan.take place := by
  obtain ⟨reached, active, same⟩ := taken.issued_active member
  have inside := (accounted.step taken).position reached active
  have equal : reached = place := (List.getElem?_inj inside distinct).mp (same.trans located.symm)
  rw [← equal]
  exact (accounted.step taken).completed reached active

end DataMax.Library.Retry
