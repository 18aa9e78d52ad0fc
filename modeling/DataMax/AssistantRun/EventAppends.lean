import DataMax.AssistantRun.EventLog

/-! What the callers of the log can rely on: which call wrote which row, that a key names one public
event, and how often a call can be overtaken. -/

namespace DataMax.AssistantRun

open Domain ExternalChannel Json Library

namespace EventLog

variable (jsonText : Value → String)

section Authors

variable (runId)

/-- The call wrote the row at the place and got it back or lost the reply, and no row before it
had made the request needless. -/
def Wrote (log : EventLog) (place caller : Nat) : Prop :=
  ∃ request phase, log.calls caller = some ⟨request, phase⟩ ∧
    log.rows[place]? = some (request.row runId (place + 1)) ∧
    (phase = .returned (request.row runId (place + 1)) ∨ phase = .failed) ∧
    (log.rows.take place).find? (request.answeredBy jsonText) = none

/-- The calls that wrote the rows, in the order of the rows. -/
structure Owned (log : EventLog) (authors : List Nat) : Prop where
  distinct : authors.Nodup
  length : authors.length = log.rows.length
  wrote : ∀ place caller, authors[place]? = some caller → Wrote jsonText runId log place caller
  appended : ∀ caller eventName payload row, log.calls caller = some ⟨.append eventName payload, .returned row⟩ →
    caller ∈ authors

variable {log next : EventLog} {action : Action} {jsonText} {runId} {call : Call} {caller : Nat} {authors : List Nat}

theorem Owned.over (owned : Owned jsonText runId log authors) (inside : caller ∈ authors) :
    ∃ call, log.calls caller = some call ∧ call.phase.isOver := by
  obtain ⟨place, found⟩ := List.mem_iff_getElem?.mp inside
  obtain ⟨request, phase, called, _, done, _⟩ := owned.wrote place caller found
  refine ⟨_, called, ?_⟩
  rcases done with rfl | rfl <;> rfl

/-- A call that is not over has written nothing. -/
theorem Owned.fresh (owned : Owned jsonText runId log authors)
    (unfinished : ∀ call, log.calls caller = some call → call.phase.isOver = false) : caller ∉ authors := by
  intro inside
  obtain ⟨call, called, ended⟩ := owned.over inside
  rw [unfinished call called] at ended
  cases ended

theorem Wrote.later {place : Nat} (wrote : Wrote jsonText runId log place caller) (longer : log.rows <+: next.rows)
    (same : next.calls caller = log.calls caller) : Wrote jsonText runId next place caller := by
  obtain ⟨request, phase, called, written, done, first⟩ := wrote
  have inside : place < log.rows.length := (List.getElem?_eq_some_iff.mp written).1
  obtain ⟨rest, split⟩ := longer
  refine ⟨request, phase, same.trans called, ?_, done, ?_⟩
  · rw [← split, List.getElem?_append_left inside, written]
  · rw [← split, List.take_append_of_le_length inside.le, first]

/-- A step that writes nothing and ends no plain request well. -/
theorem Owned.keep (owned : Owned jsonText runId log authors) (rows : next.rows = log.rows)
    (unfinished : ∀ call, log.calls caller = some call → call.phase.isOver = false)
    (moved : next.calls = Function.update log.calls caller (some call))
    (other : ∀ eventName payload row, call ≠ ⟨.append eventName payload, .returned row⟩) :
    Owned jsonText runId next authors where
  distinct := owned.distinct
  length := owned.length.trans (congrArg List.length rows.symm)
  wrote place author found := by
    have apart : author ≠ caller := fun same => owned.fresh unfinished (same ▸ List.mem_of_getElem? found)
    refine (owned.wrote place author found).later (rows ▸ List.prefix_rfl) ?_
    rw [moved, Function.update_of_ne apart]
  appended author eventName payload row called := by
    rcases moved_cases moved called with ⟨_, same⟩ | ⟨_, unchanged⟩
    · exact absurd same.symm (other eventName payload row)
    · exact owned.appended author eventName payload row unchanged

theorem Owned.insert (owned : Owned jsonText runId log authors)
    {request : Request} {attempt : Nat} {phase : Phase}
    (called : log.calls caller = some ⟨request, .running attempt log.rows⟩)
    (absent : log.rows.find? (request.answeredBy jsonText) = none)
    (rows : next.rows = log.rows ++ [request.row runId (log.rows.length + 1)])
    (moved : next.calls = Function.update log.calls caller (some ⟨request, phase⟩))
    (done : phase = .returned (request.row runId (log.rows.length + 1)) ∨ phase = .failed) :
    Owned jsonText runId next (authors ++ [caller]) := by
  have fresh : caller ∉ authors := owned.fresh fun call held => by
    rw [called] at held
    cases held
    rfl
  refine ⟨?_, ?_, ?_, ?_⟩
  · exact List.nodup_append.mpr ⟨owned.distinct, List.nodup_singleton caller, fun first inside second only same => by
      rw [List.mem_singleton] at only
      exact fresh (only ▸ same ▸ inside)⟩
  · rw [rows, List.length_append, List.length_append, owned.length]
    rfl
  · intro place author found
    by_cases before : place < authors.length
    · rw [List.getElem?_append_left before] at found
      have apart : author ≠ caller := fun same => fresh (same ▸ List.mem_of_getElem? found)
      refine (owned.wrote place author found).later (rows ▸ List.prefix_append ..) ?_
      rw [moved, Function.update_of_ne apart]
    · have bounded := (List.getElem?_eq_some_iff.mp found).1
      rw [List.length_append, List.length_singleton] at bounded
      have last : place = authors.length := by omega
      subst last
      rw [List.getElem?_concat_length] at found
      cases found
      rw [owned.length]
      refine ⟨request, phase, by rw [moved, Function.update_self], ?_, done, ?_⟩
      · rw [rows, List.getElem?_concat_length]
      · rw [rows, List.take_left, absent]
  · intro author eventName payload row held
    rcases moved_cases moved held with ⟨same, _⟩ | ⟨_, unchanged⟩
    · exact List.mem_append_right _ (List.mem_singleton.mpr same)
    · exact List.mem_append_left _ (owned.appended author eventName payload row unchanged)

theorem Owned.step (consistent : Consistent jsonText log) (owned : Owned jsonText runId log authors)
    (taken : Step jsonText runId log action next) : ∃ grown, Owned jsonText runId next grown := by
  have running {caller : Nat} {request : Request} {attempt : Nat} {visible : List AssistantRunEvent}
      (called : log.calls caller = some ⟨request, .running attempt visible⟩) :
      ∀ call, log.calls caller = some call → call.phase.isOver = false := by
    intro call held
    rw [called] at held
    cases held
    rfl
  cases taken with
  | call unknown =>
    refine ⟨authors, owned.keep rfl (fun call held => ?_) rfl (by simp)⟩
    rw [unknown] at held
    cases held
  | read called =>
    refine ⟨authors, owned.keep rfl (fun call held => ?_) rfl (by simp)⟩
    rw [called] at held
    cases held
    rfl
  | @find caller request attempt visible row called found =>
    refine ⟨authors, owned.keep rfl (running called) rfl fun eventName payload other same => ?_⟩
    cases same
    cases found
  | lock called unlocked => exact ⟨authors, owned.distinct, owned.length, owned.wrote, owned.appended⟩
  | @insert caller request attempt visible answered called holds absent free fits =>
    have whole := consistent.visible_eq called free
    subst whole
    rw [existing_eq consistent.numbered] at absent
    have number := nextSequence_eq consistent.numbered
    refine ⟨authors ++ [caller], owned.insert called absent ?_ rfl ?_⟩
    · rw [setPhase_rows, number]
    · rw [number]
      cases answered <;> simp
  | collide called holds absent taken =>
    refine ⟨authors, owned.keep rfl (running called) rfl ?_⟩
    split <;> simp
  | @fail caller request phase attempt visible called unfinished =>
    refine ⟨authors, owned.keep rfl (fun call held => ?_) rfl (by simp)⟩
    rw [called] at held
    cases held
    rcases unfinished with rfl | rfl <;> rfl

end Authors

section Collisions

/-- Since there were so many rows, one was added for each collision of the call; a call that has read sees them. -/
def Overtaken (since : Nat) (log : EventLog) (call : Call) : Prop := match call.phase with
  | .running attempt visible => since + attempt ≤ visible.length
  | phase => since + phase.collisions ≤ log.rows.length

variable {log next : EventLog} {action : Action} {jsonText} {runId : UuidBytes} {call : Call} {caller since : Nat}

theorem Overtaken.later (overtaken : Overtaken since log call) (longer : log.rows <+: next.rows) :
    Overtaken since next call := by
  have more := longer.length_le
  obtain ⟨request, phase⟩ := call
  cases phase with
  | running attempt visible => exact overtaken
  | _ => exact Nat.le_trans overtaken more

theorem Step.overtaken (consistent : Consistent jsonText log) (taken : Step jsonText runId log action next)
    (known : since ≤ log.rows.length) (before : ∀ call, log.calls caller = some call → Overtaken since log call) :
    ∀ call, next.calls caller = some call → Overtaken since next call := by
  intro call held
  have longer := taken.rows_prefix
  have kept (unchanged : log.calls caller = some call) : Overtaken since next call :=
    (before call unchanged).later longer
  cases taken with
  | call unknown =>
    rcases moved_cases rfl held with ⟨rfl, rfl⟩ | ⟨_, unchanged⟩
    · exact known
    · exact kept unchanged
  | read called =>
    rcases moved_cases rfl held with ⟨rfl, rfl⟩ | ⟨_, unchanged⟩
    · exact before _ called
    · exact kept unchanged
  | find called found =>
    rcases moved_cases rfl held with ⟨rfl, rfl⟩ | ⟨_, unchanged⟩
    · exact known
    · exact kept unchanged
  | lock called unlocked => exact kept held
  | @insert _ request attempt visible answered called holds absent free fits =>
    rcases moved_cases rfl held with ⟨rfl, rfl⟩ | ⟨_, unchanged⟩
    · have more := longer.length_le
      cases answered <;> exact known.trans more
    · exact kept unchanged
  | @collide _ request attempt visible called holds absent taken =>
    rcases moved_cases rfl held with ⟨rfl, rfl⟩ | ⟨_, unchanged⟩
    · have read : since + attempt ≤ visible.length := before _ called
      have fewer := consistent.overtaken called taken
      split
      · change since + (attempt + 1) ≤ log.rows.length
        omega
      · change since + (retryLimit + 1) ≤ log.rows.length
        rw [retryLimit] at *
        omega
    · exact kept unchanged
  | fail called unfinished =>
    rcases moved_cases rfl held with ⟨rfl, rfl⟩ | ⟨_, unchanged⟩
    · exact known
    · exact kept unchanged

end Collisions

section Runs

variable {log later : EventLog} {actions more : List Action} {jsonText} {runId : UuidBytes} {caller : Nat}
  {call : Call}

theorem owned_start : Owned jsonText runId start [] :=
  ⟨List.nodup_nil, rfl, fun _ _ found => (nomatch found), fun _ _ _ _ held => nomatch held⟩

theorem owned_run (run : Run (Step jsonText runId) start actions log) :
    ∃ authors, Owned jsonText runId log authors := by
  induction run with
  | nil => exact ⟨[], owned_start⟩
  | snoc earlier taken ih =>
    obtain ⟨authors, owned⟩ := ih
    exact owned.step (consistent_run earlier) taken

/-- Two calls under one key, the second of which reads before the first writes. -/
def sharedRequest : Request := .appendPublic "completed" "completed:1" .empty

def someRunId : UuidBytes := ⟨List.replicate 16 1, rfl⟩

/-- The two calls one step after the other, without what a database writes of other values. -/
abbrev SharedStep : EventLog → Action → EventLog → Prop := Step (fun _ => "") someRunId

def bothCalled : EventLog := (start.setPhase 0 sharedRequest (.ready 0)).setPhase 1 sharedRequest (.ready 0)

def sharedRow : AssistantRunEvent := sharedRequest.row someRunId 1

theorem bothCalled_run : Run SharedStep start [.call 0 sharedRequest, .call 1 sharedRequest] bothCalled :=
  .head (.call rfl) (.head (.call rfl) .nil)

/-- The second call finds the number of the first row taken, reads again and finds that row. -/
theorem shared_run : ∃ collided found, Run SharedStep bothCalled
      [.read 0, .read 1, .lock 0, .insert 0 true, .lock 1, .collide 1] collided ∧
    collided.calls 1 = some ⟨sharedRequest, .ready 1⟩ ∧ collided.rows = [sharedRow] ∧
    Run SharedStep collided [.read 1, .find 1] found ∧ found.rows = [sharedRow] ∧
    found.calls 0 = some ⟨sharedRequest, .returned sharedRow⟩ ∧
    found.calls 1 = some ⟨sharedRequest, .returned sharedRow⟩ := by
  refine ⟨_, _, .head (.read rfl) (.head (.read rfl) (.head (.lock rfl rfl) (.head (.insert rfl rfl rfl ?_ ?_)
    (.head (.lock rfl rfl) (.head (.collide rfl rfl rfl ?_) .nil))))), rfl, rfl,
    .head (.read rfl) (.head (.find rfl ?_) .nil), rfl, rfl, rfl⟩
  · exact fun _ => nofun
  · decide
  · exact ⟨_, List.mem_singleton_self _, rfl⟩
  · rfl

/-- The rows are numbered without a gap in the order they were committed, each is the row of one call
of its own, no call that got its row back lacks one, and what is committed stays. -/
theorem events_numbered_in_order (run : Run (Step jsonText runId) start actions log) :
    Numbered AssistantRunEvent.sequenceNo log.rows ∧ (∃ authors, Owned jsonText runId log authors) ∧
      ∀ more later, Run (Step jsonText runId) log more later → log.rows <+: later.rows :=
  ⟨(consistent_run run).numbered, owned_run run, fun _ _ onward => ((consistent_run run).onward onward).2⟩

theorem events_numbered_in_order_shared : ∃ log : EventLog, log.rows = [sharedRow] ∧
    Numbered AssistantRunEvent.sequenceNo log.rows ∧ ∃ authors, Owned (fun _ => "") someRunId log authors := by
  obtain ⟨collided, found, first, _, _, second, rows, _⟩ := shared_run
  obtain ⟨numbered, owned, _⟩ := events_numbered_in_order (bothCalled_run.trans (first.trans second))
  exact ⟨found, rows, numbered, owned⟩

/-- The call asked for a public event under the key, and is in this phase. -/
def Asked (log : EventLog) (eventName dedupeKey : String) (caller : Nat) (phase : Phase) : Prop :=
  ∃ payload, log.calls caller = some ⟨.appendPublic eventName dedupeKey payload, phase⟩

theorem Consistent.answer (consistent : Consistent jsonText log) {eventName dedupeKey : String}
    {row : AssistantRunEvent}
    (asked : log.Asked eventName dedupeKey caller (.returned row)) :
    log.rows.find? (carries jsonText eventName dedupeKey) = some row := by
  obtain ⟨payload, called⟩ := asked
  rcases (consistent.calls caller _ called).2 with found | ⟨_, _, plain⟩
  · exact found
  · cases plain

/-- No two calls write a public event under one key. -/
theorem Owned.public_unique {authors : List Nat} (owned : Owned jsonText runId log authors)
    {eventName dedupeKey : String}
    {first second : Nat} {firstPhase secondPhase : Phase} (listed : first ∈ authors) (other : second ∈ authors)
    (asked : log.Asked eventName dedupeKey first firstPhase)
    (again : log.Asked eventName dedupeKey second secondPhase) : first = second := by
  have ordered {earlier later first second : Nat} {firstPhase secondPhase : Phase}
      (found : authors[earlier]? = some first) (behind : authors[later]? = some second)
      (asked : log.Asked eventName dedupeKey first firstPhase)
      (again : log.Asked eventName dedupeKey second secondPhase) : ¬ earlier < later := by
    intro before
    obtain ⟨payload, called⟩ := asked
    obtain ⟨otherPayload, recalled⟩ := again
    obtain ⟨request, phase, held, written, _, _⟩ := owned.wrote earlier first found
    obtain ⟨request', phase', held', _, _, absent⟩ := owned.wrote later second behind
    rw [called] at held
    rw [recalled] at held'
    cases held
    cases held'
    have inside : (Request.appendPublic eventName dedupeKey payload).row runId (earlier + 1) ∈ log.rows.take later :=
      List.mem_of_getElem? (i := earlier) (by rw [List.getElem?_take_of_lt before, written])
    exact List.find?_eq_none.mp absent _ inside answeredBy_row
  obtain ⟨place, found⟩ := List.mem_iff_getElem?.mp listed
  obtain ⟨later, behind⟩ := List.mem_iff_getElem?.mp other
  have equal : place = later := by
    have after := ordered found behind asked again
    have before := ordered behind found again asked
    omega
  rw [equal, behind] at found
  exact (Option.some.inj found).symm

/-- Under one name and key at most one call writes an event, and all that are answered, then or at
any later time, get that one. -/
theorem public_event_once (run : Run (Step jsonText runId) start actions log)
    (onward : Run (Step jsonText runId) log more later) (eventName dedupeKey : String) :
    (∃ authors, Owned jsonText runId log authors ∧ ∀ first ∈ authors, ∀ second ∈ authors, ∀ firstPhase secondPhase,
      log.Asked eventName dedupeKey first firstPhase → log.Asked eventName dedupeKey second secondPhase →
        first = second) ∧
    ∀ first second row other, log.Asked eventName dedupeKey first (.returned row) →
      later.Asked eventName dedupeKey second (.returned other) → row = other := by
  have consistent := consistent_run run
  obtain ⟨grown, longer⟩ := consistent.onward onward
  constructor
  · obtain ⟨authors, owned⟩ := owned_run run
    exact ⟨authors, owned,
      fun first listed second other _ _ asked again => owned.public_unique listed other asked again⟩
  · intro first second row other asked again
    have found := consistent.answer asked
    have refound := grown.answer again
    obtain ⟨rest, split⟩ := longer
    rw [← split, List.find?_append, found] at refound
    exact Option.some.inj refound

theorem public_event_once_shared : ∃ log : EventLog, log.rows = [sharedRow] ∧
    log.Asked "completed" "completed:1" 0 (.returned sharedRow) ∧
    log.Asked "completed" "completed:1" 1 (.returned sharedRow) ∧
    ∃ authors, Owned (fun _ => "") someRunId log authors ∧
      ∀ first ∈ authors, ∀ second ∈ authors, ∀ firstPhase secondPhase,
        log.Asked "completed" "completed:1" first firstPhase →
          log.Asked "completed" "completed:1" second secondPhase → first = second := by
  obtain ⟨collided, found, first, _, _, second, rows, zero, one⟩ := shared_run
  exact ⟨found, rows, ⟨_, zero⟩, ⟨_, one⟩,
    (public_event_once (bothCalled_run.trans (first.trans second)) .nil "completed" "completed:1").1⟩

/-- A call finds its number taken only as often as rows were added since it began: one that
gives up was overtaken more often than it may try again. -/
theorem collisions_overtaken (run : Run (Step jsonText runId) start actions log)
    (called : log.calls caller = some ⟨request, .ready 0⟩) (onward : Run (Step jsonText runId) log more later)
    (held : later.calls caller = some call) : log.rows.length + call.phase.collisions ≤ later.rows.length := by
  have started := consistent_run run
  have overtaken : ∀ call, later.calls caller = some call → Overtaken log.rows.length later call := by
    clear held
    induction onward with
    | nil =>
      intro call found
      rw [called] at found
      cases found
      exact le_rfl
    | snoc earlier taken ih =>
      obtain ⟨consistent, longer⟩ := started.onward earlier
      exact taken.overtaken consistent longer.length_le ih
  have consistent := (started.onward onward).1
  have bounded := overtaken call held
  obtain ⟨request, phase⟩ := call
  cases phase with
  | running attempt visible => exact Nat.le_trans bounded (consistent.visible_prefix held).length_le
  | _ => exact bounded

theorem collisions_overtaken_shared : ∃ log : EventLog, log.calls 1 = some ⟨sharedRequest, .ready 1⟩ ∧
    bothCalled.rows.length + (Phase.ready 1).collisions ≤ log.rows.length := by
  obtain ⟨collided, _, onward, called, _⟩ := shared_run
  exact ⟨collided, called, collisions_overtaken bothCalled_run rfl onward called⟩

end Runs

end EventLog

end DataMax.AssistantRun
