import DataMax.ExternalChannel.StreamResume
import DataMax.Library.Numbering
import DataMax.Library.Run
import DataMax.Library.Sorting
import Mathlib.Logic.Function.Basic

/-! The events of a run, which any number of callers append to at the same time. A statement sees
the rows that were committed when it began, and waits for the lock of the run before it writes. -/

namespace DataMax.AssistantRun

open Domain ExternalChannel Json Library

/-- `append_event`, or `append_external_channel_public_stream_event` with a key of the event. -/
inductive Request where
  | append (eventName : String) (payload : Map)
  | appendPublic (eventName dedupeKey : String) (payload : Map)

/-- `lpad` -/
def lpad (text : String) (width : Nat) (fill : Char) : String :=
  if text.length < width then .ofList (List.replicate (width - text.length) fill ++ text.toList)
  else .ofList (text.toList.take width)

def publicEventId (runId : UuidBytes) (number : Int) : String := runId.text ++ ":" ++ lpad (toString number) 6 '0'

/-- The row gets its number and its key in its payload, in place of what the caller wrote there. -/
def publicPayload (runId : UuidBytes) (dedupeKey : String) (payload : Map) (number : Int) : Map :=
  ((payload.insert "sequence" (.number (.posInt (.ofNat number.toNat)))).insert "event_id"
    (.string (publicEventId runId number))).insert externalChannelPublicStreamDedupeKey (.string dedupeKey)

def Request.row (runId : UuidBytes) (request : Request) (number : Int) : AssistantRunEvent := match request with
  | .append eventName payload => ⟨eventName, number, payload⟩
  | .appendPublic eventName dedupeKey payload => ⟨eventName, number, publicPayload runId dedupeKey payload number⟩

-- `jsonText` is what the database writes of a value that is no text and not null.
variable (jsonText : Value → String)

/-- `payload->>key` -/
def fieldText (payload : Map) (key : String) : Option String := match payload.get? key with
  | none | some .null => none
  | some (.string text) => some text
  | some other => some (jsonText other)

def carries (eventName dedupeKey : String) (row : AssistantRunEvent) : Bool :=
  row.eventName = eventName ∧ fieldText jsonText row.payload externalChannelPublicStreamDedupeKey = some dedupeKey

/-- `order by sequence_no asc` -/
def inSequence (rows : List AssistantRunEvent) : List AssistantRunEvent :=
  sortBy (compareOn AssistantRunEvent.sequenceNo) rows

/-- The row that makes the request needless; only a public event has a key to look for. -/
def existing (request : Request) (visible : List AssistantRunEvent) : Option AssistantRunEvent := match request with
  | .append _ _ => none
  | .appendPublic eventName dedupeKey _ => (inSequence (visible.filter (carries jsonText eventName dedupeKey))).head?

/-- `coalesce(max(sequence_no), 0) + 1` -/
def nextSequence (visible : List AssistantRunEvent) : Int := highest AssistantRunEvent.sequenceNo visible + 1

/-- The retries after a number that was taken meanwhile. -/
def retryLimit : Nat := 5

inductive Phase where
  | ready (attempt : Nat)
  | running (attempt : Nat) (visible : List AssistantRunEvent)
  | returned (row : AssistantRunEvent)
  | overtaken
  | failed

def Phase.isOver : Phase → Bool
  | .ready _ | .running _ _ => false
  | .returned _ | .overtaken | .failed => true

/-- How often the call has found its number taken. -/
def Phase.collisions : Phase → Nat
  | .ready attempt | .running attempt _ => attempt
  | .overtaken => retryLimit + 1
  | .returned _ | .failed => 0

structure Call where
  request : Request
  phase : Phase

/-- The committed rows of the run, the call that holds the lock of the run, and the calls so far. -/
structure EventLog where
  rows : List AssistantRunEvent
  lock : Option Nat
  calls : Nat → Option Call

inductive Action where
  | call (caller : Nat) (request : Request)
  | read (caller : Nat)
  | find (caller : Nat)
  | lock (caller : Nat)
  | insert (caller : Nat) (answered : Bool)
  | collide (caller : Nat)
  | fail (caller : Nat)

namespace EventLog

variable (log : EventLog)

def setPhase (caller : Nat) (request : Request) (phase : Phase) : EventLog :=
  { log with calls := Function.update log.calls caller (some ⟨request, phase⟩) }

/-- The transaction ends, and with it the lock that the call may hold. -/
def release (caller : Nat) : EventLog := { log with lock := if log.lock = some caller then none else log.lock }

variable (runId : UuidBytes)

/-- What happens to a call in one step. The unique index on the number refuses a row whose number
another one has; a reply can be lost after the row is committed. -/
inductive Step (log : EventLog) : Action → EventLog → Prop where
  | call (unknown : log.calls caller = none) :
      Step log (.call caller request) (log.setPhase caller request (.ready 0))
  | read (called : log.calls caller = some ⟨request, .ready attempt⟩) :
      Step log (.read caller) (log.setPhase caller request (.running attempt log.rows))
  | find (called : log.calls caller = some ⟨request, .running attempt visible⟩)
      (found : existing jsonText request visible = some row) :
      Step log (.find caller) ((log.release caller).setPhase caller request (.returned row))
  | lock (called : log.calls caller = some ⟨request, .running attempt visible⟩) (unlocked : log.lock = none) :
      Step log (.lock caller) { log with lock := some caller }
  | insert (called : log.calls caller = some ⟨request, .running attempt visible⟩) (holds : log.lock = some caller)
      (absent : existing jsonText request visible = none)
      (free : ∀ row ∈ log.rows, row.sequenceNo ≠ nextSequence visible) (fits : nextSequence visible < 2 ^ 31) :
      Step log (.insert caller answered)
        ({ log.release caller with rows := log.rows ++ [request.row runId (nextSequence visible)] }.setPhase caller
          request (if answered then .returned (request.row runId (nextSequence visible)) else .failed))
  | collide (called : log.calls caller = some ⟨request, .running attempt visible⟩) (holds : log.lock = some caller)
      (absent : existing jsonText request visible = none)
      (taken : ∃ row ∈ log.rows, row.sequenceNo = nextSequence visible) :
      Step log (.collide caller)
        ((log.release caller).setPhase caller request
          (if attempt < retryLimit then .ready (attempt + 1) else .overtaken))
  | fail (called : log.calls caller = some ⟨request, phase⟩)
      (open_ : phase = .ready attempt ∨ phase = .running attempt visible) :
      Step log (.fail caller) ((log.release caller).setPhase caller request .failed)

section Steps

@[simp] theorem setPhase_rows (caller : Nat) (request : Request) (phase : Phase) :
    (log.setPhase caller request phase).rows = log.rows := rfl

@[simp] theorem setPhase_calls (caller : Nat) (request : Request) (phase : Phase) :
    (log.setPhase caller request phase).calls = Function.update log.calls caller (some ⟨request, phase⟩) := rfl

@[simp] theorem release_rows (caller : Nat) : (log.release caller).rows = log.rows := rfl

@[simp] theorem release_calls (caller : Nat) : (log.release caller).calls = log.calls := rfl

variable {log jsonText runId} {next : EventLog} {action : Action} {call : Call} {caller : Nat}

/-- Rows are only added, and only behind the others. -/
theorem Step.rows_prefix (taken : Step jsonText runId log action next) : log.rows <+: next.rows := by
  cases taken with
  | insert => exact List.prefix_append ..
  | _ => exact List.prefix_rfl

/-- A call keeps the request that it was made with. -/
theorem Step.request (taken : Step jsonText runId log action next) (held : next.calls caller = some call) :
    action = .call caller call.request ∨
      ∃ before, log.calls caller = some before ∧ before.request = call.request := by
  cases taken with
  | call unknown =>
    rcases moved_cases rfl held with ⟨rfl, rfl⟩ | ⟨_, unchanged⟩
    · exact .inl rfl
    · exact .inr ⟨_, unchanged, rfl⟩
  | lock called unlocked => exact .inr ⟨_, held, rfl⟩
  | read called | find called found | insert called holds absent free fits | collide called holds absent taken
  | fail called unfinished =>
    rcases moved_cases rfl held with ⟨rfl, rfl⟩ | ⟨_, unchanged⟩
    · exact .inr ⟨_, called, rfl⟩
    · exact .inr ⟨_, unchanged, rfl⟩

/-- A row that is added is the row of a call. -/
theorem Step.rows_cases (taken : Step jsonText runId log action next) :
    next.rows = log.rows ∨ ∃ caller call number, log.calls caller = some call ∧
      next.rows = log.rows ++ [call.request.row runId number] := by
  cases taken with
  | insert called holds absent free fits => exact .inr ⟨_, _, _, called, rfl⟩
  | _ => exact .inl rfl

end Steps

end EventLog

section Deduplication

variable {jsonText}

/-- The rows that make the request needless. -/
def Request.answeredBy (jsonText : Value → String) (request : Request) (row : AssistantRunEvent) : Bool :=
  match request with
  | .append _ _ => false
  | .appendPublic eventName dedupeKey _ => carries jsonText eventName dedupeKey row

theorem inSequence_eq {rows : List AssistantRunEvent}
    (increasing : rows.Pairwise fun first second => first.sequenceNo < second.sequenceNo) :
    inSequence rows = rows := by
  refine sortBy_eq_self (increasing.imp fun before => ?_)
  rw [compareOn, compare_lt_iff_lt.mpr before]
  rfl

theorem existing_eq {visible : List AssistantRunEvent} (numbered : Numbered AssistantRunEvent.sequenceNo visible)
    (request : Request) : existing jsonText request visible = visible.find? (request.answeredBy jsonText) := by
  cases request with
  | append eventName payload =>
    refine (List.find?_eq_none.mpr fun row _ => ?_).symm
    simp [Request.answeredBy]
  | appendPublic eventName dedupeKey payload =>
    rw [existing, inSequence_eq (numbered.increasing.filter _), List.head?_filter]
    rfl

theorem publicPayload_get? (runId : UuidBytes) (dedupeKey : String) (payload : Map) (number : Int) :
    (publicPayload runId dedupeKey payload number).get? externalChannelPublicStreamDedupeKey =
      some (.string dedupeKey) :=
  SortedMap.get?_insert_self ..

/-- A public event answers every later request with its name and its key. -/
theorem answeredBy_row {runId : UuidBytes} {eventName dedupeKey : String} {payload other : Map} {number : Int} :
    (Request.appendPublic eventName dedupeKey other).answeredBy jsonText
      ((Request.appendPublic eventName dedupeKey payload).row runId number) := by
  simp [Request.answeredBy, Request.row, carries, fieldText, publicPayload_get?]

end Deduplication

namespace EventLog

/-- What is known of a call once these rows are committed. -/
def Sound (rows : List AssistantRunEvent) (call : Call) : Prop := match call.phase with
  | .running _ visible => visible <+: rows
  | .returned row => row ∈ rows ∧ (rows.find? (call.request.answeredBy jsonText) = some row ∨
      ∃ eventName payload, call.request = .append eventName payload)
  | _ => True

/-- The rows are numbered in the order they were committed, and the calls are sound. -/
structure Consistent (log : EventLog) : Prop where
  numbered : Numbered AssistantRunEvent.sequenceNo log.rows
  calls : ∀ caller call, log.calls caller = some call → Sound jsonText log.rows call

section Invariants

variable {log next : EventLog} {action : Action} {jsonText} {runId : UuidBytes} {request : Request} {call : Call}
  {rows further : List AssistantRunEvent} {caller attempt : Nat} {visible : List AssistantRunEvent}

theorem Sound.later (sound : Sound jsonText rows call) (longer : rows <+: further) : Sound jsonText further call := by
  obtain ⟨request, phase⟩ := call
  cases phase with
  | running attempt visible => exact List.IsPrefix.trans sound longer
  | returned row =>
    obtain ⟨inside, first⟩ := sound
    refine ⟨longer.subset inside, first.imp_left fun found => ?_⟩
    obtain ⟨rest, rfl⟩ := longer
    rw [List.find?_append, found]
    rfl
  | _ => trivial

theorem Consistent.move (consistent : Consistent jsonText log) (longer : log.rows <+: next.rows)
    (numbered : Numbered AssistantRunEvent.sequenceNo next.rows)
    (moved : next.calls = Function.update log.calls caller (some call)) (sound : Sound jsonText next.rows call) :
    Consistent jsonText next where
  numbered := numbered
  calls other found held := by
    rcases moved_cases moved held with ⟨_, rfl⟩ | ⟨_, unchanged⟩
    · exact sound
    · exact (consistent.calls other found unchanged).later longer

theorem Consistent.visible_prefix (consistent : Consistent jsonText log)
    (called : log.calls caller = some ⟨request, .running attempt visible⟩) : visible <+: log.rows :=
  consistent.calls caller _ called

/-- A call that may write has seen all there is. -/
theorem Consistent.visible_eq (consistent : Consistent jsonText log)
    (called : log.calls caller = some ⟨request, .running attempt visible⟩)
    (free : ∀ row ∈ log.rows, row.sequenceNo ≠ nextSequence visible) : visible = log.rows :=
  (consistent.numbered.free_iff (consistent.visible_prefix called)).mp free

/-- A call that finds its number taken was overtaken after it read. -/
theorem Consistent.overtaken (consistent : Consistent jsonText log)
    (called : log.calls caller = some ⟨request, .running attempt visible⟩)
    (taken : ∃ row ∈ log.rows, row.sequenceNo = nextSequence visible) : visible.length < log.rows.length := by
  have read := consistent.visible_prefix called
  refine lt_of_le_of_ne read.length_le fun same => ?_
  obtain ⟨row, inside, equal⟩ := taken
  exact (consistent.numbered.free_iff read).mpr (read.eq_of_length same) row inside equal

theorem nextSequence_eq (numbered : Numbered AssistantRunEvent.sequenceNo rows) :
    nextSequence rows = rows.length + 1 := by
  rw [nextSequence, numbered.highest]

theorem row_sequenceNo (runId : UuidBytes) (request : Request) (number : Int) :
    (request.row runId number).sequenceNo = number := by
  cases request <;> rfl

/-- The row that a request writes is the first one that answers it. -/
theorem sound_written (absent : rows.find? (request.answeredBy jsonText) = none) (number : Int) :
    Sound jsonText (rows ++ [request.row runId number]) ⟨request, .returned (request.row runId number)⟩ := by
  refine ⟨by simp, ?_⟩
  cases request with
  | append eventName payload => exact .inr ⟨eventName, payload, rfl⟩
  | appendPublic eventName dedupeKey payload =>
    left
    rw [List.find?_append, absent, Option.none_or]
    exact List.find?_cons_of_pos answeredBy_row

theorem Consistent.step (consistent : Consistent jsonText log) (taken : Step jsonText runId log action next) :
    Consistent jsonText next := by
  cases taken with
  | call unknown => exact consistent.move List.prefix_rfl consistent.numbered rfl trivial
  | read called => exact consistent.move List.prefix_rfl consistent.numbered rfl List.prefix_rfl
  | @find caller request attempt visible row called found =>
    have read := consistent.visible_prefix called
    rw [existing_eq (consistent.numbered.of_prefix read)] at found
    have seen : Sound jsonText visible ⟨request, .returned row⟩ := ⟨List.mem_of_find?_eq_some found, .inl found⟩
    exact consistent.move List.prefix_rfl consistent.numbered rfl (seen.later read)
  | lock called unlocked => exact ⟨consistent.numbered, consistent.calls⟩
  | @insert caller request attempt visible answered called holds absent free fits =>
    have whole := consistent.visible_eq called free
    subst whole
    rw [existing_eq consistent.numbered] at absent
    refine consistent.move (List.prefix_append ..) ?_ rfl ?_
    · exact consistent.numbered.concat ((row_sequenceNo ..).trans (nextSequence_eq consistent.numbered))
    · cases answered with
      | true => exact sound_written absent _
      | false => trivial
  | collide called holds absent taken =>
    refine consistent.move List.prefix_rfl consistent.numbered rfl ?_
    split <;> trivial
  | fail called unfinished => exact consistent.move List.prefix_rfl consistent.numbered rfl trivial

end Invariants

section Runs

/-- No row, and nobody who asked for one. -/
def start : EventLog := ⟨[], none, fun _ => none⟩

variable {log later : EventLog} {actions more : List Action} {jsonText} {runId : UuidBytes}

theorem consistent_start : Consistent jsonText start := ⟨numbered_nil, fun _ _ held => nomatch held⟩

theorem Consistent.onward (consistent : Consistent jsonText log) (run : Run (Step jsonText runId) log more later) :
    Consistent jsonText later ∧ log.rows <+: later.rows := by
  induction run with
  | nil => exact ⟨consistent, List.prefix_rfl⟩
  | snoc earlier taken ih => exact ⟨ih.1.step taken, ih.2.trans taken.rows_prefix⟩

theorem consistent_run (run : Run (Step jsonText runId) start actions log) : Consistent jsonText log :=
  (consistent_start.onward run).1

end Runs

end EventLog

end DataMax.AssistantRun
