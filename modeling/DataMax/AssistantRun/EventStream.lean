import DataMax.AssistantRun.EventLog

/-! A client of the public stream of a run that reconnects at any time, while others append events:
what it is sent from the last event that it has. -/

namespace DataMax.AssistantRun

open Domain ExternalChannel Json Library

/-- `list_events` -/
def EventLog.listEvents (log : EventLog) : List AssistantRunEvent := inSequence log.rows

/-- The id that the client reads in what it is sent of an event. -/
def sentEventId (support : CardSupport) (row : AssistantRunEvent) : Option String :=
  (externalChannelPublicStreamPayload support row.payload).get? "event_id" >>= Value.asStr

/-- A client that has nothing yet asks for nothing in particular, and later for what follows its last event. -/
def Asks (support : CardSupport) (received : List AssistantRunEvent) (request : ResumeRequest) : Prop :=
  match received.getLast? with
  | none => parseExternalChannelStreamResumeSequence request = none
  | some row => request.lastEventId = sentEventId support row

/-- The events that a replay writes. -/
def replayed (events : List AssistantRunEvent) (since : Option Int) : List AssistantRunEvent :=
  (events.filter fun event => decide (since.getD 0 < event.sequenceNo)).filter AssistantRunEvent.isPublic

/-- A plain event does not have the schema of the stream; the callers of `append_event` write other payloads. -/
def Action.KeepsSchema : Action → Prop
  | .call _ (.append _ payload) => (payload.get? "schema" >>= Value.asStr) ≠ some externalChannelSseSchemaV1
  | _ => True

/-- The log, with the events that the client was sent and the text they came in. -/
structure Stream where
  log : EventLog
  received : List AssistantRunEvent
  text : String

inductive StreamAction where
  | append (action : Action)
  | resume (request : ResumeRequest)

variable (jsonText : Value → String) (runId : UuidBytes) (floatText : UInt64 → String) (support : CardSupport)

namespace Stream

def start : Stream := ⟨.start, [], ""⟩

inductive Step (stream : Stream) : StreamAction → Stream → Prop where
  | append (keeps : action.KeepsSchema) (taken : EventLog.Step jsonText runId stream.log action next) :
      Step stream (.append action) { stream with log := next }
  | resume (asks : Asks support stream.received request) :
      Step stream (.resume request)
        { stream with
          received := stream.received ++
            replayed stream.log.listEvents (parseExternalChannelStreamResumeSequence request)
          text := stream.text ++ externalChannelPublicStreamReplayBody floatText support stream.log.listEvents
            (parseExternalChannelStreamResumeSequence request) }

end Stream

section Numbers

variable {digits : List Char} {number : Nat}

theorem foldl_digits (each : ∀ digit ∈ digits, digit.isDigit) (count : Nat) :
    digits.foldl (fun (count : Int) digit => count * 10 + (digit.toNat - '0'.toNat)) count =
      (Nat.ofDigitChars 10 digits count : Int) := by
  induction digits generalizing count with
  | nil => rfl
  | cons digit rest ih =>
    have zero : '0'.toNat ≤ digit.toNat := by
      have range := each digit List.mem_cons_self
      simp only [Char.isDigit, Bool.and_eq_true, decide_eq_true_eq] at range
      exact range.1
    rw [List.foldl_cons, Nat.ofDigitChars_cons, ← ih fun other inside => each other (List.mem_cons_of_mem _ inside)]
    congr 1
    omega

theorem parseI64_digits (filled : digits ≠ []) (each : ∀ digit ∈ digits, digit.isDigit)
    (value : Nat.ofDigitChars 10 digits 0 = number) (fits : number < 2 ^ 63) :
    parseI64 (.ofList digits) = some (number : Int) := by
  have counted := foldl_digits each 0
  rw [value] at counted
  have all : digits.all Char.isDigit = true := List.all_eq_true.mpr each
  rw [parseI64, String.toList_ofList]
  split
  rename_i negative chars shape
  have plain : (negative, chars) = (false, digits) := by
    rw [← shape]
    split
    · exact absurd (each '-' List.mem_cons_self) (by decide)
    · exact absurd (each '+' List.mem_cons_self) (by decide)
    · rfl
  cases plain
  have counted : digits.foldl (fun (count : Int) digit => count * 10 + (digit.toNat - '0'.toNat)) 0 = number :=
    counted
  simp only [counted, Bool.false_eq_true, if_false]
  exact if_pos ⟨filled, all, by omega, by omega⟩

theorem lpad_digits (few : number < 10 ^ 6) : ∃ digits, lpad (toString (number : Int)) 6 '0' = .ofList digits ∧
    digits ≠ [] ∧ (∀ digit ∈ digits, digit.isDigit) ∧ Nat.ofDigitChars 10 digits 0 = number := by
  have shown : toString (number : Int) = .ofList (Nat.toDigits 10 number) := rfl
  have fits : (Nat.toDigits 10 number).length ≤ 6 := (Nat.length_toDigits_le_iff (by decide) (by decide)).mpr few
  have digit {char : Char} (inside : char ∈ Nat.toDigits 10 number) : char.isDigit :=
    Nat.isDigit_of_mem_toDigits (by decide) (by decide) inside
  rw [lpad, shown, String.length_ofList, String.toList_ofList]
  split
  · refine ⟨_, rfl, List.append_ne_nil_of_right_ne_nil _ Nat.toDigits_ne_nil, fun char inside => ?_, ?_⟩
    · rcases List.mem_append.mp inside with zero | inside
      · rw [(List.mem_replicate.mp zero).2]
        decide
      · exact digit inside
    · rw [Nat.ofDigitChars_append, Nat.ofDigitChars_replicate_zero, Nat.mul_zero, Nat.ofDigitChars_ten_toDigits]
  · rw [List.take_of_length_le fits]
    exact ⟨_, rfl, Nat.toDigits_ne_nil, fun char inside => digit inside, Nat.ofDigitChars_ten_toDigits⟩

/-- The number of an event is read back from its id. -/
theorem parse_publicEventId (few : number < 10 ^ 6) : headerText (publicEventId runId number) >>=
    parseExternalChannelStreamSequenceText = some (number : Int) := by
  obtain ⟨digits, padded, filled, each, value⟩ := lpad_digits few
  have shape : (publicEventId runId number).toList = runId.text.toList ++ ':' :: digits := by
    rw [publicEventId, padded]
    simp
  have visible : ∀ char ∈ (publicEventId runId number).toList, isWhitespace char = false ∧ 32 ≤ char.toNat ∧
      char.toNat < 127 := by
    intro char inside
    rw [shape, List.mem_append, List.mem_cons] at inside
    rcases inside with run | rfl | digit
    · exact runText_visible (some runId) char run
    · decide
    · exact digit_visible (each char digit)
  have header : headerText (publicEventId runId number) = some (publicEventId runId number) := by
    apply if_pos
    rw [List.all_eq_true]
    intro char inside
    simp [visible char inside]
  have colon : ':' ∉ digits := fun inside => absurd (each ':' inside) (by decide)
  have last : (splitAt ':' (publicEventId runId number)).getLast?.getD "" = .ofList digits := by
    rw [splitAt, shape, List.splitOn_append_cons_self, List.splitOn_eq_singleton colon]
    simp
  have plain : trim (.ofList digits) = .ofList digits := by
    refine trim_eq_self fun char inside => (digit_visible (each char ?_)).1
    rwa [String.toList_ofList] at inside
  have small : (number : Int) < 2 ^ 31 := by omega
  rw [header, Option.bind_eq_bind, Option.bind_some, parseExternalChannelStreamSequenceText,
    trim_eq_self fun char inside => (visible char inside).1, last, plain,
    parseI64_digits filled each value (by omega), Option.bind_eq_bind, Option.bind_some, resumeNumber,
    max_eq_left (Int.natCast_nonneg number), if_pos small]

end Numbers

/-- The rows that the stream shows are those of public calls. -/
def Published (runId : UuidBytes) (row : AssistantRunEvent) : Prop :=
  ∃ eventName dedupeKey payload, row = (Request.appendPublic eventName dedupeKey payload).row runId row.sequenceNo

/-- What is known of a stream: the client has the public ones of the first rows, each once. -/
structure Delivered (stream : Stream) : Prop where
  consistent : stream.log.Consistent jsonText
  keeps : ∀ caller call, stream.log.calls caller = some call → (Action.call caller call.request).KeepsSchema
  published : ∀ row ∈ stream.log.rows, row.isPublic → Published runId row
  received : ∃ seen, seen <+: stream.log.rows ∧ stream.received = seen.filter AssistantRunEvent.isPublic
  text : stream.text = String.join (stream.received.map (encodeEvent floatText support))

section Delivery

variable {jsonText runId floatText support} {log : EventLog} {row : AssistantRunEvent}
  {rows seen : List AssistantRunEvent}
  {request : ResumeRequest} {stream next : Stream} {action : StreamAction} {caller : Nat} {call : Call}

/-- A replay writes the events that it sends. -/
theorem replayBody_replayed (events : List AssistantRunEvent) (since : Option Int) :
    externalChannelPublicStreamReplayBody floatText support events since =
      String.join ((replayed events since).map (encodeEvent floatText support)) := rfl

/-- What is shown of a payload leaves its id. -/
theorem shown_eventId (payload : Map) :
    (externalChannelPublicStreamPayload support payload).get? "event_id" = payload.get? "event_id" := by
  rw [externalChannelPublicStreamPayload, compactExternalChannelPublicStreamPayload]
  split
  · rw [compactObject, get?_eraseAll, if_neg (by decide), SortedMap.get?_insert_other _ _ (by decide), linkedObject,
      get?_setOrRemove_other (by decide), get?_setOrRemove_other (by decide), get?_setOrRemove_other (by decide),
      get?_insertSome_other (by decide), get?_insertSome_other (by decide),
      SortedMap.get?_insert_other _ _ (by decide), SortedMap.get?_erase, if_neg (by decide)]
  · rw [SortedMap.get?_erase, if_neg (by decide)]

theorem Published.sentEventId (published : Published runId row) :
    sentEventId support row = some (publicEventId runId row.sequenceNo) := by
  obtain ⟨eventName, dedupeKey, payload, same⟩ := published
  rw [AssistantRun.sentEventId, shown_eventId, same]
  simp only [Request.row]
  rw [publicPayload, SortedMap.get?_insert_other _ _ (by decide), SortedMap.get?_insert_self]
  rfl

theorem resumeSequence_row (published : Published runId row) {number : Nat} (numbered : row.sequenceNo = number)
    (few : number < 10 ^ 6) (asked : request.lastEventId = sentEventId support row) :
    parseExternalChannelStreamResumeSequence request = some (number : Int) := by
  have parsed := parse_publicEventId runId few
  rw [parseExternalChannelStreamResumeSequence, asked, published.sentEventId, numbered]
  simp only [Option.bind_eq_bind, Option.bind_some] at parsed ⊢
  rw [parsed]
  rfl

theorem listEvents_eq (numbered : Numbered AssistantRunEvent.sequenceNo log.rows) : log.listEvents = log.rows :=
  inSequence_eq numbered.increasing

theorem replayed_from (numbered : Numbered AssistantRunEvent.sequenceNo rows) (seen : Nat) :
    replayed rows (some seen) = (rows.drop seen).filter AssistantRunEvent.isPublic := by
  rw [replayed, Option.getD_some, numbered.filter_later]

theorem replayed_all (numbered : Numbered AssistantRunEvent.sequenceNo rows) :
    replayed rows none = rows.filter AssistantRunEvent.isPublic :=
  replayed_from numbered 0

/-- The last event that the client has is the last public one that it could see. -/
theorem received_before (numbered : Numbered AssistantRunEvent.sequenceNo seen) {number : Nat}
    (last : (seen.filter AssistantRunEvent.isPublic).getLast? = some row) (placed : row.sequenceNo = number) :
    (seen.take number).filter AssistantRunEvent.isPublic = seen.filter AssistantRunEvent.isPublic := by
  have none_after : (seen.drop number).filter AssistantRunEvent.isPublic = [] := by
    by_contra filled
    obtain ⟨final, ends⟩ := Option.ne_none_iff_exists'.mp (mt List.getLast?_eq_none_iff.mp filled)
    have split := congrArg List.getLast? (congrArg (List.filter AssistantRunEvent.isPublic)
      (List.take_append_drop number seen))
    rw [List.filter_append, List.getLast?_append, ends, last] at split
    cases split
    have inside := (List.mem_filter.mp (List.mem_of_getLast? ends)).1
    rw [← numbered.filter_later, List.mem_filter, placed] at inside
    simp at inside
  conv_rhs => rw [← List.take_append_drop number seen, List.filter_append, none_after, List.append_nil]

/-- What the client has and what it is sent next are all the public events there are. -/
theorem received_append_replayed (numbered : Numbered AssistantRunEvent.sequenceNo rows) (earlier : seen <+: rows)
    (published : ∀ row ∈ rows, row.isPublic → Published runId row) (few : rows.length < 10 ^ 6)
    (asks : Asks support (seen.filter AssistantRunEvent.isPublic) request) :
    seen.filter AssistantRunEvent.isPublic ++ replayed rows (parseExternalChannelStreamResumeSequence request) =
      rows.filter AssistantRunEvent.isPublic := by
  rw [Asks] at asks
  split at asks
  · rename_i empty
    rw [List.getLast?_eq_none_iff.mp empty, asks, replayed_all numbered, List.nil_append]
  · rename_i row last
    obtain ⟨inside, shown⟩ := List.mem_filter.mp (List.mem_of_getLast? last)
    obtain ⟨place, bounded, placed⟩ := List.mem_iff_getElem.mp inside
    have number : row.sequenceNo = (place + 1 : Nat) := by
      rw [← placed, (numbered.of_prefix earlier) place bounded]
      rfl
    have shorter := earlier.length_le
    have parsed := resumeSequence_row (published row (earlier.subset inside) shown) number (by omega) asks
    have before := received_before (numbered.of_prefix earlier) last number
    have visible : rows.take (place + 1) = seen.take (place + 1) := by
      obtain ⟨rest, split⟩ := earlier
      rw [← split, List.take_append_of_le_length bounded]
    rw [parsed, replayed_from numbered, ← before, ← visible, ← List.filter_append, List.take_append_drop]

theorem delivered_start : Delivered jsonText runId floatText support .start where
  consistent := EventLog.consistent_start
  keeps := fun _ _ held => nomatch held
  published := fun _ inside => nomatch inside
  received := ⟨[], List.prefix_rfl, rfl⟩
  text := rfl

theorem keeps_row (keeps : (Action.call caller call.request).KeepsSchema) (number : Int)
    (shown : (call.request.row runId number).isPublic) : Published runId (call.request.row runId number) := by
  obtain ⟨request, phase⟩ := call
  cases request with
  | append eventName payload => exact absurd (of_decide_eq_true shown) keeps
  | appendPublic eventName dedupeKey payload => exact ⟨eventName, dedupeKey, payload, rfl⟩

theorem Delivered.step (delivered : Delivered jsonText runId floatText support stream)
    (few : stream.log.rows.length < 10 ^ 6)
    (taken : Stream.Step jsonText runId floatText support stream action next) :
    Delivered jsonText runId floatText support next := by
  obtain ⟨consistent, keeps, published, ⟨seen, earlier, received⟩, text⟩ := delivered
  cases taken with
  | append kept taken =>
    refine ⟨consistent.step taken, fun caller call held => ?_, fun row inside shown => ?_,
      ⟨seen, earlier.trans taken.rows_prefix, received⟩, text⟩
    · rcases taken.request held with rfl | ⟨before, called, same⟩
      · exact kept
      · exact same ▸ keeps caller before called
    · rcases taken.rows_cases with same | ⟨caller, call, number, called, longer⟩
      · exact published row (same ▸ inside) shown
      · rw [longer, List.mem_append, List.mem_singleton] at inside
        rcases inside with before | rfl
        · exact published row before shown
        · exact keeps_row (keeps caller call called) number shown
  | @resume request asks =>
    have listed := listEvents_eq consistent.numbered
    refine ⟨consistent, keeps, published, ⟨stream.log.rows, List.prefix_rfl, ?_⟩, ?_⟩
    · rw [received] at asks ⊢
      rw [listed]
      exact received_append_replayed consistent.numbered earlier published few asks
    · rw [text, replayBody_replayed, List.map_append, String.join_append]

theorem Stream.Step.longer (taken : Stream.Step jsonText runId floatText support stream action next) :
    stream.log.rows.length ≤ next.log.rows.length := by
  cases taken with
  | append kept taken => exact taken.rows_prefix.length_le
  | resume asks => exact le_rfl

theorem delivered_run {actions : List StreamAction}
    (run : Run (Stream.Step jsonText runId floatText support) .start actions stream)
    (few : stream.log.rows.length < 10 ^ 6) : Delivered jsonText runId floatText support stream := by
  induction run with
  | nil => exact delivered_start
  | snoc earlier taken ih =>
    have fewer := Nat.lt_of_le_of_lt taken.longer few
    exact (ih fewer).step fewer taken

/-- One public event, sent to a client that has nothing. -/
def publicRequest : Request :=
  .appendPublic "completed" "completed:1" (.ofList [("schema", .string externalChannelSseSchemaV1)])

def firstRequest : ResumeRequest := ⟨none, fun _ => none, .null⟩

end Delivery

end DataMax.AssistantRun
