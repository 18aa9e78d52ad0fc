import DataMax.ReactAgent.Decision

/-! When the decision that is read is well formed. -/

namespace DataMax.ReactAgent

open Domain Json Library

/-- No object in it, at any depth, has an unsafe key. -/
def SafeKeys (value : Value) : Prop := Throughout (fun key => key ∉ unsafeKeys) (fun _ _ => True) none value

/-- Everything but a final answer and a report choice is done with a tool. -/
def isTool (action : AssistantRunReActActionType) : Prop := action ≠ .finalAnswer ∧ action ≠ .reportChoice

/-- The status and the action say the same. -/
structure Agrees (status : AssistantRunReActStatus) (action : AssistantRunReActActionType) : Prop where
  act : status = .act ↔ isTool action
  choice : status = .reportChoice → action = .reportChoice
  answer : status = .finalAnswer ∨ status = .askClarifyingQuestion ∨ status = .cannotAnswer → action = .finalAnswer

variable {floatText : UInt64 → String} {fromStr : String → Except String Value}

structure WellFormed (floatText : UInt64 → String) (decision : AssistantRunReActDecision) : Prop where
  object : decision.arguments.isObject
  size : decision.arguments.size floatText ≤ assistantRunReactArgumentMaxBytes
  argumentKeys : SafeKeys decision.arguments
  stateKeys : SafeKeys decision.conversationState
  reason : decision.reasonSummary ≠ "" ∧ decision.reasonSummary.length ≤ assistantRunReactReasonMaxChars
  agrees : Agrees decision.status decision.actionType

section Keys

variable {value item : Value} {map : Map} {key : String}

mutual

theorem containsUnsafeJsonKey_iff (value : Value) : containsUnsafeJsonKey value = false ↔ SafeKeys value := by
  cases value with
  | null => exact iff_of_true rfl .null
  | bool value => exact iff_of_true rfl .bool
  | number value => exact iff_of_true rfl .number
  | string value => exact iff_of_true rfl (.string trivial)
  | array items =>
    rw [containsUnsafeJsonKey, itemsUnsafe_iff items]
    constructor
    · exact .array
    · intro safe
      cases safe with
      | array fine => exact fine
  | object entries =>
    rw [containsUnsafeJsonKey, entriesUnsafe_iff entries]
    constructor
    · exact fun each => .object (fun entry inside => (each entry inside).1) fun entry inside => (each entry inside).2.anywhere
    · intro safe entry inside
      exact ⟨(safe.entry inside).1, (safe.entry inside).2.anywhere⟩

theorem itemsUnsafe_iff (items : List Value) : itemsUnsafe items = false ↔ ∀ item ∈ items, SafeKeys item := by
  cases items with
  | nil => simp [itemsUnsafe]
  | cons item rest =>
    rw [itemsUnsafe, Bool.or_eq_false_iff, containsUnsafeJsonKey_iff item, itemsUnsafe_iff rest, List.forall_mem_cons]

theorem entriesUnsafe_iff (entries : List (String × Value)) : entriesUnsafe entries = false ↔
    ∀ entry ∈ entries, entry.1 ∉ unsafeKeys ∧ SafeKeys entry.2 := by
  cases entries with
  | nil => simp [entriesUnsafe]
  | cons entry rest =>
    obtain ⟨key, item⟩ := entry
    rw [entriesUnsafe, Bool.or_eq_false_iff, Bool.or_eq_false_iff, containsUnsafeJsonKey_iff item, entriesUnsafe_iff rest,
      List.forall_mem_cons, List.contains_eq_mem, decide_eq_false_iff_not]

end

theorem SafeKeys.get (safe : SafeKeys value) (found : value.get key = some item) : SafeKeys item := by
  cases value with
  | object entries => exact (safe.entry (SortedMap.mem_of_findEntry found)).2.anywhere
  | _ => cases found

theorem SafeKeys.insert (safe : SafeKeys (.ofMap map)) (fine : key ∉ unsafeKeys) (text : String) :
    SafeKeys (.ofMap (map.insert key (.string text))) := by
  rw [SafeKeys, throughout_ofMap] at safe ⊢
  intro name member found
  rw [SortedMap.get?_insert] at found
  split at found
  · rename_i same
    cases found
    exact ⟨same ▸ fine, .string trivial⟩
  · exact safe name member found

theorem safeKeys_empty : SafeKeys (json []) := throughout_json (by simp)

end Keys

section Parts

variable {arguments : Value} {object : Map} {answer : Option String} {choice : String}

theorem normalizeReason_bounds (rawReason : String) {fallback : String} (filled : fallback ≠ "") :
    normalizeReason rawReason fallback ≠ "" ∧ (normalizeReason rawReason fallback).length ≤ assistantRunReactReasonMaxChars := by
  have taken (reason : String) (nonempty : reason ≠ "") : takeText assistantRunReactReasonMaxChars reason ≠ "" ∧
      (takeText assistantRunReactReasonMaxChars reason).length ≤ assistantRunReactReasonMaxChars := by
    constructor
    · intro nothing
      have chars := congrArg String.toList nothing
      rw [takeText, String.toList_ofList, String.toList_empty, List.take_eq_nil_iff] at chars
      rcases chars with none | none
      · exact absurd none (by decide)
      · exact nonempty (String.toList_eq_nil_iff.mp none)
    · rw [takeText, String.length_ofList]
      exact List.length_take_le _ _
  rw [normalizeReason]
  split
  · exact taken fallback filled
  · exact taken _ ‹_›

theorem asStr_ne_empty (action : AssistantRunReActActionType) : action.asStr ≠ "" := by
  cases action <;> decide

/-- An object stays one, with safe keys, and its size is known. -/
theorem updateObject_cases (value : Value) (change : Map → Map) :
    updateObject value change = value ∨ ∃ map, value = .ofMap map ∧ updateObject value change = .ofMap (change map) := by
  rw [updateObject]
  cases known : value.asMap with
  | none => exact .inl rfl
  | some map => exact .inr ⟨map, asMap_eq_some.mp known, rfl⟩

theorem withContent_cases (arguments : Value) (answer : Option String) : withContent arguments answer = arguments ∨
    ∃ map text, arguments = .ofMap map ∧ withContent arguments answer = .ofMap (map.insert "content" (.string text)) := by
  cases answer with
  | none => exact .inl rfl
  | some text =>
    by_cases absent : ((arguments.get "content").bind Value.asStr).isNone
    · rw [withContent, if_pos absent]
      exact (updateObject_cases _ _).imp_right fun ⟨map, same, changed⟩ => ⟨map, text, same, changed⟩
    · exact .inl (if_neg absent)

theorem insertChoice_cases (arguments : Value) (choice : String) : insertChoice arguments choice = arguments ∨
    ∃ map, arguments = .ofMap map ∧ map.get? "choice" = none ∧
      insertChoice arguments choice = .ofMap (map.insert "choice" (.string choice)) := by
  rw [insertChoice]
  rcases updateObject_cases arguments fun map => if (map.get? "choice").isSome then map else
    map.insert "choice" (.string choice) with same | ⟨map, rfl, changed⟩
  · exact .inl same
  · rw [changed]
    by_cases present : (map.get? "choice").isSome
    · exact .inl (congrArg Value.ofMap (if_pos present))
    · exact .inr ⟨map, rfl, by simpa using present, congrArg Value.ofMap (if_neg present)⟩

/-- Arguments with the answer in them, before their size is checked. -/
def givenArguments (rawArguments : Option Value) (answer : Option String) : Value :=
  withContent (rawArguments.getD (json [])) answer

theorem normalizeArguments_eq_ok {rawArguments : Option Value} :
    normalizeArguments floatText rawArguments answer = .ok arguments ↔ (rawArguments.getD (json [])).isObject ∧
      arguments = givenArguments rawArguments answer ∧ arguments.size floatText ≤ assistantRunReactArgumentMaxBytes := by
  rw [normalizeArguments, unit_bind_eq_ok, unit_bind_eq_ok, ensure_eq_ok, ensure_eq_ok, decide_eq_true_eq, ← givenArguments]
  refine and_congr_right fun _ => ?_
  constructor
  · rintro ⟨fits, ended⟩
    cases ended
    exact ⟨rfl, fits⟩
  · rintro ⟨rfl, fits⟩
    exact ⟨fits, rfl⟩

theorem givenArguments_object {rawArguments : Option Value} (answer : Option String)
    (shape : (rawArguments.getD (json [])).isObject) :
    (givenArguments rawArguments answer).isObject := by
  rw [givenArguments]
  rcases withContent_cases (rawArguments.getD (json [])) answer with same | ⟨map, text, -, changed⟩
  · rw [same, shape]
  · rw [changed]
    rfl

theorem givenArguments_safe {rawArguments : Option Value} (answer : Option String)
    (safe : ∀ value, rawArguments = some value → SafeKeys value) :
    SafeKeys (givenArguments rawArguments answer) := by
  have given : SafeKeys (rawArguments.getD (json [])) := by
    cases rawArguments with
    | none => exact safeKeys_empty
    | some value => exact safe value rfl
  rw [givenArguments]
  rcases withContent_cases (rawArguments.getD (json [])) answer with same | ⟨map, text, shape, changed⟩
  · rwa [same]
  · rw [changed]
    rw [shape] at given
    exact given.insert (by decide) text

theorem insertChoice_object (shape : arguments.isObject) (choice : String) : (insertChoice arguments choice).isObject := by
  rcases insertChoice_cases arguments choice with same | ⟨map, -, -, changed⟩
  · rw [same, shape]
  · rw [changed]
    rfl

theorem insertChoice_safe (safe : SafeKeys arguments) (choice : String) : SafeKeys (insertChoice arguments choice) := by
  rcases insertChoice_cases arguments choice with same | ⟨map, rfl, -, changed⟩
  · rwa [same]
  · rw [changed]
    exact safe.insert (by decide) choice

/-- The bytes that a choice adds to arguments that have none. -/
def choiceGrowth (floatText : UInt64 → String) (arguments : Value) (choice : String) : Nat := match arguments.asMap with
  | none => 0
  | some map =>
    if (map.get? "choice").isSome then 0
    else memberSize floatText ("choice", .string choice) + if map.entries = [] then 0 else 1

theorem size_insertChoice (arguments : Value) (choice : String) : (insertChoice arguments choice).size floatText =
    arguments.size floatText + choiceGrowth floatText arguments choice := by
  rw [insertChoice, updateObject, choiceGrowth]
  cases known : arguments.asMap with
  | none => rfl
  | some map =>
    rw [asMap_eq_some.mp known]
    by_cases present : (map.get? "choice").isSome
    · simp only [if_pos present, Nat.add_zero]
    · simp only [if_neg present]
      rw [size_insert (by simpa using present), Nat.add_assoc]

end Parts

section Decisions

variable {object : Map} {payload : Value} {decision : AssistantRunReActDecision} {status : AssistantRunReActStatus}
  {action : AssistantRunReActActionType} {outputText : String}

theorem statusForAction_agrees (action : AssistantRunReActActionType) : Agrees (statusForAction action) action := by
  have act : statusForAction action = .act ↔ isTool action := by cases action <;> simp [statusForAction, isTool]
  refine ⟨act, ?_, ?_⟩ <;> cases action <;> simp [statusForAction]

/-- An action that is not declared is implied by the status. -/
theorem structuredActionType_agrees (chosen : structuredActionType object status = .ok action) :
    Agrees status action ↔ ∀ declared, declaredType object = some declared → Agrees status declared := by
  cases known : declaredType object with
  | some declared =>
    have same : action = declared := by
      cases status <;> · rw [structuredActionType, known] at chosen; exact (Except.ok.inj chosen).symm
    simp [same]
  | none =>
    refine iff_of_true ?_ (by simp)
    cases status with
    | act => rw [structuredActionType, known] at chosen; cases chosen
    | reportChoice =>
      rw [structuredActionType, known] at chosen
      cases chosen
      exact ⟨by simp [isTool], by simp, by simp⟩
    | _ =>
      rw [structuredActionType, known] at chosen
      cases chosen
      exact ⟨by simp [isTool], by simp, by simp⟩

theorem conversationStateOf_safe (safe : SafeKeys (.ofMap object)) : SafeKeys (conversationStateOf object) := by
  rw [conversationStateOf]
  cases found : (object.get? "conversationState").or (object.get? "conversation_state") with
  | none => exact safeKeys_empty
  | some value =>
    rcases Option.or_eq_some_iff.mp found with first | ⟨-, second⟩
    · exact SafeKeys.get safe (get_ofMap object _ ▸ first)
    · exact SafeKeys.get safe (get_ofMap object _ ▸ second)

/-- A payload in the first shape is well formed. -/
theorem parseLegacyDecision_wellFormed (safe : SafeKeys (.ofMap object))
    (accepted : parseLegacyDecision floatText object = .ok decision) : WellFormed floatText decision := by
  rw [parseLegacyDecision, bind_eq_ok] at accepted
  obtain ⟨action, -, accepted⟩ := accepted
  obtain ⟨arguments, checked, ended⟩ := bind_eq_ok.mp accepted
  obtain ⟨shape, rfl, fits⟩ := normalizeArguments_eq_ok.mp checked
  cases ended
  have given : SafeKeys (givenArguments (object.get? "arguments") none) :=
    givenArguments_safe _ fun value found => SafeKeys.get safe (get_ofMap object _ ▸ found)
  exact ⟨givenArguments_object none shape, fits, given, conversationStateOf_safe safe,
    normalizeReason_bounds _ (asStr_ne_empty action), statusForAction_agrees action⟩

/-- The arguments of the current shape, with the answer in them. -/
def structuredArguments (object : Map) : Value :=
  givenArguments ((object.get? "action").bind (·.get "arguments")) (filledText (object.get? "answer"))

/-- The declared action fits the status, and the arguments have room for the choice. -/
structure Consistent (floatText : UInt64 → String) (object : Map) : Prop where
  type : ∀ status action, declaredStatus object = some status → declaredType object = some action → Agrees status action
  room : declaredStatus object = some .reportChoice → ∀ choice, declaredChoice object = some choice →
    (structuredArguments object).size floatText + choiceGrowth floatText (structuredArguments object) choice ≤
      assistantRunReactArgumentMaxBytes

theorem withChoice_cases (status : AssistantRunReActStatus) (object : Map) (arguments : Value) :
    arguments = (if status = .reportChoice then (declaredChoice object).elim arguments (insertChoice arguments) else arguments) ∨
      ∃ choice, status = .reportChoice ∧ declaredChoice object = some choice ∧ insertChoice arguments choice =
        if status = .reportChoice then (declaredChoice object).elim arguments (insertChoice arguments) else arguments := by
  by_cases choosing : status = .reportChoice
  · rw [if_pos choosing]
    cases known : declaredChoice object with
    | none => exact .inl rfl
    | some choice => exact .inr ⟨choice, choosing, rfl, rfl⟩
  · exact .inl (if_neg choosing).symm

theorem parseStructuredDecision_wellFormed_iff (safe : SafeKeys (.ofMap object))
    (accepted : parseStructuredDecision floatText object = .ok decision) :
    WellFormed floatText decision ↔ Consistent floatText object := by
  rw [parseStructuredDecision, bind_eq_ok] at accepted
  obtain ⟨status, declared, accepted⟩ := accepted
  obtain ⟨action, chosen, accepted⟩ := bind_eq_ok.mp accepted
  obtain ⟨arguments, checked, ended⟩ := bind_eq_ok.mp accepted
  obtain ⟨shape, same, fits⟩ := normalizeArguments_eq_ok.mp checked
  rw [← structuredArguments] at same
  subst same
  cases ended
  have reason := normalizeReason_bounds
    ((((object.get? "reason").or (object.get? "reason_summary")).bind Value.asStr).getD action.asStr) (asStr_ne_empty action)
  have given : SafeKeys (structuredArguments object) := by
    refine givenArguments_safe _ fun value found => ?_
    obtain ⟨outer, member, inner⟩ := Option.bind_eq_some_iff.mp found
    exact SafeKeys.get (SafeKeys.get safe (get_ofMap object _ ▸ member)) inner
  have agrees := structuredActionType_agrees chosen
  rw [okOr_eq_ok] at declared
  constructor
  · intro formed
    refine ⟨fun other named known typed => ?_, fun choosing choice known => ?_⟩
    · cases declared.symm.trans known
      exact agrees.mp formed.agrees named typed
    · cases declared.symm.trans choosing
      have size := formed.size
      rw [if_pos rfl, known, Option.elim_some, size_insertChoice] at size
      exact size
  · intro consistent
    have shaped : (structuredArguments object).isObject := givenArguments_object _ shape
    have state := conversationStateOf_safe safe
    have agreed := agrees.mpr fun named typed => consistent.type status named declared typed
    rcases withChoice_cases status object (structuredArguments object) with same | ⟨choice, rfl, known, same⟩
    · exact ⟨same ▸ shaped, same ▸ fits, same ▸ given, state, reason, agreed⟩
    · have room : (insertChoice (structuredArguments object) choice).size floatText ≤ assistantRunReactArgumentMaxBytes := by
        rw [size_insertChoice]
        exact consistent.room declared choice known
      exact ⟨same ▸ insertChoice_object shaped choice, same ▸ room, same ▸ insertChoice_safe given choice, state, reason, agreed⟩

/-- A decision is well formed exactly where its payload has the first shape, or is consistent. -/
theorem react_decision_wellFormed_iff (parsed : parseJsonObjectFromModelOutput fromStr outputText = .ok payload)
    (accepted : parseAssistantRunReactDecision floatText fromStr outputText = .ok decision) :
    WellFormed floatText decision ↔
      ∀ object, payload.asMap = some object → (object.get? "action_type").isSome ∨ Consistent floatText object := by
  rw [parseAssistantRunReactDecision, parsed] at accepted
  obtain ⟨safe, accepted⟩ := unit_bind_eq_ok.mp accepted
  obtain ⟨object, known, accepted⟩ := bind_eq_ok.mp accepted
  rw [okOr_eq_ok] at known
  rw [ensure_eq_ok, Bool.not_eq_true', containsUnsafeJsonKey_iff, asMap_eq_some.mp known] at safe
  have only : (∀ other, payload.asMap = some other → (other.get? "action_type").isSome ∨ Consistent floatText other) ↔
      ((object.get? "action_type").isSome ∨ Consistent floatText object) := by
    simp [known]
  rw [only]
  by_cases legacy : (object.get? "action_type").isSome
  · rw [if_pos legacy] at accepted
    exact iff_of_true (parseLegacyDecision_wellFormed safe accepted) (.inl legacy)
  · rw [if_neg legacy] at accepted
    rw [parseStructuredDecision_wellFormed_iff safe accepted, or_iff_right legacy]

/-- A reader that knows one text. -/
def readOnly (text : String) (value : Value) (input : String) : Except String Value :=
  if input = text then .ok value else .error "expected value"

def searchingAnswer : Value := json [("status", .string "final_answer"), ("action", json [("type", .string "web_search")])]

def searchingText : String := "\x7b\"status\":\"final_answer\",\"action\":\x7b\"type\":\"web_search\"\x7d\x7d"

theorem react_decision_of_search : ∃ decision, parseAssistantRunReactDecision (fun _ => "0")
    (readOnly searchingText searchingAnswer) searchingText = .ok decision ∧ (WellFormed (fun _ => "0") decision ↔
      ∀ object, searchingAnswer.asMap = some object →
        (object.get? "action_type").isSome ∨ Consistent (fun _ => "0") object) := by
  have parsed : parseJsonObjectFromModelOutput (readOnly searchingText searchingAnswer) searchingText =
      .ok searchingAnswer := rfl
  refine ⟨_, rfl, ?_⟩
  exact react_decision_wellFormed_iff parsed rfl

theorem search_as_final_answer : ∃ decision, parseAssistantRunReactDecision (fun _ => "0")
    (readOnly searchingText searchingAnswer) searchingText = .ok decision ∧ ¬ WellFormed (fun _ => "0") decision := by
  refine ⟨_, rfl, fun formed => ?_⟩
  exact absurd (formed.agrees.answer (.inl rfl)) (by decide)

end Decisions

end DataMax.ReactAgent
