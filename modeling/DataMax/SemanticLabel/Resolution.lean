import DataMax.SemanticLabel.Projection

/-! The label, the role and the value type of a field, from what is known of it. -/

namespace DataMax.SemanticLabel

open Domain Library
open SemanticUnderstanding (SemanticStatus)

structure LabelCandidate where
  label : String
  description : Option String
  status : String
  confidence : Float64

structure SemanticLabelInput where
  rawFieldKey : String
  confirmedDictionary : Option LabelCandidate
  sourceComment : Option String
  reviewedTemplate : Option String
  modelSuggestion : Option LabelCandidate
  observedValues : List String
  declaredValueType : Option String

structure SemanticLabelResolution where
  displayName : String
  technicalName : String
  description : Option String
  semanticRole : SemanticRole
  valueType : String
  status : SemanticStatus
  labelSource : String
  confidence : Float64
  examples : List String

def nonEmpty (value : Option String) : Option String := (value.map trim).filter (· ≠ "")

section Inference

variable (tables : TextTables)

def fieldTokens (raw : String) : List String :=
  let normalized := deterministicFieldLabel tables raw
  words normalized ++ if normalized = "" then [] else [normalized]

/-- The first role that one of the tokens names. -/
def roleNeedles : List (SemanticRole × List String) := [
  (.identifier, ["id", "identifier", "code", "number", "no", "编号", "编码"]),
  (.name, ["name", "title", "label", "名称", "姓名", "标题"]),
  (.date, ["date", "time", "timestamp", "year", "month", "日期", "时间"]),
  (.amount, ["amount", "price", "revenue", "sales", "rent", "cost", "fee", "金额", "租金", "销售额"]),
  (.quantity, ["quantity", "qty", "count", "volume", "数量", "件数"]),
  (.category, ["category", "type", "kind", "class", "分类", "类型"]),
  (.status, ["status", "state", "phase", "状态", "阶段"]),
  (.location, ["location", "address", "city", "province", "country", "region", "位置", "地址", "城市", "区域"]),
  (.text, ["text", "content", "description", "note", "remark", "summary", "正文", "描述", "备注", "摘要"])]

def inferSemanticRole (rawFieldKey : String) : SemanticRole :=
  let tokens := fieldTokens tables rawFieldKey
  ((roleNeedles.find? fun entry => tokens.any entry.2.contains).map (·.1)).getD .unknown

/-- `Digit+ | Digit+ '.' Digit* | Digit* '.' Digit+`, and what follows it. -/
def dropMantissa (characters : List Char) : Option (List Char) :=
  let whole := characters.takeWhile Char.isDigit
  match characters.dropWhile Char.isDigit with
  | '.' :: rest =>
    if whole = [] ∧ rest.takeWhile Char.isDigit = [] then none else some (rest.dropWhile Char.isDigit)
  | rest => if whole = [] then none else some rest

def dropSign : List Char → List Char
  | '+' :: rest => rest
  | '-' :: rest => rest
  | characters => characters

def isExponent (characters : List Char) : Bool :=
  let digits := dropSign characters
  decide (digits ≠ []) && digits.all Char.isDigit

/-- `parse::<f64>().is_ok()` -/
def parsesAsNumber (value : String) : Bool :=
  let unsigned := dropSign (asciiLower value).toList
  if [ "inf", "infinity", "nan"].contains (String.ofList unsigned) then true
  else match dropMantissa unsigned with
    | none => false
    | some [] => true
    | some ('e' :: exponent) => isExponent exponent
    | some _ => false

def looksLikeDate (value : String) : Bool :=
  let characters := value.toList
  decide (8 ≤ value.utf8ByteSize) && decide (2 ≤ (characters.filter ['-', '/'].contains).length) &&
    characters.all fun character => character.isDigit || ['-', '/', ' ', ':', 'T', 'Z'].contains character

def inferValueType (classes : CharClasses) (values : List String) : String :=
  let safe := safePublicExamples classes values
  if safe = [] then "unknown"
  else if safe.all parsesAsNumber then "number"
  else if safe.all fun value => ["true", "false", "yes", "no"].contains (asciiLower value) then "boolean"
  else if safe.all looksLikeDate then "date"
  else "text"

end Inference

section Names

variable (tables : TextTables) (input : SemanticLabelInput)

/-- What a resolution shows of a field and how sure it is. -/
structure FieldName where
  displayName : String
  description : Option String
  labelSource : String
  status : SemanticStatus
  confidence : Float64

def isBusinessLabel (classes : CharClasses) (label : String) : Bool :=
  (classifySemanticPrimaryLabel classes label).businessLabel

/-- A candidate with the status asked for and a business label. -/
def admitted (classes : CharClasses) (status : String) (candidate : Option LabelCandidate) : Option LabelCandidate :=
  candidate.filter fun candidate => candidate.status == status && isBusinessLabel classes candidate.label

def admittedText (classes : CharClasses) (text : Option String) : Option String :=
  (nonEmpty text).filter (isBusinessLabel classes)

def confirmedDictionaryName : Option FieldName :=
  (admitted tables.toCharClasses "confirmed" input.confirmedDictionary).map fun candidate =>
    ⟨(safeSemanticBusinessLabel tables.toCharClasses candidate.label).getD (trim candidate.label), candidate.description,
      "confirmed_dictionary", .confirmed, candidate.confidence.clamp (.ofRat 0) (.ofRat 1)⟩

def sourceCommentName : Option FieldName :=
  (admittedText tables.toCharClasses input.sourceComment).map fun comment =>
    ⟨(safeSemanticBusinessLabel tables.toCharClasses comment).getD comment, none, "source_comment", .confirmed, .ofRat 1⟩

def reviewedTemplateName : Option FieldName :=
  (admittedText tables.toCharClasses input.reviewedTemplate).map fun label =>
    ⟨(safeSemanticBusinessLabel tables.toCharClasses label).getD label, none, "reviewed_template", .confirmed, .ofRat 1⟩

def reviewedAliasName : Option FieldName :=
  (reviewedSemanticFieldAlias tables (trim input.rawFieldKey)).map fun label =>
    ⟨label, none, "reviewed_alias", .confirmed, .ofRat 1⟩

def modelSuggestionName : Option FieldName :=
  (admitted tables.toCharClasses "suggested" input.modelSuggestion).map fun candidate =>
    ⟨(safeSemanticBusinessLabel tables.toCharClasses candidate.label).getD (trim candidate.label), candidate.description,
      "model_suggestion", .inferred, candidate.confidence.clamp (.ofRat 0) (.ofRat (89 / 100))⟩

/-- The name that is left: the words of the key. -/
def splitName : FieldName :=
  let rawFieldKey := trim input.rawFieldKey
  let split := deterministicFieldLabel tables rawFieldKey
  let safeSplit := safeSemanticBusinessLabel tables.toCharClasses split
  let improved := safeSplit.isSome && decide (asciiLower split ≠ asciiLower rawFieldKey)
  ⟨safeSplit.getD safeGenericFieldLabel, none,
    if safeSplit.isNone then "safe_generic_fallback"
    else if improved then "deterministic_split"
    else "unresolved_raw_key",
    .unresolved, if improved then .ofRat (25 / 100) else .ofRat 0⟩

def fieldName : FieldName :=
  ((((confirmedDictionaryName tables input).or (sourceCommentName tables input)).or
    (reviewedTemplateName tables input)).or (reviewedAliasName tables input)).or
    (modelSuggestionName tables input) |>.getD (splitName tables input)

def resolveSemanticLabel : SemanticLabelResolution :=
  let rawFieldKey := trim input.rawFieldKey
  let name := fieldName tables input
  { displayName := name.displayName
    technicalName := rawFieldKey
    description := name.description
    semanticRole := inferSemanticRole tables rawFieldKey
    valueType := ((nonEmpty input.declaredValueType).map asciiLower).getD
      (inferValueType tables.toCharClasses input.observedValues)
    status := name.status
    labelSource := name.labelSource
    confidence := name.confidence
    examples := safePublicExamples tables.toCharClasses input.observedValues }

end Names

section Gate

variable {tables : TextTables} {input : SemanticLabelInput}

def candidateSources : List String := ["confirmed_dictionary", "source_comment", "reviewed_template", "model_suggestion"]

variable (tables input) in
/-- The label of the first source that has one, where an alias goes before a suggestion. -/
def chosenLabel : Option String :=
  ((((admitted tables.toCharClasses "confirmed" input.confirmedDictionary).map (·.label)).or
    (admittedText tables.toCharClasses input.sourceComment)).or
    (admittedText tables.toCharClasses input.reviewedTemplate)).or
    (if (reviewedSemanticFieldAlias tables (trim input.rawFieldKey)).isSome then none
      else (admitted tables.toCharClasses "suggested" input.modelSuggestion).map (·.label))

/-- How the label of a candidate is shown. -/
def shownLabel (classes : CharClasses) (label : String) : String :=
  (safeSemanticBusinessLabel classes label).getD (trim label)

/-- The field shows this business label of one of its sources. -/
structure Shows (tables : TextTables) (name : FieldName) (label : String) : Prop where
  business : isBusinessLabel tables.toCharClasses label
  shown : name.displayName = shownLabel tables.toCharClasses label
  listed : name.labelSource ∈ candidateSources

theorem admitted_business {classes : CharClasses} {status : String} {candidate : Option LabelCandidate}
    {found : LabelCandidate} (passed : admitted classes status candidate = some found) :
    isBusinessLabel classes found.label :=
  (Bool.and_eq_true_iff.mp (Option.filter_eq_some_iff.mp passed).2).2

theorem admittedText_business {classes : CharClasses} {text : Option String} {found : String}
    (passed : admittedText classes text = some found) : isBusinessLabel classes found ∧ trim found = found := by
  obtain ⟨present, business⟩ := Option.filter_eq_some_iff.mp passed
  obtain ⟨original, _, rfl⟩ := Option.map_eq_some_iff.mp (Option.filter_eq_some_iff.mp present).1
  exact ⟨business, trim_trim original⟩

theorem splitName_source : (splitName tables input).labelSource ∉ candidateSources := by
  rw [splitName]
  dsimp only
  split
  · decide
  · split
    · decide
    · decide

/-- A name shows the chosen label, or comes from no candidate. -/
theorem fieldName_cases : (∃ label, chosenLabel tables input = some label ∧ Shows tables (fieldName tables input) label) ∨
    chosenLabel tables input = none ∧ (fieldName tables input).labelSource ∉ candidateSources := by
  rw [fieldName, chosenLabel, confirmedDictionaryName, sourceCommentName, reviewedTemplateName, reviewedAliasName,
    modelSuggestionName]
  cases dictionary : admitted tables.toCharClasses "confirmed" input.confirmedDictionary with
  | some candidate =>
    left
    simp only [Option.map_some, Option.some_or, Option.getD_some, Option.some.injEq, exists_eq_left']
    exact ⟨admitted_business dictionary, by rw [shownLabel], (by decide : "confirmed_dictionary" ∈ candidateSources)⟩
  | none =>
    cases comment : admittedText tables.toCharClasses input.sourceComment with
    | some label =>
      left
      obtain ⟨business, trimmed⟩ := admittedText_business comment
      simp only [Option.map_none, Option.map_some, Option.none_or, Option.some_or, Option.getD_some,
        Option.some.injEq, exists_eq_left']
      exact ⟨business, by rw [shownLabel, trimmed], (by decide : "source_comment" ∈ candidateSources)⟩
    | none =>
      cases template : admittedText tables.toCharClasses input.reviewedTemplate with
      | some label =>
        left
        obtain ⟨business, trimmed⟩ := admittedText_business template
        simp only [Option.map_none, Option.map_some, Option.none_or, Option.some_or, Option.getD_some,
          Option.some.injEq, exists_eq_left']
        exact ⟨business, by rw [shownLabel, trimmed], (by decide : "reviewed_template" ∈ candidateSources)⟩
      | none =>
        simp only [Option.map_none, Option.none_or]
        cases reviewed : reviewedSemanticFieldAlias tables (trim input.rawFieldKey) with
        | some label => exact .inr ⟨rfl, (by decide : "reviewed_alias" ∉ candidateSources)⟩
        | none =>
          cases suggested : admitted tables.toCharClasses "suggested" input.modelSuggestion with
          | some candidate =>
            left
            simp only [Option.map_none, Option.map_some, Option.none_or, Option.getD_some, Option.isSome_none,
              Bool.false_eq_true, if_false, Option.some.injEq, exists_eq_left']
            exact ⟨admitted_business suggested, by rw [shownLabel], (by decide : "model_suggestion" ∈ candidateSources)⟩
          | none => exact .inr ⟨rfl, splitName_source⟩

theorem shownLabel_business_iff {classes : CharClasses} {label : String} (business : isBusinessLabel classes label) :
    isBusinessLabel classes (shownLabel classes label) ↔ ¬ Relapses classes label := by
  rw [shownLabel]
  cases chinese : (classifySemanticPrimaryLabel classes label).chineseBusinessLabel with
  | false =>
    rw [safeSemanticBusinessLabel_english business chinese]
    refine iff_of_true (passesGate_english business chinese).1 fun relapsed => ?_
    rw [relapsed.1] at chinese
    cases chinese
  | true =>
    rw [safeSemanticBusinessLabel_chinese chinese]
    by_cases long : 2 ≤ (keptCharacters label).length
    · rw [if_pos long]
      exact keptText_business_iff chinese long
    · rw [if_neg long]
      rw [Option.getD_none, isBusinessLabel, classify_trim]
      exact iff_of_true business fun relapsed => long relapsed.2.1

theorem shownLabel_passes_iff {classes : CharClasses} {label : String} (business : isBusinessLabel classes label) :
    PassesGate classes (shownLabel classes label) ↔ ¬ Relapses classes label ∧ ¬ Vanishes classes label := by
  rw [shownLabel]
  cases chinese : (classifySemanticPrimaryLabel classes label).chineseBusinessLabel with
  | false =>
    rw [safeSemanticBusinessLabel_english business chinese]
    refine iff_of_true (passesGate_english business chinese) ⟨fun relapsed => ?_, fun vanished => ?_⟩
    · rw [relapsed.1] at chinese
      cases chinese
    · rw [vanished.1] at chinese
      cases chinese
  | true =>
    rw [safeSemanticBusinessLabel_chinese chinese]
    by_cases long : 2 ≤ (keptCharacters label).length
    · rw [if_pos long, Option.getD_some, passesGate_kept_iff chinese long]
      exact ⟨fun stays => ⟨stays, fun vanished => Nat.not_lt.mpr long vanished.2⟩, And.left⟩
    · rw [if_neg long]
      refine iff_of_false (fun passes => ?_) fun stays => stays.2 ⟨chinese, Nat.not_le.mp long⟩
      have trimmed : (classifySemanticPrimaryLabel classes (trim label)).chineseBusinessLabel := by
        rw [classify_trim]
        exact chinese
      have stable := passes.2
      rw [Option.getD_none, safeSemanticBusinessLabel_chinese trimmed, keptCharacters_trim, if_neg long] at stable
      cases stable

/-- The projection is stable except for labels that relapse, and so are the names of fields,
which a label with too few characters reaches as it is. -/
theorem business_labels_stable_iff (tables : TextTables) :
    (∀ value, (∀ shown, safeSemanticBusinessLabel tables.toCharClasses value = some shown →
      PassesGate tables.toCharClasses shown) ↔ ¬ Relapses tables.toCharClasses value) ∧
      ∀ input,
        (((resolveSemanticLabel tables input).labelSource ∈ candidateSources →
          isBusinessLabel tables.toCharClasses (resolveSemanticLabel tables input).displayName) ↔
          ∀ label, chosenLabel tables input = some label → ¬ Relapses tables.toCharClasses label) ∧
        (((resolveSemanticLabel tables input).labelSource ∈ candidateSources →
          PassesGate tables.toCharClasses (resolveSemanticLabel tables input).displayName) ↔
          ∀ label, chosenLabel tables input = some label →
            ¬ Relapses tables.toCharClasses label ∧ ¬ Vanishes tables.toCharClasses label) := by
  refine ⟨projection_passes_iff tables.toCharClasses, fun input => ?_⟩
  have named : (resolveSemanticLabel tables input).labelSource = (fieldName tables input).labelSource ∧
      (resolveSemanticLabel tables input).displayName = (fieldName tables input).displayName := ⟨rfl, rfl⟩
  rw [named.1, named.2]
  rcases @fieldName_cases tables input with ⟨label, chosen, shows⟩ | ⟨unchosen, other⟩
  · simp only [chosen, Option.some.injEq, forall_eq', shows.listed, shows.shown, forall_const]
    exact ⟨shownLabel_business_iff shows.business, shownLabel_passes_iff shows.business⟩
  · simp [unchosen, other]

/-- What an operator may call a variable is an instruction once its number is dropped. -/
theorem numbered_label_relapses :
    ¬ ∀ value shown, safeSemanticBusinessLabel ⟨Char.isAlpha, Char.isAlphanum⟩ value = some shown →
      PassesGate ⟨Char.isAlpha, Char.isAlphanum⟩ shown := by
  intro stable
  have projected : safeSemanticBusinessLabel ⟨Char.isAlpha, Char.isAlphanum⟩ "环境1变量" = some "环境变量" := by
    decide +kernel
  have rejected : isBusinessLabel ⟨Char.isAlpha, Char.isAlphanum⟩ "环境变量" = false := by decide +kernel
  have passes := (stable _ _ projected).1
  rw [← isBusinessLabel, rejected] at passes
  cases passes

end Gate

end DataMax.SemanticLabel
