import DataMax.Json.Value
import DataMax.Library.Sorting
import DataMax.SemanticRelations.Builder

/-! How a semantic snapshot groups its observations into objects and fields, and finds the fields
that a foreign key joins. -/

namespace DataMax.SemanticSnapshot

open Domain Json Library
open SemanticRelations (ExplicitRelationEvidence)
open SemanticUnderstanding (SemanticEvidenceRef stableSemanticId)

structure SemanticSourceIdentity where
  sourceSystemKey : String
  sourceSchemaKey : String
  sourceObjectKey : String

structure SemanticObservation where
  id : String
  sourceKind : String
  sourceId : String
  sourceIdentity : Option SemanticSourceIdentity
  observationKind : String
  objectKind : String
  objectKey : String
  technicalName : String
  labelHint : Option String
  attributes : Value
  evidenceRefs : List SemanticEvidenceRef

def normalizedIdentityKey (value : String) : String := asciiLower (trim value)

section Grouping

variable (observation : SemanticObservation)

def isDatabaseTable : Bool := observation.objectKind = "database_table"

/-- The system, schema and object that a table comes from. -/
def sourceScope : String × String × String := match observation.sourceIdentity with
  | some identity => (identity.sourceSystemKey, identity.sourceSchemaKey, identity.sourceObjectKey)
  | none => (observation.sourceId, "", observation.objectKey)

/-- What `object_group_key` writes one after another. -/
def objectGroupParts : List String :=
  if isDatabaseTable observation then
    [normalizedIdentityKey observation.objectKind, normalizedIdentityKey observation.sourceKind,
      normalizedIdentityKey (sourceScope observation).1, normalizedIdentityKey (sourceScope observation).2.1,
      normalizedIdentityKey (sourceScope observation).2.2]
  else [observation.objectKind, observation.sourceId, observation.objectKey]

def objectGroupKey : String := "|".intercalate (objectGroupParts observation)

def semanticFieldObservation : Bool :=
  observation.observationKind ≠ "object" ∧ observation.observationKind ≠ "constraint"

end Grouping

section Constraints

/-- `rsplit_once('.')` -/
def rsplitOnceDot (text : String) : Option (String × String) :=
  match text.toList.reverse.dropWhile (· ≠ '.') with
  | [] => none
  | _ :: before => some (.ofList before.reverse, .ofList (text.toList.reverse.takeWhile (· ≠ '.')).reverse)

structure DatabaseSourceIdentity where
  sourceSystemKey : String
  sourceSchemaKey : String
  sourceObjectKey : String
  deriving DecidableEq

def normalizedDatabaseSourceIdentity (observation : SemanticObservation) : DatabaseSourceIdentity :=
  match observation.sourceIdentity with
  | some identity => ⟨normalizedIdentityKey identity.sourceSystemKey, normalizedIdentityKey identity.sourceSchemaKey,
      normalizedIdentityKey identity.sourceObjectKey⟩
  | none =>
    let objectKey := normalizedIdentityKey observation.objectKey
    let (schema, object) := (rsplitOnceDot objectKey).getD ("", objectKey)
    ⟨normalizedIdentityKey observation.sourceId, schema, object⟩

structure DatabaseRelationGroup where
  groupKey : String
  identity : DatabaseSourceIdentity

def uniqueDatabaseGroup (candidates : List DatabaseRelationGroup) : Option String := match candidates with
  | [candidate] => some candidate.groupKey
  | _ => none

def resolveDatabaseReferenceGroup (constraint : SemanticObservation) (targetObjectKey : String)
    (databaseGroups : List DatabaseRelationGroup) : Option String :=
  let source := normalizedDatabaseSourceIdentity constraint
  let normalizedTarget := normalizedIdentityKey targetObjectKey
  let (explicitSchema, targetObject) := match rsplitOnceDot normalizedTarget with
    | some (schema, object) => (some schema, object)
    | none => (none, normalizedTarget)
  let candidates := ((databaseGroups.filter fun candidate =>
      candidate.identity.sourceSystemKey = source.sourceSystemKey).filter fun candidate =>
      candidate.identity.sourceObjectKey = targetObject).filter fun candidate =>
      explicitSchema.all (candidate.identity.sourceSchemaKey = ·)
  if explicitSchema.isSome then uniqueDatabaseGroup candidates
  else if source.sourceSchemaKey ≠ "" then
    uniqueDatabaseGroup (candidates.filter fun candidate =>
      candidate.identity.sourceSchemaKey = source.sourceSchemaKey)
  else uniqueDatabaseGroup candidates

/-- The trimmed text that says what a constraint references. -/
def constraintReference (constraint : SemanticObservation) : Option String :=
  (((constraint.attributes.get "references").bind Value.asStr).or constraint.labelHint).map trim

end Constraints

section Snapshot

variable (digest : String → String) (tenantId : TenantId) (observations : List SemanticObservation)

def objectObservations : SortedMap String (List SemanticObservation) :=
  .grouped (observations.map fun observation => (objectGroupKey observation, observation))

def objectId (groupKey : String) : String := stableSemanticId digest "object" [tenantId.text, groupKey]

def objectIds : SortedMap String String :=
  .ofList ((objectObservations observations).entries.map fun entry => (entry.1, objectId digest tenantId entry.1))

def fieldKey (observation : SemanticObservation) : String × String :=
  (objectGroupKey observation, asciiLower (trim observation.technicalName))

def fieldObservations : SortedMap (String × String) (List SemanticObservation) :=
  .grouped ((observations.filter semanticFieldObservation).map fun observation => (fieldKey observation, observation))

def fieldId (objectId : String) (observation : SemanticObservation) : String :=
  stableSemanticId digest "field" [objectId, asciiLower observation.technicalName]

def fieldIds : SortedMap (String × String) String :=
  .ofList ((fieldObservations observations).entries.filterMap fun entry =>
    match (objectIds digest tenantId observations).get? entry.1.1, entry.2 with
    | some objectId, observation :: _ =>
      some ((entry.1.1, asciiLower (trim observation.technicalName)), fieldId digest objectId observation)
    | _, _ => none)

def databaseGroups : List DatabaseRelationGroup :=
  (objectObservations observations).entries.filterMap fun entry =>
    entry.2.head?.bind fun observation =>
      if isDatabaseTable observation then some ⟨entry.1, normalizedDatabaseSourceIdentity observation⟩ else none

/-- The relation of one constraint. -/
def constraintRelation (constraint : SemanticObservation) : Option ExplicitRelationEvidence :=
  (constraintReference constraint).bind fun reference =>
  (rsplitOnceDot reference).bind fun (targetObjectKey, targetFieldKey) =>
  (resolveDatabaseReferenceGroup constraint targetObjectKey (databaseGroups observations)).bind fun targetGroup =>
  ((fieldIds digest tenantId observations).get? (fieldKey constraint)).bind fun sourceId =>
  ((fieldIds digest tenantId observations).get? (targetGroup, asciiLower (trim targetFieldKey))).map fun targetId =>
    ⟨sourceId, targetId, .foreignKey, "源数据库外键约束明确关联这两个字段。", constraint.evidenceRefs⟩

def constraintRelations : List ExplicitRelationEvidence :=
  (observations.filter fun observation => observation.observationKind = "constraint").filterMap
    (constraintRelation digest tenantId observations)

end Snapshot

end DataMax.SemanticSnapshot
