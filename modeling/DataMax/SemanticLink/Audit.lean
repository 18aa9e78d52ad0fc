import DataMax.SemanticLink.Markers

/-! When the audit of a link graph passes: everything but the two dataset titles is
harmless, and of a title that the label filter lets through only one word is not. -/

namespace DataMax.SemanticLink

open Domain Json Library SemanticGraph SemanticLabel SemanticUnderstanding

section Endpoints

/-- An id as `stable_semantic_id` makes it. -/
def IsStableId (kind id : String) : Prop := ∃ digest : List UInt8, id = kind ++ ":" ++ hex digest

/-- The ids of the objects and fields of a snapshot are digests. -/
structure HasStableIds (snapshot : DatasetSemanticUnderstanding) : Prop where
  objects : ∀ object ∈ snapshot.objects, IsStableId "object" object.id
  fields : ∀ field ∈ snapshot.fields, IsStableId "field" field.id

/-- What an endpoint adds to the text of the graph is harmless. -/
structure IsHarmless (endpoint : CrossDatasetSemanticEndpointInput) : Prop where
  id : quietId (trim endpoint.localNodeId).toList
  label : IsVerbatim endpoint.displayLabel

variable {tables : TextTables} {parseUuid : String → Option UuidBytes} {digest : String → List UInt8}
  {side : IdentifiedUnderstanding} {role : Option ReviewedMallDeliveryRole}

theorem IsStableId.quiet {kind id : String} (stable : IsStableId kind id) (plain : IsPlain kind)
    (quiet : quietId kind.toList) : quietId (trim id).toList := by
  obtain ⟨bytes, rfl⟩ := stable
  have colon : IsPlain ":" := by decide
  rw [((plain.append colon).append (hex_plain bytes)).trim_eq]
  exact quietId_join quiet (quietId_digest bytes)

/-- A text of characters beyond ASCII. -/
def isWide (text : String) : Bool := text.toList.all fun character => 0x80 ≤ character.toNat

/-- The characters of a literal are read off it, not decoded. -/
theorem isWide_ofList {characters : List Char} (wide : characters.all fun character => 0x80 ≤ character.toNat) :
    isWide (.ofList characters) := by
  rwa [isWide, String.toList_ofList]

theorem wide_verbatim {text : String} (wide : isWide text) : IsVerbatim text := by
  have each := List.all_eq_true.mp wide
  simp only [decide_eq_true_eq] at each
  exact fun character inside => escapeChar_wide (each character inside)

def spelledAliasLabels : {spelled : List (List Char) // Spells aliasLabels spelled} := ⟨_, by repeat constructor⟩

theorem aliasLabels_verbatim {label : String} (listed : label ∈ aliasLabels) : IsVerbatim label := by
  have wide : ∀ characters ∈ spelledAliasLabels.1, characters.all fun character => 0x80 ≤ character.toNat := by decide
  exact wide_verbatim (spelledAliasLabels.2.forall_mem wide label listed)

theorem safeSemanticLinkLabel_verbatim (ascii : tables.AgreesOnAscii) (value : String) {fallback : String}
    (written : IsVerbatim fallback) : IsVerbatim (safeSemanticLinkLabel tables parseUuid value fallback) :=
  (safeSemanticLinkLabel_shown tables parseUuid value fallback).verbatim ascii written

theorem semanticGraphObjectLabel_verbatim (ascii : tables.AgreesOnAscii) (snapshot : DatasetSemanticUnderstanding)
    (objectId : String) : IsVerbatim (semanticGraphObjectLabel tables parseUuid snapshot objectId role) := by
  rw [semanticGraphObjectLabel]
  split
  · decide
  · rename_i object _
    dsimp only
    split
    · rename_i label reviewed
      apply aliasLabels_verbatim
      split at reviewed
      · rw [Option.or_eq_some_iff] at reviewed
        rcases reviewed with named | ⟨_, labelled⟩
        · exact reviewedSemanticObjectAlias_mem named
        · exact reviewedSemanticObjectAlias_mem labelled
      · cases reviewed
    · split
      · exact safeSemanticLinkLabel_verbatim ascii object.label (by decide)
      · repeat' split
        all_goals decide

theorem semanticGraphFieldLabel_verbatim (ascii : tables.AgreesOnAscii) (field : SemanticField) (reviewed : Bool) :
    IsVerbatim (semanticGraphFieldLabel tables parseUuid field reviewed) := by
  have mall : ∀ value label, (if reviewed then reviewedMallDeliveryFieldAlias tables value else none) = some label →
      IsVerbatim label := by
    intro value label found
    split at found
    · exact aliasLabels_verbatim (reviewedMallDeliveryFieldAlias_mem found)
    · cases found
  rw [semanticGraphFieldLabel]
  dsimp only
  cases found : ((((if reviewed then reviewedMallDeliveryFieldAlias tables field.technicalName else none).or
    (if reviewed then reviewedMallDeliveryFieldAlias tables field.label else none)).or
    (reviewedSemanticFieldAlias tables field.technicalName)).or (reviewedSemanticFieldAlias tables field.label)) with
  | none => exact safeSemanticLinkLabel_verbatim ascii field.label (by decide)
  | some label =>
    simp only [Option.or_eq_some_iff] at found
    rcases found with ((named | ⟨_, labelled⟩) | ⟨_, reviewedName⟩) | ⟨_, reviewedLabel⟩
    · exact mall _ _ named
    · exact mall _ _ labelled
    · exact aliasLabels_verbatim (reviewedSemanticFieldAlias_mem reviewedName)
    · exact aliasLabels_verbatim (reviewedSemanticFieldAlias_mem reviewedLabel)

theorem conceptEndpoint_harmless (concept : MallBusinessConcept) :
    quietId (trim concept.localNodeId).toList ∧ IsVerbatim concept.label := by
  constructor
  · have listed : concept.key ∈ graphWords := by cases concept <;> decide
    have quiet : quietId concept.localNodeId.toList :=
      @quietId_join "concept" _ (graphWords_quiet "concept" (by decide)) (graphWords_quiet _ listed)
    rwa [trim_quiet quiet]
  · cases concept <;> exact wide_verbatim (isWide_ofList (by decide))

theorem appendSnapshotSemanticEndpoints_harmless (ascii : tables.AgreesOnAscii) (stable : HasStableIds side.snapshot) :
    ∀ endpoint ∈ (appendSnapshotSemanticEndpoints tables parseUuid side).endpoints, IsHarmless endpoint := by
  have root : quietId (trim datasetRootLocalNodeId).toList := by
    have quiet : quietId datasetRootLocalNodeId.toList :=
      @quietId_join "dataset" "root" (graphWords_quiet _ (by decide)) (graphWords_quiet _ (by decide))
    rwa [trim_quiet quiet]
  have objects : ∀ role, ∀ object ∈ side.snapshot.objects, IsHarmless (objectEndpoint tables parseUuid side role object) :=
    fun role object inside => ⟨(stable.objects object inside).quiet (by decide) (graphWords_quiet _ (by decide)),
      semanticGraphObjectLabel_verbatim ascii _ _⟩
  have fields : ∀ role, ∀ field ∈ side.snapshot.fields, IsHarmless (fieldEndpoint tables parseUuid side role field) :=
    fun role field inside => ⟨(stable.fields field inside).quiet (by decide) (graphWords_quiet _ (by decide)),
      semanticGraphFieldLabel_verbatim ascii _ _⟩
  intro endpoint listed
  rw [appendSnapshotSemanticEndpoints, List.mem_cons, List.mem_append, List.mem_append] at listed
  rcases listed with same | (inside | inside) | inside
  · rw [same]
    exact ⟨root, safeSemanticLinkLabel_verbatim ascii _ (by decide)⟩
  · obtain ⟨object, known, rfl⟩ := List.mem_map.mp inside
    exact objects _ object known
  · obtain ⟨field, known, rfl⟩ := List.mem_map.mp inside
    exact fields _ field (List.mem_filter.mp known).1
  · obtain ⟨concept, _, rfl⟩ := List.mem_map.mp inside
    exact ⟨(conceptEndpoint_harmless concept).1, (conceptEndpoint_harmless concept).2⟩

theorem documentEndpoint_harmless (datasetId : UuidBytes) (identity : String) :
    IsHarmless (documentEndpoint digest datasetId identity) where
  id := by
    have plain : IsPlain (semanticId digest "document" [datasetId.text, identity]) :=
      semanticId_plain (by decide)
    change quietId (trim (semanticId digest "document" [datasetId.text, identity])).toList
    rw [plain.trim_eq]
    have kind : quietId (trim "document").toList := by
      have quiet := graphWords_quiet "document" (by decide)
      rwa [trim_quiet quiet]
    exact quietId_semanticId kind _
  label := by
    exact wide_verbatim (isWide_ofList (by decide))

end Endpoints

section Manifest

variable {floatText : UInt64 → String} {text : List Char} {graph : DatasetSemanticGraphV1}

/-- Written as a string of the manifest, the text does not make the audit fail. -/
def IsSilent (text : List Char) : Prop := flagged (text.flatMap escapeChar) = false

theorem silent_id (quiet : quietId text) : IsSilent text := by
  rw [IsSilent, quietId_escaped quiet]
  exact (quietId_iff.mp quiet).1.1

theorem silent_word {word : String} (listed : word ∈ graphWords) : IsSilent word.toList :=
  silent_id (graphWords_quiet word listed)

theorem silent_label {label : String} (verbatim : IsVerbatim label)
    (none : ∀ character ∈ label.toList, character.isAlpha = false) : IsSilent label.toList := by
  rw [IsSilent, verbatim.escaped]
  exact flagged_no_letters none

theorem silent_wide {label : String} (wide : isWide label) : IsSilent label.toList := by
  have each := List.all_eq_true.mp wide
  simp only [decide_eq_true_eq] at each
  exact silent_label (wide_verbatim wide) fun character inside => not_alpha_wide (each character inside)

structure IsSilentNode (node : DatasetSemanticGraphNode) : Prop where
  id : IsSilent node.id.toList
  label : IsSilent node.displayLabel.toList

structure IsSilentEdge (edge : DatasetSemanticGraphEdge) : Prop where
  id : IsSilent edge.id.toList
  source : IsSilent edge.sourceId.toList
  target : IsSilent edge.targetId.toList
  relationType : edge.relationType ∈ graphWords
  label : IsSilent edge.label.toList
  reason : IsSilent edge.reason.toList

theorem manifestIsSafe_iff (manifest : Value) : datasetSemanticLinkManifestIsSafe floatText manifest ↔
    flagged (render (tokens floatText manifest)) = false := by
  simp [datasetSemanticLinkManifestIsSafe, flagged, Value.text]

/-- Only quoted texts can make a manifest fail. -/
theorem flagged_manifest (floats : ∀ bits, ∀ char ∈ (floatText bits).toList, isNumberChar char) (manifest : Value) :
    flagged (render (tokens floatText manifest)) ↔
      ∃ text, .quoted text ∈ tokens floatText manifest ∧ ¬ IsSilent text := by
  have quotes : LocalTo '"' (flagged · = true) :=
    flagged_local (by decide) (by decide) (forall_marker ('"' ∉ ·) (by decide))
  have plain : ∀ chars : List Char, (∀ char ∈ chars, isStructural char) → ¬ flagged chars = true := by
    intro chars structural
    rw [flagged_structural structural]
    exact Bool.false_ne_true
  rw [found_render quotes plain fun text listed => bare_structural floats manifest listed]
  simp only [IsSilent, Bool.not_eq_false]

variable (floatText) in
/-- Nothing that the value quotes makes the audit fail. -/
def IsSilentValue (value : Value) : Prop := ∀ text, .quoted text ∈ tokens floatText value → IsSilent text

theorem silentValue_string {value : String} (silent : IsSilent value.toList) :
    IsSilentValue floatText (.string value) := by
  intro text quoted
  rw [quoted_string] at quoted
  exact quoted ▸ silent

theorem silentValue_bool (value : Bool) : IsSilentValue floatText (.bool value) :=
  fun _ quoted => False.elim (quoted_bool value quoted)

theorem silentValue_number (value : Number) : IsSilentValue floatText (.number value) :=
  fun _ quoted => False.elim (quoted_number value quoted)

theorem silentValue_float (value : Float64) : IsSilentValue floatText (ofFloat64 value) := by
  intro text quoted
  cases value with
  | nan => exact False.elim (quoted_null quoted)
  | ranked rank _ =>
    rw [ofFloat64] at quoted
    split at quoted
    · exact False.elim (quoted_number _ quoted)
    · exact False.elim (quoted_null quoted)

theorem silentValue_array {items : List Value} (silent : ∀ item ∈ items, IsSilentValue floatText item) :
    IsSilentValue floatText (.array items) := by
  intro text quoted
  obtain ⟨item, listed, within⟩ := (quoted_array items).mp quoted
  exact silent item listed text within

theorem silentValue_json {entries : List (String × Value)}
    (silent : ∀ entry ∈ entries, entry.1 ∈ graphWords ∧ IsSilentValue floatText entry.2) :
    IsSilentValue floatText (json entries) := by
  intro text quoted
  obtain ⟨entry, listed, written⟩ := quoted_of_json quoted
  rcases written with rfl | within
  · exact silent_word (silent entry listed).1
  · exact (silent entry listed).2 text within

theorem silentValue_uuid (uuid : UuidBytes) : IsSilentValue floatText (.string uuid.text) :=
  silentValue_string (silent_id (quietId_uuid uuid))

theorem silentValue_uuids (ids : List UuidBytes) : IsSilentValue floatText (ofUuids ids) := by
  apply silentValue_array
  intro item listed
  obtain ⟨uuid, _, rfl⟩ := List.mem_map.mp listed
  exact silentValue_uuid uuid

theorem silentValue_word {word : String} (listed : word ∈ graphWords) : IsSilentValue floatText (.string word) :=
  silentValue_string (silent_word listed)

theorem silentValue_dataset {dataset : DatasetSemanticGraphDataset} (title : IsSilent dataset.title.toList) :
    IsSilentValue floatText (datasetValue dataset) := by
  apply silentValue_json
  simp only [List.forall_mem_cons, List.not_mem_nil, false_implies, implies_true, and_true]
  exact ⟨⟨by decide, silentValue_uuid _⟩, ⟨by decide, silentValue_string title⟩, by decide, silentValue_bool _⟩

theorem silentValue_node {node : DatasetSemanticGraphNode} (silent : IsSilentNode node) :
    IsSilentValue floatText (nodeValue node) := by
  have kind : node.kind.sharedIdKind ∈ graphWords := by cases node.kind <;> decide
  apply silentValue_json
  simp only [List.forall_mem_cons, List.not_mem_nil, false_implies, implies_true, and_true]
  exact ⟨⟨by decide, silentValue_string silent.id⟩, ⟨by decide, silentValue_word kind⟩,
    ⟨by decide, silentValue_string silent.label⟩, ⟨by decide, silentValue_uuids _⟩, by decide, silentValue_number _⟩

theorem silentValue_edge {edge : DatasetSemanticGraphEdge} (silent : IsSilentEdge edge) :
    IsSilentValue floatText (edgeValue edge) := by
  have semantics : relationSemanticsName edge.relationSemantics ∈ graphWords := by
    cases edge.relationSemantics <;> decide
  have evidence : evidenceName edge.evidenceClass ∈ graphWords := by cases edge.evidenceClass <;> decide
  apply silentValue_json
  simp only [List.forall_mem_cons, List.not_mem_nil, false_implies, implies_true, and_true]
  exact ⟨⟨by decide, silentValue_string silent.id⟩, ⟨by decide, silentValue_string silent.source⟩,
    ⟨by decide, silentValue_string silent.target⟩, ⟨by decide, silentValue_word silent.relationType⟩,
    ⟨by decide, silentValue_string silent.label⟩, ⟨by decide, silentValue_word semantics⟩,
    ⟨by decide, silentValue_word evidence⟩, ⟨by decide, silentValue_float _⟩,
    ⟨by decide, silentValue_string silent.reason⟩, ⟨by decide, silentValue_bool _⟩, by decide, silentValue_uuids _⟩

/-- What a graph quotes beside the titles of its datasets. -/
structure IsSilentGraph (graph : DatasetSemanticGraphV1) : Prop where
  schemaVersion : IsSilent graph.schemaVersion.toList
  nodes : ∀ node ∈ graph.nodes, IsSilentNode node
  edges : ∀ edge ∈ graph.edges, IsSilentEdge edge

theorem silentValue_graph (silent : IsSilentGraph graph)
    (titles : ∀ dataset ∈ graph.datasets, IsSilent dataset.title.toList) : IsSilentValue floatText (graphValue graph) := by
  have each : ∀ {Item : Type} {items : List Item} {write : Item → Value},
      (∀ item ∈ items, IsSilentValue floatText (write item)) → IsSilentValue floatText (.array (items.map write)) := by
    intro Item items write written
    apply silentValue_array
    intro value listed
    obtain ⟨item, inside, rfl⟩ := List.mem_map.mp listed
    exact written item inside
  have counts : IsSilentValue floatText (json [("datasets", ofNat graph.truncated.datasets),
      ("nodes", ofNat graph.truncated.nodes), ("edges", ofNat graph.truncated.edges)]) := by
    apply silentValue_json
    simp only [List.forall_mem_cons, List.not_mem_nil, false_implies, implies_true, and_true]
    exact ⟨⟨by decide, silentValue_number _⟩, ⟨by decide, silentValue_number _⟩, by decide, silentValue_number _⟩
  apply silentValue_json
  simp only [List.forall_mem_cons, List.not_mem_nil, false_implies, implies_true, and_true]
  exact ⟨⟨by decide, silentValue_string silent.schemaVersion⟩, ⟨by decide, silentValue_uuid _⟩,
    ⟨by decide, each fun dataset inside => silentValue_dataset (titles dataset inside)⟩,
    ⟨by decide, each fun node inside => silentValue_node (silent.nodes node inside)⟩,
    ⟨by decide, each fun edge inside => silentValue_edge (silent.edges edge inside)⟩,
    ⟨by decide, counts⟩, by decide, silentValue_bool _⟩

theorem quoted_title {dataset : DatasetSemanticGraphDataset} (listed : dataset ∈ graph.datasets) :
    .quoted dataset.title.toList ∈ tokens floatText (graphValue graph) := by
  rw [graphValue, quoted_json (by simp)]
  refine ⟨("datasets", .array (graph.datasets.map datasetValue)), by simp, .inr ?_⟩
  rw [quoted_array]
  refine ⟨_, List.mem_map_of_mem listed, ?_⟩
  rw [datasetValue, quoted_json (by simp)]
  exact ⟨("title", .string dataset.title), by simp, .inr ((quoted_string _).mpr rfl)⟩

/-- Beside silent nodes and edges, only the titles decide. -/
theorem graph_isSafe_iff (floats : ∀ bits, ∀ char ∈ (floatText bits).toList, isNumberChar char)
    (silent : IsSilentGraph graph) : datasetSemanticLinkManifestIsSafe floatText (graphValue graph) ↔
      ∀ dataset ∈ graph.datasets, IsSilent dataset.title.toList := by
  rw [manifestIsSafe_iff, ← Bool.not_eq_true, flagged_manifest floats]
  constructor
  · intro safe dataset listed
    by_contra loud
    exact safe ⟨_, quoted_title listed, loud⟩
  · rintro titles ⟨text, quoted, loud⟩
    exact loud (silentValue_graph silent titles text quoted)

end Manifest

section Matched

variable {digest : String → List UInt8} {input : CrossDatasetSemanticMatchInput}

theorem fallbackLabel_silent (kind : DatasetSemanticGraphNodeKind) : IsSilent kind.fallbackLabel.toList := by
  apply silent_wide
  cases kind <;> exact isWide_ofList (by decide)

theorem safeDisplayLabel_silent {value : String} (verbatim : IsVerbatim value) (kind : DatasetSemanticGraphNodeKind) :
    IsSilent (safeDisplayLabel value kind).toList := by
  rw [safeDisplayLabel, comparableChineseLabel]
  split
  · exact fallbackLabel_silent kind
  · rename_i comparable
    simp only [Bool.or_eq_true, not_or, Bool.not_eq_true] at comparable
    have letters : ∀ character ∈ (" ".intercalate (words value)).toList, character.isAlpha = false := by
      simpa using comparable.2
    apply silent_label
    · intro character inside
      rw [Option.getD_some, String.toList_ofList] at inside
      rcases mem_words_text (List.mem_of_mem_take inside) with rfl | ⟨within, -⟩
      · rfl
      · exact verbatim character within
    · intro character inside
      rw [Option.getD_some, String.toList_ofList] at inside
      exact letters character (List.mem_of_mem_take inside)

theorem preferredDisplayLabel_silent {count : Nat} {endpoint : Fin count → CrossDatasetSemanticEndpointInput}
    (harmless : ∀ index, IsHarmless (endpoint index)) (indices : List (Fin count)) (kind : DatasetSemanticGraphNodeKind) :
    IsSilent (preferredDisplayLabel endpoint indices kind).toList := by
  rw [preferredDisplayLabel]
  generalize found : leastBy _ _ = chosen
  cases chosen with
  | none => exact fallbackLabel_silent kind
  | some entry =>
    obtain ⟨counted, listed, label⟩ := SortedMap.key_of_mem_merged (leastBy_mem found)
    obtain ⟨index, _, rfl⟩ := List.mem_map.mp listed
    rw [Option.map_some, Option.getD_some, ← label]
    exact safeDisplayLabel_silent (harmless index).label kind

theorem nodeOf_id_quiet {count : Nat} {endpoint : Fin count → CrossDatasetSemanticEndpointInput}
    (harmless : ∀ index, IsHarmless (endpoint index)) (index : Fin count) :
    quietId (nodeOf digest endpoint index).id.toList := by
  rw [nodeOf]
  split
  · have kind : (endpoint ((classOf endpoint index).headD index)).kind.sharedIdKind ∈ graphWords := by
      cases (endpoint ((classOf endpoint index).headD index)).kind <;> decide
    have bare : ':' ∉ (trim "shared").toList := by decide
    have hashed : ∀ parts, quietId (afterColon (semanticId digest "shared" parts)).toList := by
      intro parts
      rw [semanticId, stableSemanticId, afterColon_append bare]
      exact quietId_digest _
    exact quietId_join (@quietId_join "shared" _ (graphWords_quiet "shared" (by decide)) (graphWords_quiet _ kind))
      (hashed _)
  · apply quietId_scoped
    rw [trim_trim]
    exact (harmless index).id

theorem nodeOf_silent {count : Nat} {endpoint : Fin count → CrossDatasetSemanticEndpointInput}
    (harmless : ∀ index, IsHarmless (endpoint index)) (index : Fin count) :
    IsSilentNode (nodeOf digest endpoint index) := by
  refine ⟨silent_id (nodeOf_id_quiet harmless index), ?_⟩
  rw [nodeOf]
  split
  · exact preferredDisplayLabel_silent harmless _ _
  · exact safeDisplayLabel_silent (harmless index).label _

set_option maxRecDepth 4000 in
theorem relationReasons_wide (kind : CrossDatasetExplicitRelationKind) (evidenceClass : SemanticEvidenceClass) :
    isWide (kind.reason evidenceClass) := by
  cases kind <;> cases evidenceClass <;> exact isWide_ofList (by decide)

theorem relationLabels_wide (kind : CrossDatasetExplicitRelationKind) (evidenceClass : SemanticEvidenceClass) :
    isWide (kind.label evidenceClass) := by
  cases kind <;> cases evidenceClass <;> exact isWide_ofList (by decide)

/-- The fixed texts of a stated edge. -/
theorem stated_texts {count : Nat} {endpoint : Fin count → CrossDatasetSemanticEndpointInput}
    {edge : DatasetSemanticGraphEdge} (stated : IsStated digest endpoint edge) :
    edge.relationType ∈ graphWords ∧ IsSilent edge.label.toList ∧ IsSilent edge.reason.toList := by
  rcases stated.facts with ⟨kind, _, facts⟩ | facts
  · have types := congrArg DatasetSemanticGraphEdge.relationType facts
    have labels := congrArg DatasetSemanticGraphEdge.label facts
    have reasons := congrArg DatasetSemanticGraphEdge.reason facts
    simp only [explicitFacts, bareEdge, buildEdge] at types labels reasons
    rw [types, labels, reasons]
    exact ⟨by cases kind <;> decide, silent_wide (relationLabels_wide kind _), silent_wide (relationReasons_wide kind _)⟩
  · have types := congrArg DatasetSemanticGraphEdge.relationType facts
    have labels := congrArg DatasetSemanticGraphEdge.label facts
    have reasons := congrArg DatasetSemanticGraphEdge.reason facts
    simp only [labelFacts, bareEdge, buildEdge] at types labels reasons
    rw [types, labels, reasons]
    exact ⟨by decide, silent_wide (isWide_ofList (by decide)), silent_wide (isWide_ofList (by decide))⟩

theorem boundedEndpoints_subset {endpoint : CrossDatasetSemanticEndpointInput}
    (inside : endpoint ∈ boundedEndpoints input) : endpoint ∈ input.endpoints := by
  have kept := (dedupAdjacent_sublist SemanticGraph.endpointKey _).subset (List.mem_of_mem_take inside)
  exact (List.mem_filter.mp (mem_sortBy.mp kept)).1

/-- Harmless endpoints make a graph of which only the titles can be rejected. -/
theorem matched_silent (harmless : ∀ endpoint ∈ input.endpoints, IsHarmless endpoint) :
    IsSilentGraph (matchCrossDatasetSemanticGraph digest input) := by
  have each : ∀ index, IsHarmless ((boundedEndpoints input).get index) :=
    fun index => harmless _ (boundedEndpoints_subset (List.get_mem _ _))
  constructor
  case schemaVersion =>
    have verbatim : IsVerbatim datasetSemanticGraphSchemaVersion := by decide
    have letters : (datasetSemanticGraphSchemaVersion.toList.all fun character => !character.isAlpha) = true := by decide
    exact silent_label verbatim fun character inside => by simpa using List.all_eq_true.mp letters character inside
  case nodes =>
    intro node listed
    obtain ⟨index, rfl⟩ := of_mem_allNodes (List.mem_of_mem_take listed)
    exact nodeOf_silent each index
  case edges =>
    intro edge listed
    obtain ⟨stated, known, _, rfl⟩ := of_mem_graph_edges listed
    obtain ⟨relationType, label, reason⟩ := stated_texts known
    have ends : ∀ id, (∃ index, id = endpointNodeId digest (boundedEndpoints input).get index) → IsSilent id.toList := by
      intro id joined
      obtain ⟨index, same⟩ := joined
      rw [same, endpointNodeId_eq]
      exact silent_id (nodeOf_id_quiet each index)
    refine ⟨?_, ends _ known.source, ends _ known.target, relationType, label, reason⟩
    have kind : quietId (trim "cross_relation").toList := by
      have quiet := graphWords_quiet "cross_relation" (by decide)
      rwa [trim_quiet quiet]
    change IsSilent stated.id.toList
    rw [known.id_eq]
    exact silent_id (quietId_semanticId kind _)

end Matched

section Titles

variable {tables : TextTables} {parseUuid : String → Option UuidBytes} {digest : String → List UInt8}
  {floatText : UInt64 → String} {input : DatasetSemanticLinkMatchInput}

/-- The one marker of the audit that the label filter lets through. -/
def isExamplesTitle (tables : TextTables) (parseUuid : String → Option UuidBytes) (title : String) : Bool :=
  contains (asciiLower (safeSemanticLinkLabel tables parseUuid title "数据集")) "examples"

theorem isExamplesTitle_eq_false {title : String} (bare : 'x' ∉ title.toList.map Char.toLower) :
    isExamplesTitle tables parseUuid title = false := by
  rw [isExamplesTitle, Bool.eq_false_iff, ne_eq, contains_iff, toList_asciiLower]
  intro occurs
  have letter : 'x' ∈ "examples".toList := by decide
  have other : 'x' ∉ "数据集".toList.map Char.toLower := by decide
  obtain ⟨character, inside, lower⟩ := List.mem_map.mp (occurs.subset letter)
  rcases mem_safeSemanticLinkLabel inside with fixed | rfl | within
  · exact other (List.mem_map.mpr ⟨character, fixed, lower⟩)
  · cases lower
  · exact bare (List.mem_map.mpr ⟨character, within, lower⟩)

theorem title_silent_iff (ascii : tables.AgreesOnAscii) (side : IdentifiedUnderstanding) :
    IsSilent (matchDataset tables parseUuid side).title.toList ↔
      isExamplesTitle tables parseUuid side.snapshot.dataset.title = false := by
  have wide : isWide "数据集" := isWide_ofList (by decide)
  have each := List.all_eq_true.mp wide
  have written := wide_verbatim wide
  have unmarked := flagged_eq_examples fun character inside => not_alpha_wide (of_decide_eq_true (each character inside))
  have shown := safeSemanticLinkLabel_shown tables parseUuid side.snapshot.dataset.title "数据集"
  rw [matchDataset, IsSilent, (shown.verbatim ascii written).escaped, shown.flagged_eq ascii unmarked, isExamplesTitle]

theorem boundedDatasets_pair (tables : TextTables) (parseUuid : String → Option UuidBytes)
    (digest : String → List UInt8) (apart : input.left.datasetId ≠ input.right.datasetId) :
    ((boundedDatasets (linkMatchInput tables parseUuid digest input)).1).Perm
      [matchDataset tables parseUuid input.left, matchDataset tables parseUuid input.right] := by
  cases order : compare input.right.datasetId input.left.datasetId with
  | eq => exact False.elim (apart (Std.LawfulEqCmp.eq_of_compare order).symm)
  | lt =>
    simp [boundedDatasets, uniqueDatasets, linkMatchInput, SortedMap.keyed, SortedMap.ofList, SortedMap.insert,
      SortedMap.insertEntry, order, matchDataset, SortedMap.empty, SortedMap.get?, SortedMap.findEntry,
      SortedMap.erase, SortedMap.eraseEntry, SortedMap.values, absoluteMaxDatasets]
    exact List.Perm.swap _ _ _
  | gt =>
    have back : compare input.left.datasetId input.right.datasetId = .lt := Std.OrientedCmp.gt_iff_lt.mp order
    simp [boundedDatasets, uniqueDatasets, linkMatchInput, SortedMap.keyed, SortedMap.ofList, SortedMap.insert,
      SortedMap.insertEntry, order, matchDataset, back, SortedMap.empty, SortedMap.get?, SortedMap.findEntry,
      SortedMap.erase, SortedMap.eraseEntry, SortedMap.values, absoluteMaxDatasets]

theorem linkMatchInput_harmless (ascii : tables.AgreesOnAscii) (left : HasStableIds input.left.snapshot)
    (right : HasStableIds input.right.snapshot) :
    ∀ endpoint ∈ (linkMatchInput tables parseUuid digest input).endpoints, IsHarmless endpoint := by
  intro endpoint listed
  rw [linkMatchInput] at listed
  rcases List.mem_append.mp listed with sides | shared
  · rcases List.mem_append.mp sides with first | second
    · exact appendSnapshotSemanticEndpoints_harmless ascii left endpoint first
    · exact appendSnapshotSemanticEndpoints_harmless ascii right endpoint second
  · obtain ⟨identity, _, placed⟩ := List.mem_flatMap.mp shared
    simp only [List.mem_cons, List.not_mem_nil, or_false] at placed
    rcases placed with rfl | rfl
    · exact documentEndpoint_harmless _ identity
    · exact documentEndpoint_harmless _ identity

theorem graph_isSafe_titles (ascii : tables.AgreesOnAscii)
    (floats : ∀ bits, ∀ char ∈ (floatText bits).toList, isNumberChar char)
    (apart : input.left.datasetId ≠ input.right.datasetId) (left : HasStableIds input.left.snapshot)
    (right : HasStableIds input.right.snapshot) :
    datasetSemanticLinkManifestIsSafe floatText
        (graphValue (matchCrossDatasetSemanticGraph digest (linkMatchInput tables parseUuid digest input))) ↔
      isExamplesTitle tables parseUuid input.left.snapshot.dataset.title = false ∧
        isExamplesTitle tables parseUuid input.right.snapshot.dataset.title = false := by
  have listed : ∀ dataset,
      dataset ∈ (matchCrossDatasetSemanticGraph digest (linkMatchInput tables parseUuid digest input)).datasets ↔
        dataset = matchDataset tables parseUuid input.left ∨ dataset = matchDataset tables parseUuid input.right := by
    intro dataset
    change dataset ∈ (boundedDatasets (linkMatchInput tables parseUuid digest input)).1 ↔ _
    rw [(boundedDatasets_pair tables parseUuid digest apart).mem_iff]
    simp
  rw [graph_isSafe_iff floats (matched_silent (linkMatchInput_harmless ascii left right)),
    ← title_silent_iff ascii, ← title_silent_iff ascii]
  simp only [listed, forall_eq_or_imp, forall_eq]

/-- A pair of ready snapshots has a link graph exactly when no title shows the word that
only the audit knows. -/
theorem link_graph_built_iff (ascii : tables.AgreesOnAscii)
    (floats : ∀ bits, ∀ char ∈ (floatText bits).toList, isNumberChar char)
    (apart : input.left.datasetId ≠ input.right.datasetId)
    (ready : input.left.snapshot.status = "ready" ∧ input.right.snapshot.status = "ready")
    (left : HasStableIds input.left.snapshot) (right : HasStableIds input.right.snapshot) :
    (∃ graph, buildDatasetSemanticLinkGraph tables parseUuid digest floatText input = .ok graph) ↔
      isExamplesTitle tables parseUuid input.left.snapshot.dataset.title = false ∧
        isExamplesTitle tables parseUuid input.right.snapshot.dataset.title = false := by
  rw [← @graph_isSafe_titles tables parseUuid digest floatText input ascii floats apart left right]
  simp only [buildDatasetSemanticLinkGraph, if_neg apart, ready, ne_eq, not_true_eq_false, or_self, if_false]
  split
  · rename_i safe
    simp [safe]
  · rename_i loud
    simp [loud]

end Titles

section Titled

/-- Tables for ASCII and the Han characters. -/
def plainTables : TextTables where
  isAlphanumeric character := character.isAlphanum || isHanCharacter character
  isAlphabetic character := character.isAlpha || isHanCharacter character
  toLowercase character := [character.toLower]

theorem plainTables_ascii : plainTables.AgreesOnAscii where
  alphanumeric character ascii := by
    have narrow : isHanCharacter character = false := by
      by_contra han
      have code := isHanCharacter_code (by simpa using han)
      omega
    simp [plainTables, narrow]
  lowercase _ _ := rfl

/-- A ready snapshot without objects and fields. -/
def titledUnderstanding (number : UInt8) (title : String) : IdentifiedUnderstanding where
  datasetId := ⟨List.replicate 15 0 ++ [number], rfl⟩
  identified := rfl
  snapshot :=
    { schemaVersion := "1"
      generationVersion := SemanticGraph.datasetSemanticGraphSchemaVersion
      status := "ready"
      dataset := ⟨⟨(UuidBytes.mk (List.replicate 15 0 ++ [number]) rfl).text⟩, title⟩
      coverage := ⟨0, 0, 0, 0, 0, 0, 0⟩
      summary := ⟨"", []⟩
      objects := []
      fields := []
      relations := []
      sourceGroups := []
      pipeline := []
      generatedAt := 0
      stale := false
      truncated := ⟨0, 0, 0⟩ }

def titledInput (left right : String) : DatasetSemanticLinkMatchInput :=
  ⟨titledUnderstanding 1 left, titledUnderstanding 2 right⟩

theorem titledInput_stable (number : UInt8) (title : String) :
    HasStableIds (titledUnderstanding number title).snapshot where
  objects _ inside := False.elim (List.not_mem_nil inside)
  fields _ inside := False.elim (List.not_mem_nil inside)

theorem oneText_number : ∀ bits : UInt64, ∀ char ∈ ((fun _ => "1.0") bits : String).toList, isNumberChar char := by
  intro _ char inside
  have each : ("1.0".toList.all isNumberChar) = true := by decide
  exact List.all_eq_true.mp each char inside

theorem titledInput_apart (left right : String) :
    (titledInput left right).left.datasetId ≠ (titledInput left right).right.datasetId := by
  have apart : (⟨List.replicate 15 0 ++ [1], rfl⟩ : UuidBytes) ≠ ⟨List.replicate 15 0 ++ [2], rfl⟩ := by decide
  exact apart

theorem link_graph_built_titled :
    ∃ graph, buildDatasetSemanticLinkGraph plainTables (fun _ => none) shortDigest (fun _ => "1.0")
      (titledInput "Sales Orders" "门店客流") = .ok graph := by
  have titles : isExamplesTitle plainTables (fun _ => none) "Sales Orders" = false ∧
      isExamplesTitle plainTables (fun _ => none) "门店客流" = false :=
    ⟨isExamplesTitle_eq_false (by decide), isExamplesTitle_eq_false (by decide)⟩
  exact (link_graph_built_iff plainTables_ascii oneText_number (titledInput_apart _ _) ⟨rfl, rfl⟩
    (titledInput_stable _ _) (titledInput_stable _ _)).mpr titles

theorem link_graph_refused_titled :
    buildDatasetSemanticLinkGraph plainTables (fun _ => none) shortDigest (fun _ => "1.0")
      (titledInput "Sales Examples" "门店客流") = .error "semantic link manifest failed safe-output audit" := by
  have title : isExamplesTitle plainTables (fun _ => none) "Sales Examples" = true := by decide +kernel
  have apart := titledInput_apart "Sales Examples" "门店客流"
  have ready : (titledInput "Sales Examples" "门店客流").left.snapshot.status = "ready" ∧
      (titledInput "Sales Examples" "门店客流").right.snapshot.status = "ready" := ⟨rfl, rfl⟩
  have refused : ¬ datasetSemanticLinkManifestIsSafe (fun _ => "1.0") (graphValue (matchCrossDatasetSemanticGraph
      shortDigest (linkMatchInput plainTables (fun _ => none) shortDigest (titledInput "Sales Examples" "门店客流")))) := by
    rw [graph_isSafe_titles plainTables_ascii oneText_number apart (titledInput_stable _ _) (titledInput_stable _ _)]
    change ¬ (isExamplesTitle plainTables (fun _ => none) "Sales Examples" = false ∧ _)
    simp [title]
  simp only [buildDatasetSemanticLinkGraph, if_neg apart, ready, ne_eq, not_true_eq_false, or_self, if_false, if_neg refused]

end Titled

end DataMax.SemanticLink
