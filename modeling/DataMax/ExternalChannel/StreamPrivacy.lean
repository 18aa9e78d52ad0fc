import DataMax.ExternalChannel.StreamPayload
import DataMax.Json.Depth

/-! What a stream shows of an event is public at every depth. -/

namespace DataMax.ExternalChannel

open Domain Json Library

/-- A text that one of the public replacements made. -/
inductive Shown : String → Prop where
  | text (raw : String) : Shown (externalChannelPublicText raw)
  | stream (raw : String) : Shown (externalChannelPublicStreamText raw)
  | status (raw : String) : Shown (externalChannelPublicStatus raw)
  | kind (raw : String) : Shown (publicCardKind raw)
  | notice : Shown pendingPageNotice

section Cards

variable {support : CardSupport} {artifact preview : Bool}

/-- The keys that a card may show. -/
def CardKey (artifact preview : Bool) (key : String) : Prop :=
  isInternalKey key = false ∧ isPrunedKey artifact preview key = false

/-- A card after the first cleaning. -/
abbrev CleanCard : Option String → Value → Prop :=
  Throughout (fun key => isInternalKey key = false) (fun _ => Shown)

theorem publicCardMember_clean {key : String} {value cleaned : Value} (fine : CleanCard (some key) cleaned) :
    CleanCard (some key) (publicCardMember key value cleaned) := by
  unfold publicCardMember
  split
  · cases value.asStr with
    | none => exact fine
    | some status => exact .string (.status status)
  · split
    · cases value.asStr with
      | none => exact fine
      | some kind => exact .string (.kind kind)
    · exact fine

mutual

theorem publicCardValue_clean (support : CardSupport) :
    ∀ value, CleanCard none (externalChannelPublicCardValue support value)
  | .null => .null
  | .bool value => .bool
  | .number value => .number
  | .string text => .string (.text text)
  | .array items => .array (publicCardItems_clean support items)
  | .object entries => by
    have members := publicCardEntries_clean support entries
    rw [externalChannelPublicCardValue]
    cases missingPreviewUrl support entries with
    | none => exact .object (fun entry inside => (members entry inside).1) fun entry inside => (members entry inside).2
    | some url =>
      have added (entry : String × Value) (inside : entry ∈ SortedMap.insertEntry "preview_url"
          (.string (externalChannelPublicText url)) (publicCardEntries support entries)) :
          isInternalKey entry.1 = false ∧ CleanCard (some entry.1) entry.2 := by
        rcases SortedMap.mem_insertEntry inside with rfl | kept
        · have visible : isInternalKey "preview_url" = false := by decide +kernel
          exact ⟨visible, .string (.text url)⟩
        · exact members entry kept
      exact .object (fun entry inside => (added entry inside).1) fun entry inside => (added entry inside).2

theorem publicCardItems_clean (support : CardSupport) :
    ∀ items, ∀ item ∈ publicCardItems support items, CleanCard none item
  | [], item, inside => by cases inside
  | first :: rest, item, inside => by
    rw [publicCardItems, List.mem_cons] at inside
    rcases inside with rfl | later
    · exact publicCardValue_clean support first
    · exact publicCardItems_clean support rest item later

theorem publicCardEntries_clean (support : CardSupport) : ∀ entries, ∀ entry ∈ publicCardEntries support entries,
    isInternalKey entry.1 = false ∧ CleanCard (some entry.1) entry.2
  | [], entry, inside => by cases inside
  | (key, value) :: rest, entry, inside => by
    rw [publicCardEntries] at inside
    split at inside
    · exact publicCardEntries_clean support rest entry inside
    · rename_i visible
      rcases List.mem_cons.mp inside with rfl | later
      · exact ⟨Bool.eq_false_of_not_eq_true visible,
          publicCardMember_clean (publicCardValue_clean support value).anywhere⟩
      · exact publicCardEntries_clean support rest entry later

end

/-- A card as it is shown. -/
abbrev PublicCard (artifact preview : Bool) : Option String → Value → Prop :=
  Throughout (CardKey artifact preview) fun _ => Shown

mutual

theorem prune_public (artifact preview : Bool) : ∀ value, CleanCard none value →
    PublicCard artifact preview none (pruneExternalChannelPublicCardLinks artifact preview value)
  | .null, _ => .null
  | .bool value, _ => .bool
  | .number value, _ => .number
  | .string text, .string fine => .string fine
  | .array items, .array fine => .array (pruneItems_public artifact preview items fine)
  | .object entries, .object keys fine => by
    have members := pruneEntries_public artifact preview entries keys fine
    exact .object (fun entry inside => (members entry inside).1) fun entry inside => (members entry inside).2

theorem pruneItems_public (artifact preview : Bool) : ∀ items, (∀ item ∈ items, CleanCard none item) →
    ∀ item ∈ pruneItems artifact preview items, PublicCard artifact preview none item
  | [], _, item, inside => by cases inside
  | first :: rest, fine, item, inside => by
    rw [pruneItems, List.mem_cons] at inside
    rcases inside with rfl | later
    · exact prune_public artifact preview first (fine first List.mem_cons_self)
    · exact pruneItems_public artifact preview rest (fun item inside => fine item (List.mem_cons_of_mem _ inside)) item later

theorem pruneEntries_public (artifact preview : Bool) : ∀ entries, (∀ entry ∈ entries, isInternalKey entry.1 = false) →
    (∀ entry ∈ entries, CleanCard (some entry.1) entry.2) → ∀ entry ∈ pruneEntries artifact preview entries,
      CardKey artifact preview entry.1 ∧ PublicCard artifact preview (some entry.1) entry.2
  | [], _, _, entry, inside => by cases inside
  | (key, value) :: rest, keys, fine, entry, inside => by
    have others := pruneEntries_public artifact preview rest
      (fun entry inside => keys entry (List.mem_cons_of_mem _ inside))
      (fun entry inside => fine entry (List.mem_cons_of_mem _ inside)) entry
    rw [pruneEntries] at inside
    split at inside
    · exact others inside
    · rename_i kept
      rcases List.mem_cons.mp inside with rfl | later
      · have own : CleanCard none value := (fine (key, value) List.mem_cons_self).anywhere
        exact ⟨⟨keys (key, value) List.mem_cons_self, Bool.eq_false_of_not_eq_true kept⟩,
          (prune_public artifact preview value own).anywhere⟩
      · exact others later

end

theorem cardSummary_public (support : CardSupport) (card : Value) (artifact preview : Bool) :
    PublicCard artifact preview none (externalChannelPublicStreamCardSummary support card artifact preview) := by
  have whole := prune_public artifact preview _ (publicCardValue_clean support (support.enrichReportCard card))
  unfold externalChannelPublicStreamCardSummary
  simp only
  split
  · rename_i input pruned
    rw [pruned] at whole
    have member (entry : String × Value) (inside : entry ∈ (SortedMap.ofList (cardSummaryKeys.filterMap fun key =>
        (SortedMap.findEntry key input).map fun value => (key, value))).entries) : entry ∈ input := by
      obtain ⟨key, _, found⟩ := List.mem_filterMap.mp
        (SortedMap.mem_of_get?_ofList (SortedMap.mem_entries_iff.mp inside))
      obtain ⟨value, listed, same⟩ := Option.map_eq_some_iff.mp found
      cases same
      exact SortedMap.mem_of_findEntry listed
    exact .object (fun entry inside => (whole.entry (member entry inside)).1)
      fun entry inside => (whole.entry (member entry inside)).2
  · exact .null

end Cards

/-- A key that a payload may show, given the links that it allows. -/
structure PublicKey (artifact preview : Bool) (key : String) : Prop where
  visible : isInternalKey key = false
  artifactLink : artifact = true ∨ key ∉ "public_url" :: artifactLinkKeys
  previewLink : preview = true ∨ key ≠ "preview_url"

/-- A value whose keys are public at every depth, and whose display texts are shown ones. -/
abbrev PublicPart (artifact preview : Bool) : Option String → Value → Prop :=
  Throughout (PublicKey artifact preview)
    fun under text => under = some "display_text" ∨ under = some "text" → Shown text

theorem CardKey.publicKey {artifact preview : Bool} {key : String} (shown : CardKey artifact preview key) :
    PublicKey artifact preview key := by
  obtain ⟨visible, kept⟩ := shown
  simp only [isPrunedKey, Bool.or_eq_false_iff, Bool.and_eq_false_iff, Bool.not_eq_false'] at kept
  obtain ⟨⟨unlisted, artifactLink⟩, previewLink⟩ := kept
  refine ⟨visible, artifactLink.imp_right ?_, previewLink.imp_right ?_⟩
  · intro other inside
    rcases List.mem_cons.mp inside with same | listed
    · simp [same] at other
    · rw [List.contains_eq_mem, decide_eq_false_iff_not] at unlisted
      exact unlisted listed
  · intro other same
    simp [same] at other

theorem PublicCard.publicPart {artifact preview : Bool} {under : Option String} {card : Value}
    (shown : PublicCard artifact preview none card) : PublicPart artifact preview under card :=
  shown.anywhere.mono (fun _ => CardKey.publicKey) fun _ _ fine _ => fine

section Members

variable {Fine : String → Value → Prop} {except : List String} {key : String} {value : Value} {map : Map}

/-- The members of the map are fine, except those of some keys. -/
def MembersExcept (Fine : String → Value → Prop) (except : List String) (map : Map) : Prop :=
  ∀ key value, map.get? key = some value → key ∉ except → Fine key value

theorem MembersExcept.insert (members : MembersExcept Fine (key :: except) map) (fine : Fine key value) :
    MembersExcept Fine except (map.insert key value) := by
  intro other item found free
  rw [SortedMap.get?_insert] at found
  split at found
  · rename_i same
    cases found
    exact same ▸ fine
  · rename_i different
    exact members other item found (by simp [different, free])

theorem MembersExcept.erase (members : MembersExcept Fine (key :: except) map) :
    MembersExcept Fine except (map.erase key) := by
  intro other item found free
  rw [SortedMap.get?_erase] at found
  split at found
  · cases found
  · rename_i different
    exact members other item found (by simp [different, free])

theorem MembersExcept.setOrRemove {replacement : Option Value} (members : MembersExcept Fine (key :: except) map)
    (fine : ∀ value, replacement = some value → Fine key value) :
    MembersExcept Fine except (setOrRemove key replacement map) := by
  cases replacement with
  | none => exact members.erase
  | some value => exact members.insert (fine value rfl)

theorem MembersExcept.more (members : MembersExcept Fine except map) : MembersExcept Fine (key :: except) map :=
  fun other item found free => members other item found fun inside => free (List.mem_cons_of_mem key inside)

theorem MembersExcept.insertSome {added : Option Value} (members : MembersExcept Fine except map)
    (fine : ∀ value, added = some value → Fine key value) : MembersExcept Fine except (insertSome key added map) := by
  cases added with
  | none => exact members
  | some value => exact members.more.insert (fine value rfl)

theorem membersExcept_empty : MembersExcept Fine except .empty := by
  intro key value found
  cases found

theorem MembersExcept.eraseAll {keys : List String} (members : MembersExcept Fine except map) :
    MembersExcept Fine except (keys.foldl SortedMap.erase map) := by
  induction keys generalizing map with
  | nil => exact members
  | cons key rest ih => exact ih members.more.erase

end Members

section Payload

variable {support : CardSupport} {event : SseEvent} {key : String} {value : Value} {map : Map}

theorem get?_foldl_orInsert {entries : List (String × Value)} (found : map.get? key = some value) :
    (entries.foldl orInsert map).get? key = some value := by
  induction entries generalizing map with
  | nil => exact found
  | cons entry rest ih =>
    apply ih
    unfold orInsert
    split
    · exact found
    · rename_i missing
      rw [SortedMap.get?_insert_other _ _ (by rintro rfl; rw [missing] at found; cases found)]
      exact found

/-- The envelope's members are those of the payload. -/
theorem payload_get? (listed : (key, value) ∈ envelopeFields event) :
    (externalChannelSsePublicPayload event).get? key = some value := by
  have distinct : ((envelopeFields event).map (·.1)).Nodup := by simp [envelopeFields]
  have inside : (key, value) ∈ (externalChannelSseEnvelope event).entries := (SortedMap.mem_ofList distinct).mpr listed
  have found := SortedMap.mem_entries_iff.mp inside
  exact get?_foldl_orInsert found

/-- The payload without the key that removes duplicates. -/
def streamObject (event : SseEvent) : Map :=
  (externalChannelSsePublicPayload event).erase externalChannelPublicStreamDedupeKey

theorem streamObject_get? (listed : (key, value) ∈ envelopeFields event) :
    (streamObject event).get? key = some value := by
  have different : key ≠ externalChannelPublicStreamDedupeKey := by
    rintro rfl
    simp [envelopeFields, externalChannelPublicStreamDedupeKey] at listed
  rw [streamObject, SortedMap.get?_erase, if_neg different, payload_get? listed]

/-- A payload of the stream is compacted. -/
theorem streamPayload_eq : externalChannelPublicStreamPayload support (externalChannelSsePublicPayload event) =
    compactObject support (streamObject event) := by
  have schema : (streamObject event).get? "schema" = some (.string externalChannelSseSchemaV1) :=
    streamObject_get? (by simp [envelopeFields])
  rw [externalChannelPublicStreamPayload, compactExternalChannelPublicStreamPayload]
  exact if_pos (by rw [← streamObject, schema]; rfl)

/-- A value without keys, that is no text of a member that shows texts. -/
def IsScalar : Value → Prop
  | .array _ | .object _ => False
  | _ => True

theorem IsScalar.publicPart {artifact preview : Bool} (scalar : IsScalar value) (other : key ≠ "display_text" ∧ key ≠ "text") :
    PublicPart artifact preview (some key) value := by
  cases value with
  | null => exact .null
  | bool value => exact .bool
  | number value => exact .number
  | string text => exact .string fun shown => by simp [other] at shown
  | array items => exact scalar.elim
  | object entries => exact scalar.elim

theorem envelope_scalar (listed : (key, value) ∈ envelopeFields event) (other : key ≠ "data") : IsScalar value := by
  have option {Item : Type} (write : Item → Value) (scalar : ∀ item, IsScalar (write item)) (item : Option Item) :
      IsScalar (ofOption write item) := by
    cases item with
    | none => trivial
    | some item => exact scalar item
  have scalars : ∀ entry ∈ envelopeFields event, entry.1 = "data" ∨ IsScalar entry.2 := by
    simp only [envelopeFields, List.forall_mem_cons]
    exact ⟨.inr trivial, .inr trivial, .inr trivial,
      .inr (option (fun runId : UuidBytes => .string runId.text) (fun _ => trivial) _), .inr trivial, .inr trivial,
      .inr trivial, .inr trivial, .inr trivial, .inr (option .string (fun _ => trivial) _),
      .inr (option (fun seconds => .number (.posInt seconds)) (fun _ => trivial) _), .inl trivial, by simp⟩
  exact (scalars (key, value) listed).resolve_left other

/-- The keys of the envelope and those that the compaction writes. -/
def ownKeys : List String := ["schema", "event_id", "sequence", "assistant_run_id", "idempotency_key",
  "conversation_external_id", "phase", "status", "display_text", "status_url", "poll_after_seconds", "data", "card",
  "public_url", "artifact_links"]

/-- A member that may be shown. -/
structure PublicMember (artifact preview : Bool) (key : String) (value : Value) : Prop where
  allowed : PublicKey artifact preview key
  part : PublicPart artifact preview (some key) value
  card : key = "card" → PublicCard artifact preview none value

theorem shownText_shown (object : Map) : Shown (shownText support object) := by
  unfold shownText
  simp only
  split
  · exact .notice
  · exact .stream _

theorem shownCard_public {object : Map} {card : Value} (shown : shownCard support object = some card) :
    PublicCard (includeArtifactLink support object) (includePreviewLink object) none card := by
  obtain ⟨found, _⟩ := Option.filter_eq_some_iff.mp shown
  obtain ⟨raw, _, rfl⟩ := Option.map_eq_some_iff.mp found
  exact cardSummary_public support raw _ _

theorem shownPublicUrl_allowed {object : Map} {url : String} (shown : shownPublicUrl support object = some url) :
    includeArtifactLink support object = true := by
  unfold shownPublicUrl at shown
  split at shown
  · assumption
  · cases shown

/-- Links may be shown only where they are allowed; other own keys may always be. -/
theorem publicKey_of_own {artifact preview : Bool} (own : key ∈ ownKeys) (other : key ≠ "data")
    (links : key = "public_url" ∨ key = "artifact_links" → artifact = true) : PublicKey artifact preview key := by
  have visible : ∀ key ∈ ownKeys, key = "data" ∨ isInternalKey key = false := by decide +kernel
  have unlinked : ∀ key ∈ ownKeys, key = "public_url" ∨ key = "artifact_links" ∨
      key ∉ "public_url" :: artifactLinkKeys := by decide
  have unpreviewed : ∀ key ∈ ownKeys, key ≠ "preview_url" := by decide
  refine ⟨(visible key own).resolve_left other, ?_, .inr (unpreviewed key own)⟩
  rcases unlinked key own with url | urls | free
  · exact .inl (links (.inl url))
  · exact .inl (links (.inr urls))
  · exact .inr free

/-- The keys of the envelope whose values are never replaced by others. -/
def plainKeys : List String := ["schema", "event_id", "sequence", "assistant_run_id", "idempotency_key",
  "conversation_external_id", "phase", "status", "status_url", "poll_after_seconds"]

theorem exists_envelope_member (event : SseEvent) (plain : key ∈ plainKeys) :
    ∃ value, (key, value) ∈ envelopeFields event ∧ (streamObject event).get? key = some value := by
  have keys : ∀ key ∈ plainKeys, key ∈ (envelopeFields event).map (·.1) := by simp [plainKeys, envelopeFields]
  obtain ⟨⟨key, value⟩, listed, rfl⟩ := List.mem_map.mp (keys key plain)
  exact ⟨value, listed, streamObject_get? listed⟩

/-- The envelope comes before anything that could take its place. -/
theorem plain_public {artifact preview : Bool} {later : Option Value} (plain : key ∈ plainKeys)
    (first : ((streamObject event).get? key).or later = some value) : PublicMember artifact preview key value := by
  have own : ∀ key ∈ plainKeys, key ∈ ownKeys ∧ key ≠ "data" ∧ key ≠ "display_text" ∧ key ≠ "text" ∧
      key ≠ "public_url" ∧ key ≠ "artifact_links" ∧ key ≠ "card" := by decide
  obtain ⟨listed, noData, noDisplay, noText, noUrl, noUrls, noCard⟩ := own key plain
  obtain ⟨written, inside, found⟩ := exists_envelope_member event plain
  rw [found] at first
  cases first
  exact ⟨publicKey_of_own listed noData fun link => (link.elim noUrl noUrls).elim,
    (envelope_scalar inside noData).publicPart ⟨noDisplay, noText⟩, fun card => (noCard card).elim⟩

theorem firstOf_public {artifact preview : Bool} (key : String) (plain : key ∈ plainKeys) (value : Value)
    (first : firstOf support (streamObject event) key = some value) : PublicMember artifact preview key value := by
  rw [firstOf, Option.or_assoc] at first
  exact plain_public plain first

theorem card_public {artifact preview : Bool} (shown : PublicCard artifact preview none value) :
    PublicMember artifact preview "card" value :=
  ⟨publicKey_of_own (by decide) (by decide) (by simp), shown.publicPart, fun _ => shown⟩

theorem url_public {artifact preview : Bool} (allowed : artifact = true) (url : String) :
    PublicMember artifact preview "public_url" (.string url) ∧
      PublicMember artifact preview "artifact_links" (.array [.string url]) := by
  refine ⟨⟨publicKey_of_own (by decide) (by decide) fun _ => allowed, .string (by simp), by simp⟩,
    publicKey_of_own (by decide) (by decide) fun _ => allowed, .array ?_, by simp⟩
  exact List.forall_mem_singleton.mpr (.string (by simp))

/-- Members that the status of the event allows. -/
abbrev PublicMembers (support : CardSupport) (event : SseEvent) : List String → Map → Prop :=
  MembersExcept (PublicMember (includeArtifactLink support (streamObject event)) (includePreviewLink (streamObject event)))

theorem PublicMembers.copy {keys : List String} (plain : ∀ key ∈ keys, key ∈ plainKeys)
    (start : PublicMembers support event [] map) : PublicMembers support event [] (keys.foldl (fun data key =>
      insertSome key (((streamObject event).get? key).or ((rawData (streamObject event)).get key)) data) map) := by
  induction keys generalizing map with
  | nil => exact start
  | cons key rest ih =>
    exact ih (fun other inside => plain other (List.mem_cons_of_mem key inside))
      (start.insertSome fun value first => plain_public (plain key List.mem_cons_self) first)

theorem unlinkedData_public : PublicMembers support event [] (unlinkedData support (streamObject event)) := by
  have text : PublicMember (includeArtifactLink support (streamObject event)) (includePreviewLink (streamObject event))
      "text" (.string (shownText support (streamObject event))) :=
    ⟨⟨by decide +kernel, .inr (by decide), .inr (by decide)⟩, .string fun _ => shownText_shown _, by simp⟩
  refine MembersExcept.insertSome ?_ fun card shown => card_public (shownCard_public shown)
  refine MembersExcept.insertSome ?_ (firstOf_public "poll_after_seconds" (by decide))
  refine MembersExcept.insertSome ?_ (firstOf_public "status_url" (by decide))
  exact ((PublicMembers.copy (by decide) membersExcept_empty).more).insert text

/-- Everything in the data of a payload is public. -/
theorem compactData_public : PublicMembers support event [] (compactData support (streamObject event)) := by
  unfold compactData
  split
  · rename_i url shown
    have allowed := shownPublicUrl_allowed shown
    exact (unlinkedData_public.more.insert (url_public allowed url).1).more.insert (url_public allowed url).2
  · exact unlinkedData_public

/-- A member of the whole payload: the data, or a member that the payload did not take
over from the data. -/
def OwnMember (artifact preview : Bool) (key : String) (value : Value) : Prop :=
  key ∈ ownKeys → (key = "data" ∨ PublicKey artifact preview key) ∧ PublicPart artifact preview (some key) value ∧
    (key = "card" → PublicCard artifact preview none value)

theorem PublicMember.own {artifact preview : Bool} (shown : PublicMember artifact preview key value) :
    OwnMember artifact preview key value := fun _ => ⟨.inr shown.allowed, shown.part, shown.card⟩

theorem dataMap_public {artifact preview : Bool} {data : Map}
    (members : MembersExcept (PublicMember artifact preview) [] data) (under : Option String) :
    PublicPart artifact preview under (.ofMap data) := by
  have fine (entry : String × Value) (inside : entry ∈ data.entries) : PublicMember artifact preview entry.1 entry.2 :=
    members entry.1 entry.2 (SortedMap.mem_entries_iff.mp inside) List.not_mem_nil
  exact .object (fun entry inside => (fine entry inside).allowed) fun entry inside => (fine entry inside).part

theorem compactObject_public : MembersExcept (OwnMember (includeArtifactLink support (streamObject event))
    (includePreviewLink (streamObject event))) [] (compactObject support (streamObject event)) := by
  have start : MembersExcept (OwnMember (includeArtifactLink support (streamObject event))
      (includePreviewLink (streamObject event)))
      ["display_text", "card", "public_url", "artifact_links", "data"] (streamObject event) := by
    intro key value found free own
    have plain : ∀ key ∈ ownKeys, key ∉ ["display_text", "card", "public_url", "artifact_links", "data"] →
        key ∈ plainKeys := by decide
    exact (plain_public (plain key own free) ((Option.or_none ..).trans found)).own own
  have display : PublicMember (includeArtifactLink support (streamObject event))
      (includePreviewLink (streamObject event)) "display_text" (.string (shownText support (streamObject event))) :=
    ⟨publicKey_of_own (by decide) (by decide) (by simp), .string fun _ => shownText_shown _, by simp⟩
  refine MembersExcept.eraseAll (MembersExcept.insert ?_ fun _ =>
    ⟨.inl rfl, dataMap_public compactData_public _, by simp⟩)
  refine MembersExcept.setOrRemove (MembersExcept.setOrRemove (MembersExcept.setOrRemove ?_ ?_) ?_) ?_
  · refine MembersExcept.insertSome (MembersExcept.insertSome (start.insert display.own) ?_) ?_
    · exact fun value first => (firstOf_public "status_url" (by decide) value first).own
    · exact fun value first => (firstOf_public "poll_after_seconds" (by decide) value first).own
  · exact fun card shown => (card_public (shownCard_public shown)).own
  · intro value written
    obtain ⟨url, shown, rfl⟩ := Option.map_eq_some_iff.mp written
    exact (url_public (shownPublicUrl_allowed shown) url).1.own
  · intro value written
    obtain ⟨url, shown, rfl⟩ := Option.map_eq_some_iff.mp written
    exact (url_public (shownPublicUrl_allowed shown) url).2.own

theorem get?_eraseAll (keys : List String) (map : Map) (key : String) :
    (keys.foldl SortedMap.erase map).get? key = if key ∈ keys then none else map.get? key := by
  induction keys generalizing map with
  | nil => rfl
  | cons first rest ih =>
    rw [List.foldl_cons, ih, SortedMap.get?_erase]
    by_cases later : key ∈ rest
    · simp [later]
    · by_cases same : key = first
      · simp [same]
      · simp [later, same]

theorem get?_setOrRemove_other {other : String} (different : key ≠ other) (replacement : Option Value) :
    (setOrRemove other replacement map).get? key = map.get? key := by
  cases replacement with
  | none => rw [setOrRemove, SortedMap.get?_erase, if_neg different]
  | some value => exact SortedMap.get?_insert_other map value different

theorem get?_insertSome_other {other : String} (different : key ≠ other) (added : Option Value) :
    (insertSome other added map).get? key = map.get? key := by
  cases added with
  | none => rfl
  | some value => exact SortedMap.get?_insert_other map value different

/-- The text that is shown stands in the payload and in its data. -/
theorem compactObject_text (support : CardSupport) (object : Map) :
    (compactObject support object).get? "data" = some (.ofMap (compactData support object)) ∧
      (compactObject support object).get? "display_text" = some (.string (shownText support object)) ∧
      (compactData support object).get? "text" = some (.string (shownText support object)) := by
  have unlinked : (unlinkedData support object).get? "text" = some (.string (shownText support object)) := by
    rw [unlinkedData, get?_insertSome_other (by decide), get?_insertSome_other (by decide),
      get?_insertSome_other (by decide), SortedMap.get?_insert_self]
  refine ⟨?_, ?_, ?_⟩
  · rw [compactObject, get?_eraseAll, if_neg (by decide), SortedMap.get?_insert_self]
  · rw [compactObject, get?_eraseAll, if_neg (by decide), SortedMap.get?_insert_other _ _ (by decide), linkedObject,
      get?_setOrRemove_other (by decide), get?_setOrRemove_other (by decide), get?_setOrRemove_other (by decide),
      get?_insertSome_other (by decide), get?_insertSome_other (by decide), SortedMap.get?_insert_self]
  · unfold compactData
    split
    · rw [SortedMap.get?_insert_other _ _ (by decide), SortedMap.get?_insert_other _ _ (by decide), unlinked]
    · exact unlinked

end Payload

section Promise

variable (support : CardSupport) (event : SseEvent)

/-- The payload that a stream shows of an event. -/
def streamedPayload : Map := externalChannelPublicStreamPayload support (externalChannelSsePublicPayload event)

/-- The links of the artifact may be shown. -/
def allowsArtifactLink : Bool := includeArtifactLink support (streamObject event)

def allowsPreviewLink : Bool := includePreviewLink (streamObject event)

/-- The members that a stream shows are public, but for those that stand beside the
envelope because the data has them. -/
theorem streamedPayload_public : ∃ data text,
    (streamedPayload support event).get? "data" = some (.ofMap data) ∧
    (streamedPayload support event).get? "display_text" = some (.string text) ∧
    data.get? "text" = some (.string text) ∧ Shown text ∧
    (∀ key value, data.get? key = some value →
      PublicMember (allowsArtifactLink support event) (allowsPreviewLink event) key value) ∧
    (∀ key value, (streamedPayload support event).get? key = some value →
      OwnMember (allowsArtifactLink support event) (allowsPreviewLink event) key value) ∧
    ∀ key ∈ removedKeys, (streamedPayload support event).get? key = none := by
  obtain ⟨data, display, text⟩ := compactObject_text support (streamObject event)
  rw [streamedPayload, streamPayload_eq]
  refine ⟨_, _, data, display, text, shownText_shown _, ?_, ?_, ?_⟩
  · exact fun key value found => compactData_public key value found List.not_mem_nil
  · exact fun key value found => compactObject_public key value found List.not_mem_nil
  · intro key removed
    rw [compactObject, get?_eraseAll, if_pos removed]

end Promise

section Samples

def sampleSupport : CardSupport := ⟨id, fun _ => none⟩

/-- An event whose data has an internal member. -/
def sampleEvent : SseEvent where
  runId := none
  idempotencyKey := "key"
  conversationExternalId := "room-1"
  sequence := 50
  phase := "static_page"
  status := "processing"
  displayText := "..."
  statusUrl := none
  pollAfterSeconds := none
  data := .object [("codex_run", .string "internal")]

/-- The envelope calls a member data, and internal members of the data stand beside it. -/
theorem streamedPayload_shows_internal :
    ¬ PublicPart (allowsArtifactLink sampleSupport sampleEvent) (allowsPreviewLink sampleEvent) none
        (.ofMap (streamedPayload sampleSupport sampleEvent)) ∧
      isInternalKey "data" = true ∧ isInternalKey "codex_run" = true ∧
      ((streamedPayload sampleSupport sampleEvent).get? "data").isSome = true ∧
      (streamedPayload sampleSupport sampleEvent).get? "codex_run" = some (.string "internal") := by
  obtain ⟨data, _, _⟩ := compactObject_text sampleSupport (streamObject sampleEvent)
  have internal : isInternalKey "data" = true := by decide +kernel
  have listed : (streamObject sampleEvent).get? "codex_run" = some (.string "internal") := rfl
  rw [streamedPayload, streamPayload_eq]
  refine ⟨?_, internal, by decide +kernel, by rw [data]; rfl, ?_⟩
  · intro whole
    have inside : ("data", Value.ofMap (compactData sampleSupport (streamObject sampleEvent))) ∈
        (compactObject sampleSupport (streamObject sampleEvent)).entries := SortedMap.mem_entries_iff.mpr data
    have visible := (whole.entry inside).1.visible
    rw [internal] at visible
    cases visible
  · rw [compactObject, get?_eraseAll, if_neg (by decide), SortedMap.get?_insert_other _ _ (by decide), linkedObject,
      get?_setOrRemove_other (by decide), get?_setOrRemove_other (by decide), get?_setOrRemove_other (by decide),
      get?_insertSome_other (by decide), get?_insertSome_other (by decide),
      SortedMap.get?_insert_other _ _ (by decide), listed]

end Samples

end DataMax.ExternalChannel
