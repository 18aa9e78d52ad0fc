import DataMax.Domain.Identifier
import DataMax.Json.Value
import DataMax.Library.Numbering

/-! The packages of published videos and their versions: what one publication does to the tables
when nothing else happens. -/

namespace DataMax.Publishing

open Domain Json Library

/-- The columns that tell two packages apart. -/
structure PackageKey where
  tenantId : TenantId
  assistantRunId : Uuid
  documentId : Uuid
  packageKey : String
  deriving DecidableEq

structure VideoPackage where
  id : Uuid
  key : PackageKey
  datasetId : DatasetId
  currentVersionId : Option Uuid
  createdAt : DateTime
  updatedAt : DateTime

structure VideoVersion where
  id : Uuid
  packageId : Uuid
  versionNo : Int
  versionFingerprint : String
  lifecycleState : String
  artifactManifest : Value
  createdAt : DateTime

/-- What is published, with the ids that are drawn for it. -/
structure Publication where
  key : PackageKey
  datasetId : DatasetId
  versionFingerprint : String
  lifecycleState : String
  artifactManifest : Value
  createdAt : DateTime
  packageId : Uuid
  versionId : Uuid

structure Tables where
  packages : List VideoPackage
  versions : List VideoVersion

namespace Tables

variable (tables : Tables)

def findPackage (key : PackageKey) : Option VideoPackage := tables.packages.find? fun package => package.key = key

/-- The package as the first statement leaves it: a new one, or the one there is. -/
def upsert (publication : Publication) : VideoPackage := match tables.findPackage publication.key with
  | some package => { package with datasetId := publication.datasetId, updatedAt := publication.createdAt }
  | none => {
    id := publication.packageId
    key := publication.key
    datasetId := publication.datasetId
    currentVersionId := none
    createdAt := publication.createdAt
    updatedAt := publication.createdAt }

def versionsOf (packageId : Uuid) : List VideoVersion :=
  tables.versions.filter fun version => version.packageId = packageId

def findVersion (package : VideoPackage) (fingerprint : String) : Option VideoVersion :=
  (tables.versionsOf package.id).find? fun version => version.versionFingerprint = fingerprint

/-- `coalesce(max(version_no), 0) + 1` -/
def nextVersionNo (package : VideoPackage) : Int := highest VideoVersion.versionNo (tables.versionsOf package.id) + 1

/-- The row replaces the one with its key, or is added. -/
def putPackage (package : VideoPackage) : List VideoPackage :=
  if (tables.findPackage package.key).isSome then
    tables.packages.map fun other => if other.key = package.key then package else other
  else tables.packages ++ [package]

def store (package : VideoPackage) (version : VideoVersion) (added : Bool) : Tables where
  packages := tables.putPackage package
  versions := if added then tables.versions ++ [version] else tables.versions

end Tables

def Publication.version (publication : Publication) (package : VideoPackage) (versionNo : Int) : VideoVersion where
  id := publication.versionId
  packageId := package.id
  versionNo := versionNo
  versionFingerprint := publication.versionFingerprint
  lifecycleState := publication.lifecycleState
  artifactManifest := publication.artifactManifest
  createdAt := publication.createdAt

/-- `set current_version_id = $3, updated_at = $4` -/
def VideoPackage.pointTo (package : VideoPackage) (version : VideoVersion) (updatedAt : DateTime) : VideoPackage :=
  { package with currentVersionId := some version.id, updatedAt := updatedAt }

/-- The package and the version that a publication leads to, and whether the version is new. -/
def Tables.outcome (tables : Tables) (publication : Publication) : VideoPackage × VideoVersion × Bool :=
  let package := tables.upsert publication
  match tables.findVersion package publication.versionFingerprint with
  | some version => (package.pointTo version publication.createdAt, version, false)
  | none =>
    let version := publication.version package (tables.nextVersionNo package)
    (package.pointTo version publication.createdAt, version, true)

def createNextVersion (tables : Tables) (publication : Publication) : Tables × VideoPackage × VideoVersion :=
  let (package, version, added) := tables.outcome publication
  (tables.store package version added, package, version)

/-- The tables after these publications, one after the other. -/
def published (publications : List Publication) : Tables :=
  publications.foldl (fun tables publication => (createNextVersion tables publication).1) ⟨[], []⟩

/-- What holds of the tables between publications: a package has versions, which are numbered in the order
they were published and told apart by their fingerprints, and it points to one of them. -/
structure WellFormed (tables : Tables) : Prop where
  keys : (tables.packages.map VideoPackage.key).Nodup
  ids : (tables.packages.map VideoPackage.id).Nodup
  owned : ∀ version ∈ tables.versions, version.packageId ∈ tables.packages.map VideoPackage.id
  numbered : ∀ packageId, Numbered VideoVersion.versionNo (tables.versionsOf packageId)
  fingerprints : ∀ packageId, ((tables.versionsOf packageId).map VideoVersion.versionFingerprint).Nodup
  current : ∀ package ∈ tables.packages, ∃ version ∈ tables.versionsOf package.id,
    package.currentVersionId = some version.id

section WellFormedness

variable {tables : Tables} {publication : Publication} {package : VideoPackage} {version : VideoVersion}
  {added : Bool} {packageId : Uuid}

theorem findPackage_found {key : PackageKey} (found : tables.findPackage key = some package) :
    package ∈ tables.packages ∧ package.key = key := by
  rw [Tables.findPackage] at found
  exact ⟨List.mem_of_find?_eq_some found, by simpa using List.find?_some found⟩

@[simp] theorem upsert_key : (tables.upsert publication).key = publication.key := by
  rw [Tables.upsert]
  split
  · rename_i found
    exact (findPackage_found found).2
  · rfl

/-- The package is one of the packages by its id, or it is new. -/
theorem upsert_cases (tables : Tables) (publication : Publication) :
    (∃ known ∈ tables.packages, tables.findPackage publication.key = some known ∧ known.key = publication.key ∧
      (tables.upsert publication).id = known.id) ∨
    tables.findPackage publication.key = none ∧ (tables.upsert publication).id = publication.packageId := by
  rw [Tables.upsert]
  split
  · rename_i known found
    exact .inl ⟨known, (findPackage_found found).1, found, (findPackage_found found).2, rfl⟩
  · rename_i absent
    exact .inr ⟨absent, rfl⟩

theorem findPackage_eq_none {key : PackageKey} :
    tables.findPackage key = none ↔ key ∉ tables.packages.map VideoPackage.key := by
  simp [Tables.findPackage]

theorem WellFormed.findPackage_unique (wellFormed : WellFormed tables) {known other : VideoPackage}
    (found : tables.findPackage package.key = some known) (inside : other ∈ tables.packages)
    (same : other.key = package.key) : other = known := by
  obtain ⟨listed, keyed⟩ := findPackage_found found
  exact List.inj_on_of_nodup_map wellFormed.keys inside listed (same.trans keyed.symm)

/-- A row that is put keeps the ids and the keys that are there. -/
theorem WellFormed.putPackage (wellFormed : WellFormed tables)
    (known : ∀ other, tables.findPackage package.key = some other → package.id = other.id) :
    tables.putPackage package = tables.packages ++ [package] ∧ tables.findPackage package.key = none ∨
      (tables.putPackage package).map VideoPackage.id = tables.packages.map VideoPackage.id ∧
      (tables.putPackage package).map VideoPackage.key = tables.packages.map VideoPackage.key ∧
      package.id ∈ tables.packages.map VideoPackage.id := by
  rw [Tables.putPackage]
  cases found : tables.findPackage package.key with
  | none => exact .inl ⟨if_neg (by simp), rfl⟩
  | some row =>
    right
    rw [Option.isSome_some, if_pos rfl, List.map_map, List.map_map]
    refine ⟨List.map_congr_left fun other inside => ?_, List.map_congr_left fun other inside => ?_, ?_⟩
    · by_cases same : other.key = package.key
      · rw [Function.comp_apply, if_pos same, known row found, wellFormed.findPackage_unique found inside same]
      · rw [Function.comp_apply, if_neg same]
    · by_cases same : other.key = package.key <;> simp [same]
    · rw [known row found]
      exact List.mem_map_of_mem (findPackage_found found).1

theorem mem_putPackage {other : VideoPackage} (inside : other ∈ tables.putPackage package) :
    other = package ∨ other ∈ tables.packages := by
  rw [Tables.putPackage] at inside
  split at inside
  · obtain ⟨row, listed, rfl⟩ := List.mem_map.mp inside
    split
    · exact .inl rfl
    · exact .inr listed
  · exact (List.mem_append.mp inside).symm.imp_left List.mem_singleton.mp

theorem versionsOf_store (own : version.packageId = package.id) :
    (tables.store package version added).versionsOf packageId =
      if added ∧ packageId = package.id then tables.versionsOf packageId ++ [version]
      else tables.versionsOf packageId := by
  cases added with
  | false => rfl
  | true =>
    simp only [Tables.versionsOf, Tables.store, if_true, List.filter_append, true_and]
    by_cases same : packageId = package.id
    · rw [if_pos same, List.filter_singleton, own, decide_eq_true same.symm]
      rfl
    · rw [if_neg same, List.filter_singleton, own, decide_eq_false (Ne.symm same)]
      exact List.append_nil _

theorem wellFormed_empty : WellFormed ⟨[], []⟩ where
  keys := List.nodup_nil
  ids := List.nodup_nil
  owned _ inside := nomatch inside
  numbered _ := numbered_nil
  fingerprints _ := List.nodup_nil
  current _ inside := nomatch inside

theorem outcome_package (tables : Tables) (publication : Publication) :
    (tables.outcome publication).1.id = (tables.upsert publication).id ∧
      (tables.outcome publication).1.key = publication.key := by
  rw [← @upsert_key tables, Tables.outcome]
  dsimp only
  split <;> exact ⟨rfl, rfl⟩

/-- What the version that is pointed to has to be. -/
structure IsNext (tables : Tables) (package : VideoPackage) (version : VideoVersion) (added : Bool) : Prop where
  packageId : version.packageId = package.id
  known : added = false → version ∈ tables.versionsOf package.id
  number : added = true → version.versionNo = (tables.versionsOf package.id).length + 1
  fingerprint : added = true →
    version.versionFingerprint ∉ (tables.versionsOf package.id).map VideoVersion.versionFingerprint

theorem WellFormed.nextVersionNo (wellFormed : WellFormed tables) (package : VideoPackage) :
    tables.nextVersionNo package = (tables.versionsOf package.id).length + 1 := by
  rw [Tables.nextVersionNo, (wellFormed.numbered package.id).highest]

theorem findVersion_eq_none {fingerprint : String} : tables.findVersion package fingerprint = none ↔
    fingerprint ∉ (tables.versionsOf package.id).map VideoVersion.versionFingerprint := by
  simp [Tables.findVersion]

theorem mem_versionsOf :
    version ∈ tables.versionsOf packageId ↔ version ∈ tables.versions ∧ version.packageId = packageId := by
  simp [Tables.versionsOf]

theorem WellFormed.outcome (wellFormed : WellFormed tables) (publication : Publication) :
    ∃ version added, tables.outcome publication =
        ((tables.upsert publication).pointTo version publication.createdAt, version, added) ∧
      IsNext tables (tables.upsert publication) version added := by
  rw [Tables.outcome]
  dsimp only
  split
  · rename_i version found
    have listed := List.mem_of_find?_eq_some found
    exact ⟨version, false, rfl, (mem_versionsOf.mp listed).2, fun _ => listed, nofun, nofun⟩
  · rename_i absent
    exact ⟨_, true, rfl, rfl, nofun, fun _ => wellFormed.nextVersionNo _, fun _ => findVersion_eq_none.mp absent⟩

theorem WellFormed.store (wellFormed : WellFormed tables) (next : IsNext tables package version added)
    (fresh : tables.findPackage package.key = none → package.id ∉ tables.packages.map VideoPackage.id)
    (known : ∀ other, tables.findPackage package.key = some other → package.id = other.id)
    (pointed : package.currentVersionId = some version.id) : WellFormed (tables.store package version added) := by
  have kept : tables.packages.map VideoPackage.id ⊆ (tables.putPackage package).map VideoPackage.id ∧
      package.id ∈ (tables.putPackage package).map VideoPackage.id := by
    rcases wellFormed.putPackage known with ⟨longer, _⟩ | ⟨ids, _, inside⟩
    · simp [longer]
    · rw [ids]
      exact ⟨fun _ listed => listed, inside⟩
  have grown (packageId : Uuid) {other : VideoVersion} (inside : other ∈ tables.versionsOf packageId) :
      other ∈ (tables.store package version added).versionsOf packageId := by
    rw [versionsOf_store next.packageId]
    split
    · exact List.mem_append_left _ inside
    · exact inside
  refine ⟨?_, ?_, ?_, ?_, ?_, ?_⟩
  · rcases wellFormed.putPackage known with ⟨longer, absent⟩ | ⟨_, keys, _⟩
    · rw [Tables.store, longer, List.map_append]
      exact List.nodup_append.mpr ⟨wellFormed.keys, List.nodup_singleton _, fun key inside other only same =>
        findPackage_eq_none.mp absent (List.mem_singleton.mp only ▸ same ▸ inside)⟩
    · rw [Tables.store, keys]
      exact wellFormed.keys
  · rcases wellFormed.putPackage known with ⟨longer, absent⟩ | ⟨ids, _, _⟩
    · rw [Tables.store, longer, List.map_append]
      exact List.nodup_append.mpr ⟨wellFormed.ids, List.nodup_singleton _, fun id inside other only same =>
        fresh absent (List.mem_singleton.mp only ▸ same ▸ inside)⟩
    · rw [Tables.store, ids]
      exact wellFormed.ids
  · intro other inside
    cases added with
    | false => exact kept.1 (wellFormed.owned other inside)
    | true =>
      rcases List.mem_append.mp inside with before | last
      · exact kept.1 (wellFormed.owned other before)
      · rw [List.mem_singleton.mp last, next.packageId]
        exact kept.2
  · intro packageId
    rw [versionsOf_store next.packageId]
    split
    · rename_i own
      exact (wellFormed.numbered packageId).concat (own.2 ▸ next.number own.1)
    · exact wellFormed.numbered packageId
  · intro packageId
    rw [versionsOf_store next.packageId]
    split
    · rename_i own
      rw [List.map_append]
      exact List.nodup_append.mpr ⟨wellFormed.fingerprints packageId, List.nodup_singleton _,
        fun fingerprint inside other only same =>
          next.fingerprint own.1 (own.2 ▸ List.mem_singleton.mp only ▸ same ▸ inside)⟩
    · exact wellFormed.fingerprints packageId
  · intro other inside
    rcases mem_putPackage inside with rfl | before
    · refine ⟨version, ?_, pointed⟩
      cases added with
      | false => exact grown _ (next.known rfl)
      | true => simp [versionsOf_store next.packageId]
    · obtain ⟨current, listed, points⟩ := wellFormed.current other before
      exact ⟨current, grown _ listed, points⟩

/-- A publication with an id of its own leaves the tables well formed. -/
theorem WellFormed.publish (wellFormed : WellFormed tables)
    (fresh : publication.packageId ∉ tables.packages.map VideoPackage.id) :
    WellFormed (createNextVersion tables publication).1 := by
  obtain ⟨version, added, result, next⟩ := wellFormed.outcome publication
  rw [createNextVersion, result]
  refine wellFormed.store ⟨next.packageId, next.known, next.number, next.fingerprint⟩ ?_ ?_ rfl
  · intro absent
    rcases upsert_cases tables publication with ⟨known, _, found, _⟩ | ⟨_, same⟩
    · rw [VideoPackage.pointTo, upsert_key, found] at absent
      cases absent
    · change (tables.upsert publication).id ∉ _
      rwa [same]
  · intro other found
    rcases upsert_cases tables publication with ⟨known, _, located, _, same⟩ | ⟨absent, _⟩
    · rw [VideoPackage.pointTo, upsert_key, located] at found
      cases found
      exact same
    · rw [VideoPackage.pointTo, upsert_key, absent] at found
      cases found

end WellFormedness

section Sequences

variable {publications : List Publication} {publication : Publication} {tables : Tables}

theorem published_concat (publications : List Publication) (publication : Publication) :
    published (publications ++ [publication]) = (createNextVersion (published publications) publication).1 := by
  rw [published, List.foldl_append]
  rfl

/-- The package with an id is the package of the publication that brought the id. -/
def Originates (publications : List Publication) (tables : Tables) : Prop :=
  ∀ package ∈ tables.packages, ∃ publication ∈ publications,
    publication.packageId = package.id ∧ publication.key = package.key

theorem origin_upsert (origin : Originates publications tables) (publication : Publication) :
    ∃ other ∈ publications ++ [publication], other.packageId = (tables.upsert publication).id ∧
      other.key = publication.key := by
  rcases upsert_cases tables publication with ⟨known, inside, _, keyed, same⟩ | ⟨_, same⟩
  · obtain ⟨other, listed, drawn⟩ := origin known inside
    rw [same, ← keyed]
    exact ⟨other, List.mem_append_left _ listed, drawn⟩
  · exact ⟨publication, by simp, same.symm, rfl⟩

theorem originates_publish (origin : Originates publications tables) (publication : Publication) :
    Originates (publications ++ [publication]) (createNextVersion tables publication).1 := by
  intro package inside
  rcases mem_putPackage inside with rfl | before
  · obtain ⟨ids, keys⟩ := outcome_package tables publication
    obtain ⟨other, listed, drawn, keyed⟩ := origin_upsert origin publication
    exact ⟨other, listed, drawn.trans ids.symm, keyed.trans keys.symm⟩
  · obtain ⟨other, listed, same⟩ := origin package before
    exact ⟨other, List.mem_append_left _ listed, same⟩

theorem published_wellFormed (distinct : (publications.map Publication.packageId).Nodup) :
    WellFormed (published publications) ∧ Originates publications (published publications) := by
  induction publications using List.reverseRecOn with
  | nil => exact ⟨wellFormed_empty, nofun⟩
  | append_singleton publications publication ih =>
    rw [List.map_append] at distinct
    obtain ⟨others, _, apart⟩ := List.nodup_append.mp distinct
    obtain ⟨wellFormed, origin⟩ := ih others
    rw [published_concat]
    refine ⟨wellFormed.publish fun clash => ?_, originates_publish origin publication⟩
    obtain ⟨package, inside, same⟩ := List.mem_map.mp clash
    obtain ⟨other, listed, drawn, _⟩ := origin package inside
    exact apart _ (List.mem_map_of_mem listed) publication.packageId (by simp) (drawn.trans same)

end Sequences

section Republishing

variable {tables : Tables} {publication : Publication} {package : VideoPackage} {version : VideoVersion}
  {key : PackageKey} {fingerprint : String}

/-- The version is the one with the fingerprint in the package with the key. -/
def Shows (tables : Tables) (key : PackageKey) (fingerprint : String) (version : VideoVersion) : Prop :=
  ∃ package ∈ tables.packages, package.key = key ∧ version ∈ tables.versionsOf package.id ∧
    version.versionFingerprint = fingerprint

theorem WellFormed.outcome_of_shows (wellFormed : WellFormed tables)
    (shows : Shows tables publication.key publication.versionFingerprint version) :
    (tables.outcome publication).2.1 = version := by
  obtain ⟨package, inside, keyed, listed, same⟩ := shows
  have id : (tables.upsert publication).id = package.id := by
    rcases upsert_cases tables publication with ⟨known, _, found, _, equal⟩ | ⟨absent, _⟩
    · have unique : package = known := by
        rw [← keyed] at found
        exact wellFormed.findPackage_unique found inside rfl
      rw [equal, unique]
    · exact absurd (keyed ▸ List.mem_map_of_mem inside) (findPackage_eq_none.mp absent)
  rw [Tables.outcome]
  dsimp only
  cases found : tables.findVersion (tables.upsert publication) publication.versionFingerprint with
  | some other =>
    have selected : other.versionFingerprint = publication.versionFingerprint := by
      rw [Tables.findVersion] at found
      simpa using List.find?_some found
    have present := List.mem_of_find?_eq_some found
    rw [id] at present
    exact List.inj_on_of_nodup_map (wellFormed.fingerprints package.id) present listed (selected.trans same.symm)
  | none =>
    refine absurd (List.mem_map.mpr ⟨version, ?_, same⟩) (findVersion_eq_none.mp found)
    rw [id]
    exact listed

/-- A package stays, under its id and its key. -/
theorem WellFormed.package_kept (wellFormed : WellFormed tables)
    (known : ∀ other, tables.findPackage package.key = some other → package.id = other.id) {other : VideoPackage}
    (inside : other ∈ tables.packages) :
    ∃ kept ∈ tables.putPackage package, kept.id = other.id ∧ kept.key = other.key := by
  rw [Tables.putPackage]
  split
  · rename_i present
    obtain ⟨row, found⟩ := Option.isSome_iff_exists.mp present
    by_cases same : other.key = package.key
    · refine ⟨package, List.mem_map.mpr ⟨other, inside, if_pos same⟩, ?_, same.symm⟩
      rw [known row found, wellFormed.findPackage_unique found inside same]
    · exact ⟨other, List.mem_map.mpr ⟨other, inside, if_neg same⟩, rfl, rfl⟩
  · exact ⟨other, List.mem_append_left _ inside, rfl, rfl⟩

theorem mem_putPackage_self : package ∈ tables.putPackage package := by
  rw [Tables.putPackage]
  split
  · rename_i present
    obtain ⟨row, found⟩ := Option.isSome_iff_exists.mp present
    obtain ⟨listed, same⟩ := findPackage_found found
    exact List.mem_map.mpr ⟨row, listed, if_pos same⟩
  · exact List.mem_append_right _ List.mem_cons_self

theorem outcome_known (tables : Tables) (publication : Publication) (other : VideoPackage)
    (found : tables.findPackage (tables.outcome publication).1.key = some other) :
    (tables.outcome publication).1.id = other.id := by
  obtain ⟨ids, keys⟩ := outcome_package tables publication
  rw [keys] at found
  rw [ids]
  rcases upsert_cases tables publication with ⟨known, _, located, _, same⟩ | ⟨absent, _⟩
  · rw [located] at found
    cases found
    exact same
  · rw [absent] at found
    cases found

theorem WellFormed.shows_kept (wellFormed : WellFormed tables) (shows : Shows tables key fingerprint version)
    (publication : Publication) : Shows (createNextVersion tables publication).1 key fingerprint version := by
  obtain ⟨package, inside, keyed, listed, same⟩ := shows
  obtain ⟨other, added, result, next⟩ := wellFormed.outcome publication
  have known := outcome_known tables publication
  rw [createNextVersion, result] at *
  obtain ⟨kept, present, id, key⟩ := wellFormed.package_kept known inside
  have own : other.packageId = ((tables.upsert publication).pointTo other publication.createdAt).id := next.packageId
  refine ⟨kept, present, key.trans keyed, ?_, same⟩
  dsimp only
  rw [id, versionsOf_store own]
  split
  · exact List.mem_append_left _ listed
  · exact listed

theorem WellFormed.shows_outcome (wellFormed : WellFormed tables) (publication : Publication) :
    Shows (createNextVersion tables publication).1 publication.key publication.versionFingerprint
      (tables.outcome publication).2.1 := by
  obtain ⟨_, keys⟩ := outcome_package tables publication
  have fingerprint : (tables.outcome publication).2.1.versionFingerprint = publication.versionFingerprint := by
    rw [Tables.outcome]
    dsimp only
    split
    · rename_i found
      rw [Tables.findVersion] at found
      simpa using List.find?_some found
    · rfl
  obtain ⟨version, added, result, next⟩ := wellFormed.outcome publication
  have own : version.packageId = ((tables.upsert publication).pointTo version publication.createdAt).id :=
    next.packageId
  refine ⟨(tables.outcome publication).1, mem_putPackage_self, keys, ?_, fingerprint⟩
  rw [createNextVersion, result]
  dsimp only
  rw [versionsOf_store own]
  cases added with
  | false => exact next.known rfl
  | true => simp [VideoPackage.pointTo]

/-- Publications under one key and fingerprint lead to one version, whatever is published between them. -/
theorem republished {earlier later : List Publication} {first second : Publication}
    (distinct : (later.map Publication.packageId).Nodup) (before : earlier ++ [first] <+: later)
    (keyed : first.key = second.key) (same : first.versionFingerprint = second.versionFingerprint) :
    ((published later).outcome second).2.1 = ((published earlier).outcome first).2.1 := by
  obtain ⟨between, rfl⟩ := before
  have shown : Shows (published (earlier ++ [first] ++ between)) second.key second.versionFingerprint
      ((published earlier).outcome first).2.1 := by
    rw [← keyed, ← same]
    induction between using List.reverseRecOn with
    | nil =>
      have wellFormed : WellFormed (published earlier) := by
        refine (published_wellFormed (distinct.sublist ?_)).1
        exact ((List.sublist_append_left earlier [first]).trans (List.sublist_append_left ..)).map _
      rw [List.append_nil, published_concat]
      exact wellFormed.shows_outcome first
    | append_singleton between publication ih =>
      rw [← List.append_assoc] at distinct ⊢
      have fewer := distinct.sublist ((List.sublist_append_left (earlier ++ [first] ++ between) [publication]).map _)
      rw [published_concat]
      exact (published_wellFormed fewer).1.shows_kept (ih fewer) publication
  exact (published_wellFormed distinct).1.outcome_of_shows shown

end Republishing

end DataMax.Publishing
