import DataMax.Library.Run
import DataMax.Publishing.VideoPackages
import Mathlib.Logic.Function.Basic

/-! Publications of videos at the same time. The first statement of each locks its package until the
end, so that what they do together is what they do one after the other. -/

namespace DataMax.Publishing

open Domain Json Library

inductive Phase where
  | begun
  | locked (package : VideoPackage)
  | missing (package : VideoPackage)
  | numbered (package : VideoPackage) (versionNo : Int)
  | written (package : VideoPackage) (version : VideoVersion) (added : Bool)
  | returned (package : VideoPackage) (version : VideoVersion)
  | failed

/-- The package as the open transaction has it. -/
def Phase.held : Phase → Option VideoPackage
  | .locked package | .missing package | .numbered package _ | .written package _ _ => some package
  | .begun | .returned _ _ | .failed => none

def Phase.isOver : Phase → Bool
  | .returned _ _ | .failed => true
  | _ => false

structure Call where
  publication : Publication
  phase : Phase

/-- The committed tables, who holds the lock of which package, and the calls so far. -/
structure VideoStore where
  tables : Tables
  locks : PackageKey → Option Nat
  calls : Nat → Option Call

inductive Action where
  | call (caller : Nat) (publication : Publication)
  | upsert (caller : Nat)
  | find (caller : Nat)
  | miss (caller : Nat)
  | number (caller : Nat)
  | insert (caller : Nat)
  | refuse (caller : Nat)
  | commit (caller : Nat) (answered : Bool)
  | fail (caller : Nat)

namespace VideoStore

variable (store : VideoStore)

def setPhase (caller : Nat) (publication : Publication) (phase : Phase) : VideoStore :=
  { store with calls := Function.update store.calls caller (some ⟨publication, phase⟩) }

def lock (caller : Nat) (publication : Publication) : VideoStore :=
  { store with locks := Function.update store.locks publication.key (some caller) }

def release (caller : Nat) (publication : Publication) : VideoStore :=
  { store with locks :=
      if store.locks publication.key = some caller then Function.update store.locks publication.key none
      else store.locks }

/-- The unique indexes refuse the version. -/
def Taken (tables : Tables) (package : VideoPackage) (publication : Publication) (versionNo : Int) : Prop :=
  ∃ version ∈ tables.versions, version.packageId = package.id ∧
    (version.versionNo = versionNo ∨ version.versionFingerprint = publication.versionFingerprint)

/-- One statement of one call. Every statement reads what is committed when it begins, and the rows of its
own transaction; the ids that a call draws are nobody else's. -/
inductive Step (store : VideoStore) : Action → VideoStore → Prop where
  | call (unknown : store.calls caller = none)
      (own : ∀ other call, store.calls other = some call → call.publication.packageId ≠ publication.packageId) :
      Step store (.call caller publication) (store.setPhase caller publication .begun)
  | upsert (called : store.calls caller = some ⟨publication, .begun⟩)
      (unlocked : store.locks publication.key = none) :
      Step store (.upsert caller)
        ((store.lock caller publication).setPhase caller publication (.locked (store.tables.upsert publication)))
  | find (called : store.calls caller = some ⟨publication, .locked package⟩)
      (found : store.tables.findVersion package publication.versionFingerprint = some version) :
      Step store (.find caller)
        (store.setPhase caller publication (.written (package.pointTo version publication.createdAt) version false))
  | miss (called : store.calls caller = some ⟨publication, .locked package⟩)
      (absent : store.tables.findVersion package publication.versionFingerprint = none) :
      Step store (.miss caller) (store.setPhase caller publication (.missing package))
  | number (called : store.calls caller = some ⟨publication, .missing package⟩) :
      Step store (.number caller)
        (store.setPhase caller publication (.numbered package (store.tables.nextVersionNo package)))
  | insert (called : store.calls caller = some ⟨publication, .numbered package versionNo⟩)
      (free : ¬ Taken store.tables package publication versionNo) :
      Step store (.insert caller)
        (store.setPhase caller publication
          (.written (package.pointTo (publication.version package versionNo) publication.createdAt)
            (publication.version package versionNo) true))
  | refuse (called : store.calls caller = some ⟨publication, .numbered package versionNo⟩)
      (taken : Taken store.tables package publication versionNo) :
      Step store (.refuse caller) ((store.release caller publication).setPhase caller publication .failed)
  | commit (called : store.calls caller = some ⟨publication, .written package version added⟩) :
      Step store (.commit caller answered)
        ({ store.release caller publication with tables := store.tables.store package version added }.setPhase caller
          publication (if answered then .returned package version else .failed))
  | fail (called : store.calls caller = some ⟨publication, phase⟩) (unfinished : phase = .begun ∨ phase.held.isSome) :
      Step store (.fail caller) ((store.release caller publication).setPhase caller publication .failed)

/-- What an open transaction knows is what the tables would tell it now. -/
def Fine (tables : Tables) (call : Call) : Prop := match call.phase with
  | .locked package => package = tables.upsert call.publication
  | .missing package => package = tables.upsert call.publication ∧
      tables.findVersion package call.publication.versionFingerprint = none
  | .numbered package versionNo => package = tables.upsert call.publication ∧
      tables.findVersion package call.publication.versionFingerprint = none ∧ versionNo = tables.nextVersionNo package
  | .written package version added => tables.outcome call.publication = (package, version, added)
  | _ => True

/-- The committed publications, in the order of their commits: the tables are what these lead to one after the other,
and every answer is the one that its publication gets at its place. -/
structure Serial (store : VideoStore) (done : List Publication) : Prop where
  tables : store.tables = published done
  distinct : (done.map Publication.packageId).Nodup
  drawn : ∀ publication ∈ done, ∃ caller phase, store.calls caller = some ⟨publication, phase⟩ ∧ phase.isOver
  own : ∀ first second call other, store.calls first = some call → store.calls second = some other →
    call.publication.packageId = other.publication.packageId → first = second
  holds : ∀ caller call, store.calls caller = some call → call.phase.held.isSome →
    store.locks call.publication.key = some caller
  fine : ∀ caller call, store.calls caller = some call → Fine store.tables call
  answers : ∀ caller publication package version, store.calls caller = some ⟨publication, .returned package version⟩ →
    ∃ earlier, earlier ++ [publication] <+: done ∧
      (createNextVersion (published earlier) publication).2 = (package, version)

section Locality

variable {tables : Tables} {package : VideoPackage} {version : VideoVersion} {added : Bool} {call : Call}

theorem findPackage_store {key : PackageKey} (apart : key ≠ package.key) :
    (tables.store package version added).findPackage key = tables.findPackage key := by
  rw [Tables.findPackage, Tables.store, Tables.putPackage]
  split
  · have unmoved : (tables.packages.find? fun other => decide
        ((if other.key = package.key then package else other).key = key)) = tables.findPackage key := by
      refine congrArg (tables.packages.find? ·) (funext fun other => ?_)
      split
      · rename_i same
        rw [same]
      · rfl
    have moved : (tables.packages.find? fun other => decide (other.key = key)).map
        (fun other => if other.key = package.key then package else other) = tables.findPackage key := by
      cases found : tables.findPackage key with
      | none => rw [Tables.findPackage] at found; rw [found]; rfl
      | some row =>
        have keyed := (findPackage_found found).2
        rw [Tables.findPackage] at found
        rw [found, Option.map_some, if_neg (keyed ▸ apart)]
    rw [List.find?_map]
    change ((tables.packages.find? fun other => decide
        ((if other.key = package.key then package else other).key = key)).map _) = _
    rw [unmoved]
    exact moved
  · rw [List.find?_append, List.find?_singleton, if_neg (by simpa using Ne.symm apart), Option.or_none]
    rfl

/-- A publication that another one does not touch has the same outcome after it. -/
theorem Fine.after (fine : Fine tables call) (own : version.packageId = package.id)
    (apart : call.publication.key ≠ package.key) (distinct : (tables.upsert call.publication).id ≠ package.id) :
    Fine (tables.store package version added) call := by
  obtain ⟨publication, phase⟩ := call
  have same : (tables.store package version added).upsert publication = tables.upsert publication := by
    rw [Tables.upsert, findPackage_store apart, Tables.upsert]
  have versions : (tables.store package version added).versionsOf (tables.upsert publication).id =
      tables.versionsOf (tables.upsert publication).id := by
    rw [versionsOf_store own, if_neg fun both => distinct both.2]
  have found (fingerprint : String) : (tables.store package version added).findVersion (tables.upsert publication)
      fingerprint = tables.findVersion (tables.upsert publication) fingerprint := by
    rw [Tables.findVersion, versions, Tables.findVersion]
  have number : (tables.store package version added).nextVersionNo (tables.upsert publication) =
      tables.nextVersionNo (tables.upsert publication) := by
    rw [Tables.nextVersionNo, versions, Tables.nextVersionNo]
  cases phase with
  | locked held => exact Eq.trans fine same.symm
  | missing held =>
    have known : held = tables.upsert publication := fine.1
    subst known
    exact ⟨same.symm, (found _).trans fine.2⟩
  | numbered held versionNo =>
    have known : held = tables.upsert publication := fine.1
    subst known
    exact ⟨same.symm, (found _).trans fine.2.1, fine.2.2.trans number.symm⟩
  | written held written fresh =>
    have unchanged : (tables.store package version added).outcome publication = tables.outcome publication := by
      rw [Tables.outcome, same, found, number, Tables.outcome]
    exact unchanged.trans fine
  | _ => trivial

end Locality

section Interleaving

variable {store next : VideoStore} {action : Action} {done : List Publication} {publication : Publication}
  {package : VideoPackage} {version : VideoVersion} {added : Bool} {caller : Nat} {phase : Phase} {versionNo : Int}

theorem Serial.wellFormed (serial : Serial store done) : WellFormed store.tables := by
  rw [serial.tables]
  exact (published_wellFormed serial.distinct).1

/-- A step that commits nothing. -/
theorem Serial.move (serial : Serial store done)
    (active : ∀ call, store.calls caller = some call → call.phase.isOver = false)
    (own : ∀ other call, other ≠ caller → store.calls other = some call →
      call.publication.packageId ≠ publication.packageId)
    (tables : next.tables = store.tables)
    (moved : next.calls = Function.update store.calls caller (some ⟨publication, phase⟩))
    (locks : ∀ other key, other ≠ caller → store.locks key = some other → next.locks key = some other)
    (holds : phase.held.isSome → next.locks publication.key = some caller)
    (fine : Fine store.tables ⟨publication, phase⟩)
    (unanswered : ∀ package version, phase ≠ .returned package version) :
    Serial next done where
  tables := tables.trans serial.tables
  distinct := serial.distinct
  drawn other listed := by
    obtain ⟨author, phase, called, ended⟩ := serial.drawn other listed
    have apart : author ≠ caller := by
      rintro rfl
      rw [active _ called] at ended
      cases ended
    exact ⟨author, phase, by rw [moved, Function.update_of_ne apart, called], ended⟩
  own first second call other held found same := by
    rcases moved_cases moved held with ⟨rfl, rfl⟩ | ⟨apart, earlier⟩ <;>
      rcases moved_cases moved found with ⟨rfl, rfl⟩ | ⟨different, known⟩
    · rfl
    · exact absurd same.symm (own second other different known)
    · exact absurd same (own first call apart earlier)
    · exact serial.own first second call other earlier known same
  holds other call held active := by
    rcases moved_cases moved held with ⟨rfl, rfl⟩ | ⟨apart, earlier⟩
    · exact holds active
    · exact locks other _ apart (serial.holds other call earlier active)
  fine other call held := by
    rw [tables]
    rcases moved_cases moved held with ⟨_, rfl⟩ | ⟨_, earlier⟩
    · exact fine
    · exact serial.fine other call earlier
  answers other asked package version held := by
    rcases moved_cases moved held with ⟨_, same⟩ | ⟨_, earlier⟩
    · cases same
      exact absurd rfl (unanswered package version)
    · exact serial.answers other asked package version earlier

/-- Two open transactions have different packages. -/
theorem Serial.packages_apart (serial : Serial store done) {other : Call} {another : Nat}
    (called : store.calls caller = some ⟨publication, phase⟩) (found : store.calls another = some other)
    (apart : other.publication.key ≠ publication.key) :
    (store.tables.upsert other.publication).id ≠ (store.tables.upsert publication).id := by
  have origin := (published_wellFormed serial.distinct).2
  rw [← serial.tables] at origin
  have drawn {caller : Nat} {publication : Publication} {phase : Phase}
      (called : store.calls caller = some ⟨publication, phase⟩) : ∃ author call, store.calls author = some call ∧
        call.publication.packageId = (store.tables.upsert publication).id ∧
        call.publication.key = publication.key := by
    obtain ⟨source, listed, same, keyed⟩ := origin_upsert origin publication
    rcases List.mem_append.mp listed with earlier | last
    · obtain ⟨author, phase, held, _⟩ := serial.drawn source earlier
      exact ⟨author, _, held, same, keyed⟩
    · rw [List.mem_singleton.mp last] at same keyed
      exact ⟨caller, _, called, same, keyed⟩
  intro equal
  obtain ⟨first, call, held, drew, keyed⟩ := drawn called
  obtain ⟨second, call', held', drew', keyed'⟩ := drawn found
  have one := serial.own first second call call' held held' (drew.trans (equal.symm.trans drew'.symm))
  rw [one, held'] at held
  cases held
  exact apart (keyed'.symm.trans keyed)

/-- The unique indexes never refuse what a transaction has numbered. -/
theorem Serial.not_taken (serial : Serial store done)
    (called : store.calls caller = some ⟨publication, .numbered package versionNo⟩) :
    ¬ Taken store.tables package publication versionNo := by
  obtain ⟨_, absent, number⟩ := serial.fine caller _ called
  intro taken
  obtain ⟨version, inside, own, same | same⟩ := taken
  · have listed : ∃ version ∈ store.tables.versionsOf package.id, version.versionNo = versionNo :=
      ⟨version, mem_versionsOf.mpr ⟨inside, own⟩, same⟩
    have range := ((serial.wellFormed.numbered package.id).mem_iff).mp listed
    rw [number, serial.wellFormed.nextVersionNo] at range
    omega
  · exact findVersion_eq_none.mp absent (List.mem_map.mpr ⟨version, mem_versionsOf.mpr ⟨inside, own⟩, same⟩)

theorem release_locks {other : Nat} {key : PackageKey} (apart : other ≠ caller)
    (held : store.locks key = some other) :
    (store.release caller publication).locks key = some other := by
  rw [release]
  dsimp only
  split
  · rename_i locked
    by_cases same : key = publication.key
    · rw [same, locked] at held
      exact absurd (Option.some.inj held).symm apart
    · rw [Function.update_of_ne same, held]
  · exact held

/-- A commit does what its publication does alone. -/
theorem Serial.commit (serial : Serial store done) (answered : Bool)
    (called : store.calls caller = some ⟨publication, .written package version added⟩) :
    Serial ({ store.release caller publication with tables := store.tables.store package version added }.setPhase
      caller publication (if answered then .returned package version else .failed)) (done ++ [publication]) := by
  have outcome : store.tables.outcome publication = (package, version, added) := serial.fine caller _ called
  have result : createNextVersion store.tables publication =
      (store.tables.store package version added, package, version) := by
    rw [createNextVersion, outcome]
  obtain ⟨ids, keys⟩ := outcome_package store.tables publication
  rw [outcome] at ids keys
  have own : version.packageId = package.id := by
    obtain ⟨other, fresh, same, next⟩ := serial.wellFormed.outcome publication
    rw [outcome] at same
    cases same
    exact next.packageId
  have ended : (if answered then Phase.returned package version else .failed).isOver = true := by
    cases answered <;> rfl
  have unfinished {other : Nat} {phase : Phase} {earlier : Publication}
      (held : store.calls other = some ⟨earlier, phase⟩) (ended : phase.isOver = true) : other ≠ caller := by
    rintro rfl
    rw [called] at held
    cases held
    cases ended
  refine ⟨?_, ?_, ?_, ?_, ?_, ?_, ?_⟩
  · rw [published_concat, ← serial.tables, result]
    rfl
  · rw [List.map_append]
    refine List.nodup_append.mpr ⟨serial.distinct, List.nodup_singleton _, fun id listed other only same => ?_⟩
    obtain ⟨earlier, inside, rfl⟩ := List.mem_map.mp listed
    obtain ⟨author, phase, held, ended⟩ := serial.drawn earlier inside
    exact unfinished held ended (serial.own author caller _ _ held called (same.trans (List.mem_singleton.mp only)))
  · intro earlier listed
    rcases List.mem_append.mp listed with inside | last
    · obtain ⟨author, phase, held, ended⟩ := serial.drawn earlier inside
      exact ⟨author, phase, (Function.update_of_ne (unfinished held ended) ..).trans held, ended⟩
    · rw [List.mem_singleton.mp last]
      exact ⟨caller, _, Function.update_self .., ended⟩
  · intro first second call other held found same
    rcases moved_cases rfl held with ⟨rfl, rfl⟩ | ⟨_, earlier⟩ <;>
      rcases moved_cases rfl found with ⟨rfl, rfl⟩ | ⟨_, known⟩
    · rfl
    · exact serial.own first second _ other called known same
    · exact serial.own first second call _ earlier called same
    · exact serial.own first second call other earlier known same
  · intro other call held active
    rcases moved_cases rfl held with ⟨_, rfl⟩ | ⟨apart, earlier⟩
    · cases answered <;> cases active
    · exact release_locks apart (serial.holds other call earlier active)
  · intro other call held
    rcases moved_cases rfl held with ⟨_, rfl⟩ | ⟨apart, earlier⟩
    · cases answered <;> trivial
    · cases free : call.phase.held with
      | none =>
        obtain ⟨asked, phase⟩ := call
        cases phase with
        | begun | returned | failed => trivial
        | _ => cases free
      | some package =>
        have locked := serial.holds other call earlier (by rw [free]; rfl)
        have different : call.publication.key ≠ publication.key := by
          intro same
          rw [same, serial.holds caller _ called rfl] at locked
          exact apart (Option.some.inj locked).symm
        refine (serial.fine other call earlier).after own (keys ▸ different) ?_
        rw [ids]
        exact serial.packages_apart called earlier different
  · intro other asked shown current held
    rcases moved_cases rfl held with ⟨_, same⟩ | ⟨_, earlier⟩
    · cases answered with
      | false => cases same
      | true =>
        cases same
        exact ⟨done, List.prefix_rfl, by rw [← serial.tables, result]⟩
    · obtain ⟨shorter, before, same⟩ := serial.answers other asked shown current earlier
      exact ⟨shorter, before.trans (List.prefix_append ..), same⟩

theorem Serial.step (serial : Serial store done) (taken : Step store action next) :
    ∃ grown, done <+: grown ∧ Serial next grown := by
  have others {caller : Nat} {publication : Publication} {phase : Phase}
      (called : store.calls caller = some ⟨publication, phase⟩) : ∀ other call, other ≠ caller →
        store.calls other = some call → call.publication.packageId ≠ publication.packageId :=
    fun other call apart held same => apart (serial.own other caller call _ held called same)
  have active {caller : Nat} {publication : Publication} {phase : Phase}
      (called : store.calls caller = some ⟨publication, phase⟩) (running : phase.isOver = false) :
      ∀ call, store.calls caller = some call → call.phase.isOver = false := by
    intro call held
    rw [called] at held
    cases held
    exact running
  cases taken with
  | call unknown own =>
    refine ⟨done, List.prefix_rfl, serial.move (fun call held => ?_)
      (fun other call _ held => own other call held) rfl rfl (fun _ _ _ locked => locked)
      (fun held => absurd held Bool.false_ne_true) trivial (by simp)⟩
    rw [unknown] at held
    cases held
  | @upsert caller publication called unlocked =>
    refine ⟨done, List.prefix_rfl, serial.move (active called rfl) (others called) rfl rfl
      (fun other key _ locked => ?_) (fun _ => Function.update_self ..) rfl (by simp)⟩
    have apart : key ≠ publication.key := by
      rintro rfl
      rw [unlocked] at locked
      cases locked
    exact (Function.update_of_ne apart ..).trans locked
  | @find caller publication package version called found =>
    have known : package = store.tables.upsert publication := serial.fine caller _ called
    refine ⟨done, List.prefix_rfl, serial.move (active called rfl) (others called) rfl rfl
      (fun _ _ _ locked => locked) (fun _ => serial.holds caller _ called rfl) ?_ (by simp)⟩
    change store.tables.outcome publication = _
    rw [Tables.outcome, ← known, found]
  | @miss caller publication package called absent =>
    exact ⟨done, List.prefix_rfl, serial.move (active called rfl) (others called) rfl rfl
      (fun _ _ _ locked => locked) (fun _ => serial.holds caller _ called rfl)
      ⟨serial.fine caller _ called, absent⟩ (by simp)⟩
  | @number caller publication package called =>
    obtain ⟨known, absent⟩ := serial.fine caller _ called
    exact ⟨done, List.prefix_rfl, serial.move (active called rfl) (others called) rfl rfl
      (fun _ _ _ locked => locked) (fun _ => serial.holds caller _ called rfl) ⟨known, absent, rfl⟩ (by simp)⟩
  | @insert caller publication package versionNo called free =>
    obtain ⟨known, absent, number⟩ := serial.fine caller _ called
    refine ⟨done, List.prefix_rfl, serial.move (active called rfl) (others called) rfl rfl
      (fun _ _ _ locked => locked) (fun _ => serial.holds caller _ called rfl) ?_ (by simp)⟩
    change store.tables.outcome publication = _
    dsimp only at known absent number
    rw [Tables.outcome, ← known, absent, number]
  | refuse called taken => exact absurd taken (serial.not_taken called)
  | commit called => exact ⟨_, List.prefix_append .., serial.commit _ called⟩
  | fail called unfinished =>
    refine ⟨done, List.prefix_rfl, serial.move (active called ?_) (others called) rfl rfl
      (fun other key apart locked => release_locks apart locked) (fun held => absurd held Bool.false_ne_true) trivial
      (by simp)⟩
    rcases unfinished with rfl | open_
    · rfl
    · rename_i phase
      cases phase with
      | returned | failed => cases open_
      | _ => rfl

end Interleaving

section Runs

/-- Nothing is published, and nobody has called. -/
def start : VideoStore := ⟨⟨[], []⟩, fun _ => none, fun _ => none⟩

variable {store later : VideoStore} {actions more : List Action} {done : List Publication}

theorem not_called (caller : Nat) (call : Call) : start.calls caller ≠ some call :=
  Option.some_ne_none call ∘ Eq.symm

theorem serial_start : Serial start [] where
  tables := rfl
  distinct := List.nodup_nil
  drawn _ listed := nomatch listed
  own _ _ _ _ held := absurd held (not_called _ _)
  holds _ _ held := absurd held (not_called _ _)
  fine _ _ held := absurd held (not_called _ _)
  answers _ _ _ _ held := absurd held (not_called _ _)

theorem Serial.run (serial : Serial store done) (run : Run Step store actions later) :
    ∃ grown, done <+: grown ∧ Serial later grown := by
  induction run with
  | nil => exact ⟨done, List.prefix_rfl, serial⟩
  | snoc earlier taken ih =>
    obtain ⟨grown, longer, reached⟩ := ih
    obtain ⟨last, longest, final⟩ := reached.step taken
    exact ⟨last, longer.trans longest, final⟩

/-- The call was answered with the package and the version. -/
def Answered (store : VideoStore) (caller : Nat) (publication : Publication) (package : VideoPackage)
    (version : VideoVersion) : Prop :=
  store.calls caller = some ⟨publication, .returned package version⟩

/-- Publications at the same time have the effects and the answers of publications in one order, which later
publications only make longer. -/
theorem publications_serial (run : Run Step start actions store) (onward : Run Step store more later) :
    ∃ done grown, done <+: grown ∧ store.tables = published done ∧ later.tables = published grown ∧
      (grown.map Publication.packageId).Nodup ∧ ∀ caller publication package version,
        later.Answered caller publication package version → ∃ earlier, earlier ++ [publication] <+: grown ∧
          (createNextVersion (published earlier) publication).2 = (package, version) := by
  obtain ⟨done, _, serial⟩ := serial_start.run run
  obtain ⟨grown, longer, final⟩ := serial.run onward
  exact ⟨done, grown, longer, serial.tables, final.tables, final.distinct, final.answers⟩

/-- A video that two workers publish, each with a package id of its own. -/
def video (packageId : Uuid) : Publication where
  key := ⟨⟨"tenant"⟩, ⟨"run"⟩, ⟨"document"⟩, "video"⟩
  datasetId := ⟨"dataset"⟩
  versionFingerprint := "fingerprint"
  lifecycleState := "published_version_ready"
  artifactManifest := .null
  createdAt := 0
  packageId := packageId
  versionId := packageId

/-- The second worker waits for the first one and finds its version. -/
theorem shared_run : ∃ store package later version, Run Step start
      [.call 0 (video ⟨"a"⟩), .call 1 (video ⟨"b"⟩), .upsert 0, .miss 0, .number 0, .insert 0, .commit 0 true,
        .upsert 1, .find 1, .commit 1 true] store ∧
    store.Answered 0 (video ⟨"a"⟩) package version ∧ store.Answered 1 (video ⟨"b"⟩) later version := by
  refine ⟨_, _, _, _, .head (.call rfl ?_) (.head (.call rfl ?_) (.head (.upsert rfl rfl) (.head (.miss rfl rfl)
    (.head (.number rfl) (.head (.insert rfl ?_) (.head (.commit rfl) (.head (.upsert rfl rfl) (.head (.find rfl rfl)
    (.head (.commit rfl) .nil))))))))), rfl, rfl⟩
  · intro other call held
    exact absurd held (not_called other call)
  · intro other call held
    rcases moved_cases rfl held with ⟨_, rfl⟩ | ⟨_, earlier⟩
    · decide
    · exact absurd earlier (not_called other call)
  · rintro ⟨version, inside, _⟩
    cases inside

theorem publications_serial_shared : ∃ store : VideoStore, ∃ grown, store.tables = published grown ∧
    (grown.map Publication.packageId).Nodup ∧ ∀ caller publication package version,
      store.Answered caller publication package version → ∃ earlier, earlier ++ [publication] <+: grown ∧
        (createNextVersion (published earlier) publication).2 = (package, version) := by
  obtain ⟨store, _, _, _, run, _⟩ := shared_run
  obtain ⟨_, grown, _, _, tables, distinct, answers⟩ := publications_serial run .nil
  exact ⟨store, grown, tables, distinct, answers⟩

/-- At any time the versions of every package are numbered without a gap, told apart by their fingerprints, and the
package points to one of them; no transaction runs into a unique index, and calls that ask for one fingerprint
under one key get one version. -/
theorem published_versions_agree (run : Run Step start actions store) :
    WellFormed store.tables ∧
    (∀ caller publication package versionNo,
      store.calls caller = some ⟨publication, .numbered package versionNo⟩ →
        ¬ Taken store.tables package publication versionNo) ∧
    ∀ first second publication other package otherPackage version otherVersion,
      store.Answered first publication package version → store.Answered second other otherPackage otherVersion →
      publication.key = other.key → publication.versionFingerprint = other.versionFingerprint →
        version = otherVersion := by
  obtain ⟨done, _, serial⟩ := serial_start.run run
  refine ⟨serial.wellFormed, fun _ _ _ _ called => serial.not_taken called, ?_⟩
  have ordered {publication other : Publication} {earlier last : List Publication}
      (behind : last ++ [other] <+: done) (before : earlier ++ [publication] <+: last ++ [other])
      (keyed : publication.key = other.key) (same : publication.versionFingerprint = other.versionFingerprint) :
      ((published last).outcome other).2.1 = ((published earlier).outcome publication).2.1 := by
    rcases List.prefix_concat_iff.mp before with equal | shorter
    · obtain ⟨rfl, one⟩ := List.append_inj' equal rfl
      cases one
      rfl
    · have distinct := serial.distinct.sublist (((List.prefix_append last [other]).trans behind).sublist.map _)
      exact republished distinct shorter keyed same
  intro first second publication other package otherPackage version otherVersion answered again keyed same
  obtain ⟨earlier, placed, got⟩ := serial.answers first publication package version answered
  obtain ⟨last, behind, received⟩ := serial.answers second other otherPackage otherVersion again
  have one : ((published earlier).outcome publication).2.1 = version := congrArg Prod.snd got
  have two : ((published last).outcome other).2.1 = otherVersion := congrArg Prod.snd received
  rw [← one, ← two]
  rcases List.prefix_or_prefix_of_prefix placed behind with before | after
  · exact (ordered behind before keyed same).symm
  · exact ordered placed after keyed.symm same.symm

theorem published_versions_agree_shared : ∃ store : VideoStore, ∃ package later version, WellFormed store.tables ∧
    store.Answered 0 (video ⟨"a"⟩) package version ∧ store.Answered 1 (video ⟨"b"⟩) later version ∧
      ∀ other otherVersion, store.Answered 1 (video ⟨"b"⟩) other otherVersion → version = otherVersion := by
  obtain ⟨store, package, later, version, run, first, second⟩ := shared_run
  obtain ⟨wellFormed, _, agree⟩ := published_versions_agree run
  exact ⟨store, package, later, version, wellFormed, first, second,
    fun _ _ again => agree 0 1 _ _ _ _ _ _ first again rfl rfl⟩

end Runs

end VideoStore

end DataMax.Publishing
