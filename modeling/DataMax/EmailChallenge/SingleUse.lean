import DataMax.EmailChallenge.Verification
import DataMax.Library.Run
import Mathlib.Data.List.Perm.Basic

/-! When a code is used at most once and guessed at most as often as allowed: the attempts
must not overtake each other between loading a challenge and writing the outcome. -/

namespace DataMax.EmailChallenge

open Domain Library

def DueUpdate.challenge : DueUpdate → EmailVerificationChallenge
  | .consume challenge _ => challenge
  | .count challenge => challenge

def DueUpdate.counts (challengeId : EmailVerificationChallengeId) : DueUpdate → Bool
  | .consume _ _ => false
  | .count challenge => challenge.id = challengeId

/-- The row of a challenge as it is inserted. -/
structure IsFresh (challenge : EmailVerificationChallenge) : Prop where
  unused : challenge.consumedAt = none
  untried : challenge.attemptCount = 0
  limited : 0 < challenge.maxAttempts

variable (service : EmailOtpService) (challenge : EmailVerificationChallenge)

/-- At most one attempt succeeds, and at most `max_attempts` wrong codes are compared. -/
structure UsedOnce (system : VerificationSystem) : Prop where
  successes : system.succeeded.count challenge.id ≤ 1
  guesses : (system.wrong.count challenge.id : Int) ≤ challenge.maxAttempts

/-- A wrong code is compared only while the attempts that the row counts, together with
those still to be counted, leave one; and a challenge is consumed only while its row is not. -/
def IsUnraced (system : VerificationSystem) : VerificationStep → Prop
  | .load _ => True
  | .verify attempt code now => ∀ loaded, system.loaded[attempt]? = some loaded → loaded.id = challenge.id →
      service.verifyChallenge loaded code now = .invalid →
        ∀ row, system.challenges.findIdentity challenge.id = some row →
          row.attemptCount + system.due.countP (DueUpdate.counts challenge.id) < challenge.maxAttempts
  | .write attempt => ∀ loaded now, system.due[attempt]? = some (.consume loaded now) → loaded.id = challenge.id →
      ∀ row, system.challenges.findIdentity challenge.id = some row → row.consumedAt = none

/-- The row and the attempts under way account for every outcome so far. -/
structure IsAccounted (system : VerificationSystem) : Prop where
  stored : ∃ row, system.challenges.findIdentity challenge.id = some row ∧ row.tenantId = challenge.tenantId ∧
    row.attemptCount + system.due.countP (DueUpdate.counts challenge.id) = system.wrong.count challenge.id ∧
    (row.consumedAt = none ↔ system.succeeded.count challenge.id = 0)
  loaded : ∀ row ∈ system.loaded, row.id = challenge.id → row.tenantId = challenge.tenantId
  due : ∀ update ∈ system.due, update.challenge.id = challenge.id → update.challenge.tenantId = challenge.tenantId

variable {service challenge} {system : VerificationSystem}

theorem lookup_member {lookup : ChallengeLookup} {challenges : ChallengeTable} {found : EmailVerificationChallenge}
    (run : lookup.run challenges = some found) : found ∈ challenges.rows := by
  cases lookup with
  | byId tenantId challengeId => exact List.mem_of_find?_eq_some run
  | latestActive tenantId emailNormalized purpose => exact (List.mem_filter.mp (firstBy_mem run)).1

/-- Verifying a code touches no row. -/
theorem perform_verify_challenges (attempt : Nat) (code : String) (now : DateTime) :
    (system.perform service (.verify attempt code now)).challenges = system.challenges := by
  simp only [VerificationSystem.perform]
  split
  · rfl
  · split <;> rfl

section Writing

variable {challenges : ChallengeTable} {row : EmailVerificationChallenge} {tenantId : TenantId}
  {challengeId : EmailVerificationChallengeId}

/-- An update of another challenge leaves the row alone. -/
theorem findIdentity_update_other {change : Change challengeSchema} (apart : challengeId ≠ challenge.id)
    (found : challenges.findIdentity challenge.id = some row) :
    (challenges.update (isChallenge tenantId challengeId) change).findIdentity challenge.id = some row := by
  obtain ⟨_, identity⟩ := Table.findIdentity_eq_some.mp found
  have unselected : isChallenge tenantId challengeId row = false := by
    apply decide_eq_false
    intro selected
    exact apart (selected.2.symm.trans identity)
  rw [Table.findIdentity_update, found, Option.map_some, Change.on, if_neg (by simp [unselected])]

theorem findIdentity_update_own {change : Change challengeSchema} (tenant : row.tenantId = tenantId)
    (found : challenges.findIdentity challenge.id = some row) :
    (challenges.update (isChallenge tenantId challenge.id) change).findIdentity challenge.id = some (change.apply row) := by
  obtain ⟨_, identity⟩ := Table.findIdentity_eq_some.mp found
  have selected : isChallenge tenantId challenge.id row = true := decide_eq_true ⟨tenant, identity⟩
  rw [Table.findIdentity_update, found, Option.map_some, Change.on, if_pos selected]

end Writing

/-- What a list counts before one of its members is taken out. -/
theorem countP_eraseIdx {Item : Type} (counts : Item → Bool) {items : List Item} {index : Nat} {item : Item}
    (found : items[index]? = some item) :
    items.countP counts = (items.eraseIdx index).countP counts + if counts item then 1 else 0 := by
  obtain ⟨inside, rfl⟩ := List.getElem?_eq_some_iff.mp found
  rw [← List.countP_cons]
  exact ((List.getElem_cons_eraseIdx_perm inside).countP_eq counts).symm

section Steps

variable (accounted : IsAccounted challenge system)

include accounted

theorem load_accounted (lookup : ChallengeLookup) : IsAccounted challenge (system.perform service (.load lookup)) := by
  simp only [VerificationSystem.perform]
  split
  · exact accounted
  · rename_i found run
    refine ⟨accounted.stored, ?_, accounted.due⟩
    intro row listed identity
    rcases List.mem_append.mp listed with earlier | new
    · exact accounted.loaded row earlier identity
    · obtain rfl := List.mem_singleton.mp new
      obtain ⟨stored, current, tenant, _⟩ := accounted.stored
      have own : system.challenges.findIdentity challenge.id = some row :=
        Table.findIdentity_eq_some.mpr ⟨lookup_member run, identity⟩
      cases current.symm.trans own
      exact tenant

theorem verify_accounted (attempt : Nat) (code : String) (now : DateTime) :
    IsAccounted challenge (system.perform service (.verify attempt code now)) := by
  have fewer : ∀ row ∈ system.loaded.eraseIdx attempt, row.id = challenge.id → row.tenantId = challenge.tenantId :=
    fun row listed => accounted.loaded row (List.mem_of_mem_eraseIdx listed)
  simp only [VerificationSystem.perform]
  split
  · exact accounted
  · rename_i loaded found
    have member := List.mem_of_getElem? found
    split
    · refine ⟨?_, fewer, ?_⟩
      · simpa [List.countP_append, DueUpdate.counts] using accounted.stored
      · intro update listed
        rcases List.mem_append.mp listed with earlier | new
        · exact accounted.due update earlier
        · obtain rfl := List.mem_singleton.mp new
          exact accounted.loaded loaded member
    · refine ⟨?_, fewer, ?_⟩
      · obtain ⟨row, current, tenant, counted, consumed⟩ := accounted.stored
        refine ⟨row, current, tenant, ?_, consumed⟩
        by_cases own : loaded.id = challenge.id
        · simp only [List.countP_append, List.count_append, DueUpdate.counts, List.countP_singleton,
            List.count_singleton, own, decide_true, beq_self_eq_true, if_true]
          omega
        · simpa [DueUpdate.counts, own, List.count_singleton] using counted
      · intro update listed
        rcases List.mem_append.mp listed with earlier | new
        · exact accounted.due update earlier
        · obtain rfl := List.mem_singleton.mp new
          exact accounted.loaded loaded member
    all_goals exact ⟨accounted.stored, fewer, accounted.due⟩

theorem write_accounted (attempt : Nat) : IsAccounted challenge (system.perform service (.write attempt)) := by
  have fewer : ∀ update ∈ system.due.eraseIdx attempt, update.challenge.id = challenge.id →
      update.challenge.tenantId = challenge.tenantId :=
    fun update listed => accounted.due update (List.mem_of_mem_eraseIdx listed)
  obtain ⟨row, current, tenant, counted, consumed⟩ := accounted.stored
  simp only [VerificationSystem.perform]
  split
  · exact accounted
  · rename_i loaded now found
    have same := accounted.due _ (List.mem_of_getElem? found)
    have split := countP_eraseIdx (DueUpdate.counts challenge.id) found
    simp only [DueUpdate.counts, Bool.false_eq_true, if_false, Nat.add_zero] at split
    refine ⟨?_, accounted.loaded, fewer⟩
    by_cases own : loaded.id = challenge.id
    · have changed := @findIdentity_update_own _ _ _ _ (becomeConsumed now) (tenant.trans (same own).symm) current
      rw [markConsumed, own]
      refine ⟨(becomeConsumed now).apply row, changed, tenant, by rw [← split]; exact counted, ?_⟩
      simp [becomeConsumed]
    · refine ⟨row, findIdentity_update_other own current, tenant, by rw [← split]; exact counted, ?_⟩
      simpa [own, List.count_singleton] using consumed
  · rename_i loaded found
    have same := accounted.due _ (List.mem_of_getElem? found)
    have split := countP_eraseIdx (DueUpdate.counts challenge.id) found
    refine ⟨?_, accounted.loaded, fewer⟩
    by_cases own : loaded.id = challenge.id
    · have changed := @findIdentity_update_own _ _ _ _ becomeCounted (tenant.trans (same own).symm) current
      rw [incrementAttemptCount, own]
      refine ⟨becomeCounted.apply row, changed, tenant, ?_, consumed⟩
      simp only [DueUpdate.counts, own, decide_true, if_true] at split
      simp only [becomeCounted]
      omega
    · refine ⟨row, findIdentity_update_other own current, tenant, ?_, consumed⟩
      simp only [DueUpdate.counts, own, decide_false, Bool.false_eq_true, if_false, Nat.add_zero] at split
      rw [← split]
      exact counted

theorem perform_accounted (step : VerificationStep) : IsAccounted challenge (system.perform service step) := by
  cases step with
  | load lookup => exact load_accounted accounted lookup
  | verify attempt code now => exact verify_accounted accounted attempt code now
  | write attempt => exact write_accounted accounted attempt

/-- One step keeps the limits exactly when it overtakes no other attempt. -/
theorem perform_usedOnce_iff (limits : UsedOnce challenge system) (step : VerificationStep) :
    UsedOnce challenge (system.perform service step) ↔ IsUnraced service challenge system step := by
  obtain ⟨row, current, tenant, counted, consumed⟩ := accounted.stored
  obtain ⟨successes, guesses⟩ := limits
  cases step with
  | load lookup =>
    have kept : UsedOnce challenge (system.perform service (.load lookup)) := by
      simp only [VerificationSystem.perform]
      split <;> exact ⟨successes, guesses⟩
    exact iff_of_true kept trivial
  | verify attempt code now =>
    cases found : system.loaded[attempt]? with
    | none =>
      have kept : system.perform service (.verify attempt code now) = system := by
        simp only [VerificationSystem.perform, found]
      rw [kept]
      exact iff_of_true ⟨successes, guesses⟩ fun loaded present => by simp [found] at present
    | some loaded =>
      have guessed (own : loaded.id = challenge.id) (invalid : service.verifyChallenge loaded code now = .invalid) :
          (system.perform service (.verify attempt code now)).wrong.count challenge.id =
            system.wrong.count challenge.id + 1 := by
        simp [VerificationSystem.perform, found, invalid, own]
      have unguessed (other : ¬ (loaded.id = challenge.id ∧ service.verifyChallenge loaded code now = .invalid)) :
          (system.perform service (.verify attempt code now)).wrong.count challenge.id =
            system.wrong.count challenge.id := by
        simp only [VerificationSystem.perform, found]
        split
        · rfl
        · rename_i invalid
          have apart : loaded.id ≠ challenge.id := fun own => other ⟨own, invalid⟩
          simp [apart]
        all_goals rfl
      have kept : (system.perform service (.verify attempt code now)).succeeded = system.succeeded := by
        simp only [VerificationSystem.perform, found]
        split <;> rfl
      constructor
      · intro limits other present own invalid stored same
        cases found.symm.trans present
        cases current.symm.trans same
        have bound := limits.guesses
        rw [guessed own invalid] at bound
        omega
      · intro unraced
        refine ⟨kept ▸ successes, ?_⟩
        by_cases counts : loaded.id = challenge.id ∧ service.verifyChallenge loaded code now = .invalid
        · have bound := unraced loaded found counts.1 counts.2 row current
          rw [guessed counts.1 counts.2]
          omega
        · rw [unguessed counts]
          exact guesses
  | write attempt =>
    have kept : (system.perform service (.write attempt)).wrong = system.wrong := by
      simp only [VerificationSystem.perform]
      split <;> rfl
    by_cases consumes : ∃ loaded now, system.due[attempt]? = some (.consume loaded now) ∧ loaded.id = challenge.id
    · obtain ⟨loaded, now, found, own⟩ := consumes
      have succeeded : (system.perform service (.write attempt)).succeeded = system.succeeded ++ [challenge.id] := by
        simp [VerificationSystem.perform, found, own]
      constructor
      · intro limits other later present _ stored same
        cases current.symm.trans same
        have bound := limits.successes
        rw [succeeded, List.count_append, List.count_singleton_self] at bound
        exact consumed.mpr (by omega)
      · intro unraced
        have first := consumed.mp (unraced loaded now found own row current)
        refine ⟨?_, kept ▸ guesses⟩
        rw [succeeded, List.count_append, first, List.count_singleton_self]
    · refine iff_of_true ⟨?_, kept ▸ guesses⟩ fun loaded now found own => absurd ⟨loaded, now, found, own⟩ consumes
      simp only [VerificationSystem.perform]
      split
      · exact successes
      · rename_i loaded now found
        have apart : loaded.id ≠ challenge.id := fun own => consumes ⟨loaded, now, found, own⟩
        simpa [apart] using successes
      · exact successes

end Steps

theorem start_accounted {challenges : ChallengeTable} (stored : challenge ∈ challenges.rows) (fresh : IsFresh challenge) :
    IsAccounted challenge (.start challenges) where
  stored := ⟨challenge, Table.findIdentity_eq_some.mpr ⟨stored, rfl⟩, rfl, by simp [VerificationSystem.start, fresh.untried],
    by simp [VerificationSystem.start, fresh.unused]⟩
  loaded := by simp [VerificationSystem.start]
  due := by simp [VerificationSystem.start]

/-- A code is used at most once and guessed at most as often as allowed in exactly the runs
in which no attempt overtakes another one. -/
theorem used_once_iff_unraced (service : EmailOtpService) (challenges : ChallengeTable)
    (challenge : EmailVerificationChallenge) (steps : List VerificationStep)
    (stored : challenge ∈ challenges.rows) (fresh : IsFresh challenge) :
    Always (VerificationSystem.perform service) (UsedOnce challenge) (.start challenges) steps ↔
      Guarded (VerificationSystem.perform service) (IsUnraced service challenge) (.start challenges) steps := by
  have limited := fresh.limited
  have initial : UsedOnce challenge (.start challenges) :=
    ⟨by simp [VerificationSystem.start], by simp [VerificationSystem.start]; omega⟩
  have kept (system : VerificationSystem) (step : VerificationStep) (accounted : IsAccounted challenge system) :
      IsAccounted challenge (system.perform service step) := perform_accounted accounted step
  have exact_step (system : VerificationSystem) (step : VerificationStep) (accounted : IsAccounted challenge system)
      (limits : UsedOnce challenge system) :
      UsedOnce challenge (system.perform service step) ↔ IsUnraced service challenge system step :=
    perform_usedOnce_iff accounted limits step
  exact always_iff_guarded _ kept exact_step (start_accounted stored fresh) initial steps

section Samples

/-- The hash of the code A1B2C3D4, sent to a user to log in. -/
def sampleHash : String := "f92ad201367594ead714c637d1ca07ec51ff599b24d54bd6cf194a687c8a752d"

def sampleService : EmailOtpService where
  pepper := "pepper"
  sha256Hex text := if text = "pepper:user@example.com:login:A1B2C3D4" then sampleHash else ""

def sampleChallenge : EmailVerificationChallenge where
  id := ⟨"challenge"⟩
  tenantId := ⟨"tenant"⟩
  emailNormalized := "user@example.com"
  purpose := .login
  codeHash := sampleHash
  attemptCount := 0
  maxAttempts := 5
  expiresAt := 600
  consumedAt := none
  metadata := .null
  createdAt := 0

def sampleTable : ChallengeTable where
  rows := [sampleChallenge]
  identities := List.nodup_singleton _
  keys := List.nodup_singleton _

def sampleLookup : ChallengeLookup := .latestActive ⟨"tenant"⟩ "user@example.com" .login

/-- A code that is entered once is used once. -/
theorem single_attempt_used_once : Always (VerificationSystem.perform sampleService) (UsedOnce sampleChallenge)
    (.start sampleTable) [.load sampleLookup, .verify 0 "A1B2C3D4" 60, .write 0] := by
  have valid : sampleService.verifyChallenge sampleChallenge "A1B2C3D4" 60 = .valid := by decide +kernel
  refine (used_once_iff_unraced sampleService sampleTable sampleChallenge _ List.mem_cons_self
    ⟨rfl, rfl, by decide⟩).mpr ?_
  refine (guarded_cons ..).mpr ⟨trivial, (guarded_cons ..).mpr ⟨?_, (guarded_cons ..).mpr ⟨?_, guarded_nil _ _ _⟩⟩⟩
  · intro loaded present _ invalid
    cases present
    rw [valid] at invalid
    cases invalid
  · intro loaded now present _ row stored
    rw [perform_verify_challenges] at stored
    cases stored
    rfl

/-- Two attempts that load the challenge before either has consumed it both succeed. -/
theorem overlapping_attempts_reuse_code : ¬ UsedOnce sampleChallenge
    ([.load sampleLookup, .load sampleLookup, .verify 0 "A1B2C3D4" 60, .verify 0 "A1B2C3D4" 60, .write 0,
      .write 0].foldl (VerificationSystem.perform sampleService) (.start sampleTable)) := by
  intro once
  have twice := once.successes
  revert twice
  decide +kernel

end Samples

end DataMax.EmailChallenge
