import DataMax.Domain.Identifier
import DataMax.Domain.Text
import DataMax.Json.Value
import DataMax.Library.Table

/-! One-time codes sent by email: the stored challenges, and the attempts that load a
challenge, compare a code with it and write the outcome back. -/

namespace DataMax.EmailChallenge

open Domain Json Library

abbrev EmailVerificationChallengeId := Uuid

inductive AuthChallengePurpose where
  | accountCreate
  | login
  | recoverKey
  | bindEmail
  | rotateKey
  deriving DecidableEq

def AuthChallengePurpose.asStr : AuthChallengePurpose → String
  | .accountCreate => "account_create"
  | .login => "login"
  | .recoverKey => "recover_key"
  | .bindEmail => "bind_email"
  | .rotateKey => "rotate_key"

structure EmailVerificationChallenge where
  id : EmailVerificationChallengeId
  tenantId : TenantId
  emailNormalized : String
  purpose : AuthChallengePurpose
  codeHash : String
  attemptCount : Int
  maxAttempts : Int
  expiresAt : DateTime
  consumedAt : Option DateTime
  metadata : Value
  createdAt : DateTime

def challengeSchema : Schema EmailVerificationChallenge EmailVerificationChallengeId EmailVerificationChallengeId where
  identity := EmailVerificationChallenge.id
  key := EmailVerificationChallenge.id

abbrev ChallengeTable := Table challengeSchema

section Repository

variable (challenges : ChallengeTable) (tenantId : TenantId) (challengeId : EmailVerificationChallengeId)

def getById : Option EmailVerificationChallenge :=
  challenges.rows.find? fun challenge => challenge.tenantId = tenantId ∧ challenge.id = challengeId

def latestActiveByEmailAndPurpose (emailNormalized : String) (purpose : AuthChallengePurpose) :
    Option EmailVerificationChallenge :=
  firstBy (fun left right => right.createdAt < left.createdAt) (challenges.rows.filter fun challenge =>
    challenge.tenantId = tenantId ∧ challenge.emailNormalized = emailNormalized ∧ challenge.purpose = purpose ∧
      challenge.consumedAt = none)

def becomeCounted : Change challengeSchema where
  apply challenge := { challenge with attemptCount := challenge.attemptCount + 1 }

def becomeConsumed (consumedAt : DateTime) : Change challengeSchema where
  apply challenge := { challenge with consumedAt := some consumedAt }

/-- Both updates select the row by its id and compare nothing else. -/
def isChallenge (challenge : EmailVerificationChallenge) : Bool :=
  challenge.tenantId = tenantId ∧ challenge.id = challengeId

def incrementAttemptCount : Option EmailVerificationChallenge × ChallengeTable :=
  ((challenges.returning (isChallenge tenantId challengeId) becomeCounted).head?,
    challenges.update (isChallenge tenantId challengeId) becomeCounted)

def markConsumed (consumedAt : DateTime) : Option EmailVerificationChallenge × ChallengeTable :=
  ((challenges.returning (isChallenge tenantId challengeId) (becomeConsumed consumedAt)).head?,
    challenges.update (isChallenge tenantId challengeId) (becomeConsumed consumedAt))

end Repository

inductive OtpVerificationStatus where
  | valid
  | invalid
  | expired
  | consumed
  | attemptsExceeded
  deriving DecidableEq

structure EmailOtpService where
  pepper : String
  sha256Hex : String → String

def normalizeCode (code : String) : String := (trim code).map Char.toUpper

namespace EmailOtpService

variable (service : EmailOtpService)

def hashCode (emailNormalized : String) (purpose : AuthChallengePurpose) (code : String) : String :=
  service.sha256Hex (service.pepper ++ ":" ++ emailNormalized ++ ":" ++ purpose.asStr ++ ":" ++ normalizeCode code)

def verifyChallenge (challenge : EmailVerificationChallenge) (code : String) (now : DateTime) : OtpVerificationStatus :=
  if challenge.consumedAt.isSome then .consumed
  else if challenge.expiresAt < now then .expired
  else if challenge.maxAttempts ≤ challenge.attemptCount then .attemptsExceeded
  else if service.hashCode challenge.emailNormalized challenge.purpose code = challenge.codeHash then .valid
  else .invalid

end EmailOtpService

inductive ChallengeLookup where
  | byId (tenantId : TenantId) (challengeId : EmailVerificationChallengeId)
  | latestActive (tenantId : TenantId) (emailNormalized : String) (purpose : AuthChallengePurpose)

def ChallengeLookup.run (challenges : ChallengeTable) : ChallengeLookup → Option EmailVerificationChallenge
  | .byId tenantId challengeId => getById challenges tenantId challengeId
  | .latestActive tenantId emailNormalized purpose =>
    latestActiveByEmailAndPurpose challenges tenantId emailNormalized purpose

/-- What an attempt still has to write, with the row that it had loaded. -/
inductive DueUpdate where
  | consume (challenge : EmailVerificationChallenge) (now : DateTime)
  | count (challenge : EmailVerificationChallenge)

/-- The table, the attempts under way, and the outcomes so far: the challenges of the
attempts that succeeded and those that a wrong code was compared with. -/
structure VerificationSystem where
  challenges : ChallengeTable
  loaded : List EmailVerificationChallenge
  due : List DueUpdate
  succeeded : List EmailVerificationChallengeId
  wrong : List EmailVerificationChallengeId

/-- An attempt loads its challenge, verifies a code and writes the outcome back, while
others do the same. -/
inductive VerificationStep where
  | load (lookup : ChallengeLookup)
  | verify (attempt : Nat) (code : String) (now : DateTime)
  | write (attempt : Nat)

namespace VerificationSystem

def start (challenges : ChallengeTable) : VerificationSystem := ⟨challenges, [], [], [], []⟩

def perform (service : EmailOtpService) (system : VerificationSystem) : VerificationStep → VerificationSystem
  | .load lookup => match lookup.run system.challenges with
    | none => system
    | some challenge => { system with loaded := system.loaded ++ [challenge] }
  | .verify attempt code now => match system.loaded[attempt]? with
    | none => system
    | some challenge =>
      let verified := { system with loaded := system.loaded.eraseIdx attempt }
      match service.verifyChallenge challenge code now with
      | .valid => { verified with due := system.due ++ [.consume challenge now] }
      | .invalid => { verified with
          due := system.due ++ [.count challenge], wrong := system.wrong ++ [challenge.id] }
      | .expired | .consumed | .attemptsExceeded => verified
  | .write attempt => match system.due[attempt]? with
    | none => system
    | some (.consume challenge now) => { system with
        challenges := (markConsumed system.challenges challenge.tenantId challenge.id now).2
        due := system.due.eraseIdx attempt
        succeeded := system.succeeded ++ [challenge.id] }
    | some (.count challenge) => { system with
        challenges := (incrementAttemptCount system.challenges challenge.tenantId challenge.id).2
        due := system.due.eraseIdx attempt }

end VerificationSystem

end DataMax.EmailChallenge
