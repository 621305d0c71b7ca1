import Mathlib.Data.Rat.Floor
import Tchuno.Auth.Schema
import Tchuno.Library.Doubles

/-!
# Reauthentication

`ReauthService`: whoever gives the password gets a token, and a critical action consumes
it.  `consumeChallenge` reads the challenge of the token in one statement and marks it in
another, whatever it is then; issuing a token consumes the challenges which were live when
the statement looked for them.
-/

namespace Tchuno.Auth

open Tchuno.Library Tchuno.Library.Ecma

abbrev ChallengeId := Nat

variable {Digest : Type}

/-! ## Rows -/

structure ReauthChallenge (Digest : Type) where
  id : ChallengeId
  userId : UserId
  tokenHash : Digest
  expiresAt : Time
  consumedAt : Option Time
  purpose : Option String
  createdAt : Time
  deriving DecidableEq

instance : Keyed (ReauthChallenge Digest) := ⟨ReauthChallenge.id⟩

@[simp] theorem key_challenge (challenge : ReauthChallenge Digest) :
    Keyed.key challenge = challenge.id := rfl

/-- An action a challenge has authorised; `issued` counts the challenges of that moment,
whose identifiers are all below it. -/
structure Redemption where
  challengeId : ChallengeId
  userId : UserId
  purpose : Option String
  now : Time
  issued : Nat
  deriving DecidableEq

/-- The tables, with a history of what was authorised, newest first, which no statement
reads. -/
structure ReauthDatabase (Digest : Type) where
  users : Table User
  challenges : Table (ReauthChallenge Digest)
  redemptions : List Redemption

/-- What statements lock or read. -/
inductive ReauthTarget (Digest : Type) where
  | user (userId : UserId)
  | challenges
  | challenge (challengeId : ChallengeId)
  | tokenHash (digest : Digest)
  deriving DecidableEq

abbrev ReauthProcedure (Digest α : Type) : Type :=
  Script (ReauthDatabase Digest) (ReauthTarget Digest) AuthError α

/-- `bcrypt` and `createHash('sha256')`. -/
structure ReauthCrypto (Digest : Type) where
  sha256 : String → Digest
  comparePassword : String → String → Bool

/-! ## Confirmation -/

structure ConfirmInput where
  userId : UserId
  password : String
  purpose : Option String

structure ReauthToken where
  reauthToken : String
  expiresAt : Time
  deriving DecidableEq

/-- The setting as a number, if it is finite. -/
def resolveReauthTtlMinutes (parsed : Option ℚ) : ℚ :=
  match parsed with
  | none => 10
  | some minutes => if minutes ≤ 0 then 10 else min (max minutes 1) 30

/-- The milliseconds until a token expires, a product of doubles; `Date` drops the fraction. -/
def reauthLifetime (parsed : Option ℚ) : Int :=
  ⌊toDouble (resolveReauthTtlMinutes parsed * 60000)⌋

theorem reauthLifetime_le (parsed : Option ℚ) : reauthLifetime parsed ≤ 30 * 60000 := by
  have range : 0 ≤ resolveReauthTtlMinutes parsed ∧ resolveReauthTtlMinutes parsed ≤ 30 := by
    unfold resolveReauthTtlMinutes
    split
    · norm_num
    · split_ifs
      · norm_num
      · exact ⟨le_min (zero_le_one.trans (le_max_right _ _)) (by norm_num), min_le_right _ _⟩
  have nonneg : 0 ≤ resolveReauthTtlMinutes parsed * 60000 :=
    mul_nonneg range.1 (by norm_num)
  have rounded := toDouble_le nonneg
  rw [reauthLifetime, Int.floor_le_iff]
  push_cast
  linarith [range.2]

def ReauthChallenge.isLive (userId : UserId) (now : Time)
    (challenge : ReauthChallenge Digest) : Bool :=
  challenge.userId = userId && challenge.consumedAt.isNone && decide (now < challenge.expiresAt)

def consumedChallenge (now : Time) (challenge : ReauthChallenge Digest) :
    ReauthChallenge Digest :=
  { challenge with consumedAt := some now }

theorem consumedChallenge_key (now : Time) (challenge : ReauthChallenge Digest) :
    Keyed.key (consumedChallenge now challenge) = Keyed.key challenge :=
  rfl

def ReauthDatabase.liveIds (database : ReauthDatabase Digest) (userId : UserId) (now : Time) :
    List ChallengeId :=
  (database.challenges.findMany (ReauthChallenge.isLive userId now)).map ReauthChallenge.id

/-- The challenge was found, and is live. -/
def ReauthChallenge.isFound (userId : UserId) (now : Time) (found : List ChallengeId)
    (challenge : ReauthChallenge Digest) : Bool :=
  found.contains challenge.id && challenge.isLive userId now

def ReauthDatabase.consumeLive (database : ReauthDatabase Digest) (userId : UserId)
    (now : Time) (found : List ChallengeId) : ReauthDatabase Digest :=
  { database with
    challenges := database.challenges.updateMany (ReauthChallenge.isFound userId now found)
      (consumedChallenge now) fun _ => rfl }

def issuedChallenge (input : ConfirmInput) (tokenHash : Digest) (expiresAt now : Time)
    (id : ChallengeId) : ReauthChallenge Digest where
  id := id
  userId := input.userId
  tokenHash := tokenHash
  expiresAt := expiresAt
  consumedAt := none
  purpose := input.purpose
  createdAt := now

def ReauthDatabase.issue (database : ReauthDatabase Digest) (input : ConfirmInput)
    (tokenHash : Digest) (expiresAt now : Time) : ReauthDatabase Digest :=
  { database with
    challenges := database.challenges.insert (issuedChallenge input tokenHash expiresAt now)
      fun _ => rfl }

section Digests

variable [DecidableEq Digest]

/-- `reauthChallenge.updateMany`: the challenges it finds are locked, and consumed where
the filter still holds of them. -/
def consumeLiveChallenges (userId : UserId) (now : Time) : ReauthProcedure Digest Unit := do
  let found ← .select .challenges fun database => database.liveIds userId now
  .lockAll (found.map .challenge)
  .write fun database => database.consumeLive userId now found

def createChallenge (input : ConfirmInput) (tokenHash : Digest) (expiresAt now : Time) :
    ReauthProcedure Digest Unit := do
  .lockAll [.tokenHash tokenHash]
  .consult (.tokenHash tokenHash) fun database =>
    if (database.challenges.findFirst? fun challenge => challenge.tokenHash = tokenHash) = none
      then .ok () else .error (.database "P2002")
  .write fun database => database.issue input tokenHash expiresAt now

/-- `reauthToken` is drawn by the caller, `ttlMinutes` is the setting of the server. -/
def confirmByPassword (crypto : ReauthCrypto Digest) (input : ConfirmInput)
    (reauthToken : String) (ttlMinutes : Option ℚ) (now : Time) :
    ReauthProcedure Digest ReauthToken := do
  .consult (.user input.userId) fun database =>
    match database.users.find? input.userId with
    | none => .error (.unauthorized "Credenciais de reautenticação inválidas")
    | some user =>
        if user.isActive && crypto.comparePassword input.password user.passwordHash then
          .ok ()
        else
          .error (.unauthorized "Credenciais de reautenticação inválidas")
  let tokenHash := crypto.sha256 reauthToken
  let expiresAt := now + reauthLifetime ttlMinutes
  .transaction do
    consumeLiveChallenges input.userId now
    createChallenge input tokenHash expiresAt now
  pure ⟨reauthToken, expiresAt⟩

/-! ## Consumption -/

structure ConsumeInput where
  userId : UserId
  token : String
  purpose : Option String

inductive ReauthFailure where
  | missingToken | invalidOrExpired | alreadyUsed | purposeMismatch
  deriving DecidableEq, Repr

structure ConsumeResult where
  ok : Bool
  reason : Option ReauthFailure
  deriving DecidableEq

def normalizedPurpose (purpose : Option String) : Option String :=
  truthy (purpose.map fun text => toLowerCase (trim text))

/-- Both purposes are given, and they differ. -/
def purposesConflict (required given : Option String) : Bool :=
  match normalizedPurpose required, normalizedPurpose given with
  | some requiredPurpose, some challengePurpose => requiredPurpose ≠ challengePurpose
  | _, _ => false

/-- What `consumeChallenge` finds out about a token. -/
inductive ReauthVerdict (Digest : Type) where
  | refused (reason : ReauthFailure)
  | expired (challenge : ReauthChallenge Digest)
  | accepted (challenge : ReauthChallenge Digest)

def ReauthDatabase.judge (database : ReauthDatabase Digest) (crypto : ReauthCrypto Digest)
    (input : ConsumeInput) (now : Time) : ReauthVerdict Digest :=
  match database.challenges.findFirst? fun challenge =>
      challenge.userId = input.userId &&
        challenge.tokenHash = crypto.sha256 (trim input.token) with
  | none => .refused .invalidOrExpired
  | some challenge =>
      if challenge.consumedAt.isSome then
        .refused .alreadyUsed
      else if challenge.expiresAt ≤ now then
        .expired challenge
      else if purposesConflict input.purpose challenge.purpose then
        .refused .purposeMismatch
      else
        .accepted challenge

/-- No statement deletes a challenge, so the update finds its row. -/
def markConsumed (challengeId : ChallengeId) (now : Time) : ReauthProcedure Digest Unit :=
  .transaction do
    .lock (.challenge challengeId)
    .write fun database =>
      { database with
        challenges := database.challenges.update challengeId (consumedChallenge now)
          fun _ => rfl }

def ReauthDatabase.redeem (database : ReauthDatabase Digest) (challengeId : ChallengeId)
    (input : ConsumeInput) (now : Time) : ReauthDatabase Digest :=
  { database with
    challenges := database.challenges.update challengeId (consumedChallenge now) fun _ => rfl
    redemptions := ⟨challengeId, input.userId, input.purpose, now, database.challenges.nextId⟩ ::
      database.redemptions }

/-- The update which marks an accepted challenge, and the history with it. -/
def redeemChallenge (challengeId : ChallengeId) (input : ConsumeInput) (now : Time) :
    ReauthProcedure Digest Unit :=
  .transaction do
    .lock (.challenge challengeId)
    .write fun database => database.redeem challengeId input now

def consumeChallenge (crypto : ReauthCrypto Digest) (input : ConsumeInput) (now : Time) :
    ReauthProcedure Digest ConsumeResult :=
  if trim input.token = "" then
    pure ⟨false, some .missingToken⟩
  else do
    let verdict ← .select (.tokenHash (crypto.sha256 (trim input.token))) fun database =>
      database.judge crypto input now
    match verdict with
    | .refused reason => pure ⟨false, some reason⟩
    | .expired challenge => do
        markConsumed challenge.id now
        pure ⟨false, some .invalidOrExpired⟩
    | .accepted challenge => do
        redeemChallenge challenge.id input now
        pure ⟨true, none⟩

/-! ## Calls -/

inductive ReauthCall where
  | confirm (input : ConfirmInput) (reauthToken : String) (ttlMinutes : Option ℚ) (now : Time)
  | consume (input : ConsumeInput) (now : Time)

inductive ReauthReply where
  | token (token : ReauthToken)
  | consumed (result : ConsumeResult)
  deriving DecidableEq

def ReauthCall.procedure (crypto : ReauthCrypto Digest) :
    ReauthCall → ReauthProcedure Digest ReauthReply
  | .confirm input reauthToken ttlMinutes now => do
      let token ← confirmByPassword crypto input reauthToken ttlMinutes now
      pure (.token token)
  | .consume input now => do
      let result ← consumeChallenge crypto input now
      pure (.consumed result)

end Digests

end Tchuno.Auth
