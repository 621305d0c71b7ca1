import Tchuno.Library.Ecma
import Tchuno.Library.Script
import Tchuno.Library.Table

/-!
# Users, sessions and tokens

The rows of users and sessions, the tokens and what the services rely on to make and
check them.  Identifiers and random values are drawn by the caller, so a call carries
those it needs; tokens and digests are whatever the cryptographic libraries make them.
-/

namespace Tchuno.Auth

open Tchuno.Library Tchuno.Library.Ecma

/-- Milliseconds since the epoch. -/
abbrev Time := Int

abbrev UserId := Nat
abbrev SessionId := Nat

/-- A result of `randomUUID()`. -/
abbrev Uuid := { text : String // text ≠ "" }

/-! ## Tokens -/

/-- The two secrets tokens are signed with. -/
inductive Secret where
  | access | refresh
  deriving DecidableEq, Repr

/-- The claims of a token; `exp` is in seconds. -/
structure Claims where
  sub : UserId
  email : String
  type : Option String
  sid : Option SessionId
  did : Option String
  jti : Option String
  exp : Int
  deriving DecidableEq

/-- `JwtService`, `bcrypt` and `createHash('sha256')`. -/
structure Crypto (Token Digest : Type) where
  /-- the token signed with a secret -/
  sign : Secret → Claims → Token
  /-- the claims of a token with a valid signature; expiry is not checked here -/
  decode : Secret → Token → Option Claims
  /-- a random identifier, read as a string like any token -/
  ofUuid : Uuid → Token
  sha256 : Token → Digest
  /-- the salted hash of a password -/
  hashPassword : Uuid → String → String
  comparePassword : String → String → Bool

/-- A token some payload was signed into. -/
def Crypto.IsSigned {Token Digest : Type} (crypto : Crypto Token Digest) (token : Token) :
    Prop :=
  ∃ secret claims, token = crypto.sign secret claims

/-- Signing and verification are inverse, and no two of the strings the services hash
have one digest. -/
structure Crypto.Sound {Token Digest : Type} (crypto : Crypto Token Digest) : Prop where
  decode_sign : ∀ secret claims, crypto.decode secret (crypto.sign secret claims) = some claims
  signed_of_decode : ∀ {secret token claims}, crypto.decode secret token = some claims →
    crypto.IsSigned token
  sha256_injective : ∀ {token other}, crypto.IsSigned token → crypto.IsSigned other →
    crypto.sha256 token = crypto.sha256 other → token = other
  sha256_uuid : ∀ {uuid token}, crypto.IsSigned token →
    crypto.sha256 (crypto.ofUuid uuid) ≠ crypto.sha256 token

/-! ## Rows -/

inductive UserRole where
  | user | admin
  deriving DecidableEq, Repr

inductive AdminSubrole where
  | supportAdmin | opsAdmin | superAdmin
  deriving DecidableEq, Repr

structure User where
  id : UserId
  email : String
  name : Option String
  passwordHash : String
  role : UserRole
  adminSubrole : Option AdminSubrole
  isActive : Bool
  deriving DecidableEq

structure Session (Digest : Type) where
  id : SessionId
  userId : UserId
  deviceId : String
  refreshTokenHash : Digest
  lastUsedAt : Time
  revokedAt : Option Time
  ip : Option String
  userAgent : Option String
  deriving DecidableEq

instance : Keyed User := ⟨User.id⟩
instance {Digest : Type} : Keyed (Session Digest) := ⟨Session.id⟩

@[simp] theorem key_user (user : User) : Keyed.key user = user.id := rfl
@[simp] theorem key_session {Digest : Type} (session : Session Digest) :
    Keyed.key session = session.id := rfl

/-- The tables, with a history of the refresh tokens issued for sessions, newest first,
which no statement reads. -/
structure Database (Token Digest : Type) where
  users : Table User
  sessions : Table (Session Digest)
  issued : List (SessionId × Token)

def Database.initial (Token Digest : Type) : Database Token Digest where
  users := .empty
  sessions := .empty
  issued := []

/-! ## Inputs and errors -/

inductive AuthError where
  | unauthorized (message : String)
  | conflict (message : String)
  | notFound (message : String)
  | badRequest (message : String)
  | forbidden (message : String)
  | database (code : String)
  deriving DecidableEq, Repr

structure SessionClientInfo where
  deviceId : Option String
  ip : Option String
  userAgent : Option String

structure RegisterDto where
  email : String
  password : String
  name : Option String

structure LoginDto where
  email : String
  password : String

/-- The random values of a call. -/
structure Draws where
  userId : UserId
  salt : Uuid
  sessionId : SessionId
  deviceId : Uuid
  refreshTokenSeed : Uuid
  jti : Uuid

structure ResponseUser where
  id : UserId
  email : String
  name : Option String
  role : UserRole
  adminSubrole : Option AdminSubrole
  deriving DecidableEq

structure AuthResponse (Token : Type) where
  user : ResponseUser
  accessToken : Token
  refreshToken : Token
  deriving DecidableEq

/-- What statements lock or read. -/
inductive Target (Digest : Type) where
  | user (userId : UserId)
  | userKey (userId : UserId)
  | email (email : String)
  | session (sessionId : SessionId)
  | sessionKey (sessionId : SessionId)
  | refreshTokenHash (digest : Digest)
  | sessions
  deriving DecidableEq

/-- A service as a client of the database. -/
abbrev Procedure (Token Digest α : Type) : Type :=
  Script (Database Token Digest) (Target Digest) AuthError α

end Tchuno.Auth
