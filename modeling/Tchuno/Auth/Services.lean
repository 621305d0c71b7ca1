import Tchuno.Auth.Schema

/-!
# The authentication services

`AuthService` and the two operations of `AdminOpsService` which revoke sessions,
statement by statement.  None of them opens a transaction, so every statement that
writes commits at once.
-/

namespace Tchuno.Auth

open Tchuno.Library Tchuno.Library.Ecma

variable {Token Digest : Type}

/-! ## Statements -/

def Database.userByEmail? (database : Database Token Digest) (email : String) : Option User :=
  database.users.findFirst? fun user => user.email = email

/-- The identifier and the email are free. -/
def Database.admitsUser (database : Database Token Digest) (row : User) : Bool :=
  (database.users.find? row.id).isNone && (database.userByEmail? row.email).isNone

def createUser (row : User) : Procedure Token Digest User :=
  .transaction do
    .lockAll [.userKey row.id, .email row.email]
    .consult (.email row.email) fun database =>
      if database.admitsUser row then .ok () else .error (.database "P2002")
    .write fun database => { database with users := database.users.place row }
    pure row

def updateUser (userId : UserId) (change : User → User)
    (keeps : ∀ user, Keyed.key (change user) = Keyed.key user) :
    Procedure Token Digest User :=
  .transaction do
    .lock (.user userId)
    let user ← .consult (.user userId) fun database =>
      match database.users.find? userId with
      | some user => .ok user
      | none => .error (.database "P2025")
    .write fun database => { database with users := database.users.update userId change keeps }
    pure (change user)

/-- A session is live until it is revoked. -/
def Session.isLive (session : Session Digest) : Bool :=
  session.revokedAt.isNone

def revokedSession (now : Time) (session : Session Digest) : Session Digest :=
  { session with revokedAt := some now }

/-- The live sessions of the filter are revoked. -/
def Database.revokeMany (database : Database Token Digest) (accept : Session Digest → Bool)
    (now : Time) : Database Token Digest :=
  { database with
    sessions := database.sessions.updateMany (fun session => accept session && session.isLive)
      (revokedSession now) fun _ => rfl }

theorem exists_of_mem_revokeMany {database : Database Token Digest}
    {accept : Session Digest → Bool} {now : Time} {row : Session Digest}
    (member : row ∈ (database.revokeMany accept now).sessions) :
    ∃ old ∈ database.sessions, row =
      if accept old && old.isLive then revokedSession now old else old :=
  (Table.mem_updateMany _ _ (revokedSession now) fun _ => rfl).mp member

theorem find?_revokeMany (database : Database Token Digest) (accept : Session Digest → Bool)
    (now : Time) (sessionId : SessionId) :
    (database.revokeMany accept now).sessions.find? sessionId =
      (database.sessions.find? sessionId).map fun row =>
        if accept row && row.isLive then revokedSession now row else row :=
  Table.find?_updateMany _ _ (revokedSession now) (fun _ => rfl) _

/-- `session.updateMany` with `revokedAt: null` in its filter: the rows it finds are
locked, and revoked where the filter still holds of them. -/
def revokeSessions (accept : Session Digest → Bool) (now : Time) :
    Procedure Token Digest Unit :=
  .transaction do
    let found ← .select .sessions fun database =>
      (database.sessions.findMany fun session => accept session && session.isLive).map
        Session.id
    .lockAll (found.map .session)
    .write fun database =>
      database.revokeMany (fun session => session.id ∈ found && accept session) now

section Sessions

variable [DecidableEq Digest]

/-- The identifier and the digest are free. -/
def Database.admitsSession (database : Database Token Digest) (row : Session Digest) : Bool :=
  (database.sessions.find? row.id).isNone &&
    (database.sessions.findFirst? fun session =>
      session.refreshTokenHash = row.refreshTokenHash).isNone

def createSession (row : Session Digest) : Procedure Token Digest (Session Digest) :=
  .transaction do
    .lockAll [.sessionKey row.id, .refreshTokenHash row.refreshTokenHash]
    .consult (.refreshTokenHash row.refreshTokenHash) fun database =>
      if database.admitsSession row then .ok () else .error (.database "P2002")
    .write fun database => { database with sessions := database.sessions.place row }
    pure row

/-! ## Tokens -/

/-- What becomes of the row when a token is issued for its session: the digest is
replaced, and the row is not revoked any more. -/
def renewedSession (snapshot : Session Digest) (refreshTokenHash : Digest)
    (clientInfo : Option SessionClientInfo) (now : Time) (session : Session Digest) :
    Session Digest :=
  { session with
    refreshTokenHash := refreshTokenHash
    lastUsedAt := now
    revokedAt := none
    ip := (clientInfo.bind SessionClientInfo.ip).or snapshot.ip
    userAgent := (clientInfo.bind SessionClientInfo.userAgent).or snapshot.userAgent }

/-- The digest of the token is not that of another session. -/
def Database.admitsDigest (database : Database Token Digest) (sessionId : SessionId)
    (digest : Digest) : Bool :=
  (database.sessions.findFirst? fun session =>
    session.id ≠ sessionId ∧ session.refreshTokenHash = digest).isNone

/-- The row of the session after a token was issued for it, and the history with the
token. -/
def Database.renew (database : Database Token Digest) (snapshot : Session Digest)
    (refreshToken : Token) (digest : Digest) (clientInfo : Option SessionClientInfo)
    (now : Time) : Database Token Digest :=
  { database with
    sessions := database.sessions.update snapshot.id
      (renewedSession snapshot digest clientInfo now) fun _ => rfl
    issued := (snapshot.id, refreshToken) :: database.issued }

omit [DecidableEq Digest] in
theorem exists_of_mem_renew {database : Database Token Digest} {snapshot row : Session Digest}
    {refreshToken : Token} {digest : Digest} {clientInfo : Option SessionClientInfo}
    {now : Time}
    (member : row ∈ (database.renew snapshot refreshToken digest clientInfo now).sessions) :
    ∃ old ∈ database.sessions, row =
      if old.id = snapshot.id then renewedSession snapshot digest clientInfo now old
      else old :=
  (Table.mem_update _ (renewedSession snapshot digest clientInfo now) fun _ => rfl).mp member

omit [DecidableEq Digest] in
theorem find?_renew (database : Database Token Digest) (snapshot : Session Digest)
    (refreshToken : Token) (digest : Digest) (clientInfo : Option SessionClientInfo)
    (now : Time) (sessionId : SessionId) :
    (database.renew snapshot refreshToken digest clientInfo now).sessions.find? sessionId =
      if sessionId = snapshot.id then
        (database.sessions.find? sessionId).map (renewedSession snapshot digest clientInfo now)
      else
        database.sessions.find? sessionId :=
  Table.find?_update _ (renewedSession snapshot digest clientInfo now) (fun _ => rfl) _ _

omit [DecidableEq Digest] in
theorem find?_renew_self {database : Database Token Digest} {snapshot row : Session Digest}
    {refreshToken : Token} {digest : Digest} {clientInfo : Option SessionClientInfo}
    {now : Time} (stored : database.sessions.find? snapshot.id = some row) :
    (database.renew snapshot refreshToken digest clientInfo now).sessions.find? snapshot.id =
      some (renewedSession snapshot digest clientInfo now row) := by
  rw [find?_renew, if_pos rfl, stored]
  rfl

/-- The last statement of `issueTokens`; `snapshot` is the row as it was read. -/
def renewSession (snapshot : Session Digest) (refreshToken : Token) (digest : Digest)
    (clientInfo : Option SessionClientInfo) (now : Time) : Procedure Token Digest Unit :=
  .transaction do
    .lockAll [.session snapshot.id, .refreshTokenHash digest]
    .consult (.session snapshot.id) fun database =>
      if (database.sessions.find? snapshot.id).isNone then .error (.database "P2025")
      else if database.admitsDigest snapshot.id digest then .ok ()
      else .error (.database "P2002")
    .write fun database => database.renew snapshot refreshToken digest clientInfo now

/-- The row of a session which is opened. -/
def openedSession (crypto : Crypto Token Digest) (user : User)
    (clientInfo : Option SessionClientInfo) (draws : Draws) (now : Time) : Session Digest where
  id := draws.sessionId
  userId := user.id
  deviceId := (truthy (clientInfo.bind SessionClientInfo.deviceId)).getD draws.deviceId
  refreshTokenHash := crypto.sha256 (crypto.ofUuid draws.refreshTokenSeed)
  lastUsedAt := now
  revokedAt := none
  ip := clientInfo.bind SessionClientInfo.ip
  userAgent := clientInfo.bind SessionClientInfo.userAgent

/-- Whole seconds since the epoch. -/
def seconds (now : Time) : Int := now / 1000

def accessClaims (user : User) (now : Time) : Claims where
  sub := user.id
  email := user.email
  type := none
  sid := none
  did := none
  jti := none
  exp := seconds now + 15 * 60

def refreshClaims (user : User) (session : Session Digest) (jti : Uuid) (now : Time) :
    Claims where
  sub := user.id
  email := user.email
  type := some "refresh"
  sid := some session.id
  did := some session.deviceId
  jti := some jti
  exp := seconds now + 7 * 24 * 60 * 60

def User.response (user : User) : ResponseUser :=
  ⟨user.id, user.email, user.name, user.role, user.adminSubrole⟩

/-- The end of `issueTokens`, when there is a session. -/
def issueTokensFor (crypto : Crypto Token Digest) (user : User)
    (clientInfo : Option SessionClientInfo) (session : Session Digest) (jti : Uuid)
    (now : Time) : Procedure Token Digest (AuthResponse Token) := do
  let refreshToken := crypto.sign .refresh (refreshClaims user session jti now)
  renewSession session refreshToken (crypto.sha256 refreshToken) clientInfo now
  pure ⟨user.response, crypto.sign .access (accessClaims user now), refreshToken⟩

def issueTokens (crypto : Crypto Token Digest) (user : User)
    (clientInfo : Option SessionClientInfo) (existingSession : Option (Session Digest))
    (draws : Draws) (now : Time) : Procedure Token Digest (AuthResponse Token) :=
  match existingSession with
  | some session => issueTokensFor crypto user clientInfo session draws.jti now
  | none => do
      let session ← createSession (openedSession crypto user clientInfo draws now)
      issueTokensFor crypto user clientInfo session draws.jti now

/-! ## Registration and login -/

def registeredUser (crypto : Crypto Token Digest) (dto : RegisterDto) (draws : Draws) :
    User where
  id := draws.userId
  email := dto.email
  name := dto.name
  passwordHash := crypto.hashPassword draws.salt dto.password
  role := .user
  adminSubrole := none
  isActive := true

def register (crypto : Crypto Token Digest) (dto : RegisterDto)
    (clientInfo : Option SessionClientInfo) (draws : Draws) (now : Time) :
    Procedure Token Digest (AuthResponse Token) := do
  let existingUser ← .select (.email dto.email) fun database =>
    database.userByEmail? dto.email
  .require (existingUser = none) (.conflict "Email is already in use")
  let user ← createUser (registeredUser crypto dto draws)
  issueTokens crypto user clientInfo none draws now

/-- The user whose password was given. -/
def Database.authenticate (database : Database Token Digest) (crypto : Crypto Token Digest)
    (dto : LoginDto) : Option User :=
  (database.userByEmail? dto.email).filter fun user =>
    crypto.comparePassword dto.password user.passwordHash

def login (crypto : Crypto Token Digest) (dto : LoginDto)
    (clientInfo : Option SessionClientInfo) (draws : Draws) (now : Time) :
    Procedure Token Digest (AuthResponse Token) := do
  let user ← .consult (.email dto.email) fun database =>
    match database.authenticate crypto dto with
    | some user => .ok user
    | none => .error (.unauthorized "Invalid credentials")
  issueTokens crypto user clientInfo none draws now

/-! ## Refresh -/

structure RefreshTokenPayload where
  sub : UserId
  sid : SessionId
  did : String
  deriving DecidableEq

def verifyRefreshToken (crypto : Crypto Token Digest) (refreshToken : Token) (now : Time) :
    Option RefreshTokenPayload := do
  let claims ← crypto.decode .refresh refreshToken
  if seconds now < claims.exp ∧ claims.type = some "refresh" then
    let sid ← claims.sid
    let did ← truthy claims.did
    let _ ← truthy claims.jti
    pure ⟨claims.sub, sid, did⟩
  else
    none

/-- What `refresh` finds out about a token in the session row. -/
inductive Verdict (Digest : Type) where
  | refused
  | reused (session : Session Digest)
  | accepted (session : Session Digest) (user : User)

/-- The checks of `refresh`.  The user of a session exists by its foreign key. -/
def Database.judge (database : Database Token Digest) (crypto : Crypto Token Digest)
    (refreshToken : Token) (payload : RefreshTokenPayload) : Verdict Digest :=
  match database.sessions.find? payload.sid with
  | none => .refused
  | some session =>
      if ¬ session.isLive then
        .refused
      else
        match database.users.find? session.userId with
        | none => .refused
        | some user =>
            if ¬ user.isActive ∨ session.userId ≠ payload.sub then
              .refused
            else if payload.sid ≠ session.id ∨ payload.did ≠ session.deviceId then
              .reused session
            else if crypto.sha256 refreshToken ≠ session.refreshTokenHash then
              .reused session
            else
              .accepted session user

def revokeSessionChain (sessionId : SessionId) (userId : UserId) (now : Time) :
    Procedure Token Digest Unit :=
  revokeSessions (fun session => session.id = sessionId && session.userId = userId) now

/-- The token with what its signature says, if it is a refresh token at all. -/
def presented? (crypto : Crypto Token Digest) (refreshToken : Option Token) (now : Time) :
    Option (Token × RefreshTokenPayload) := do
  let token ← refreshToken
  let payload ← verifyRefreshToken crypto token now
  pure (token, payload)

/-- `none` is a token which is absent or the empty string. -/
def refresh (crypto : Crypto Token Digest) (refreshToken : Option Token)
    (clientInfo : Option SessionClientInfo) (draws : Draws) (now : Time) :
    Procedure Token Digest (AuthResponse Token) :=
  match presented? crypto refreshToken now with
  | none => .fail (.unauthorized "Invalid refresh token")
  | some (token, payload) => do
      let verdict ← .select (.session payload.sid) fun database =>
        database.judge crypto token payload
      match verdict with
      | .refused => .fail (.unauthorized "Invalid refresh token")
      | .reused session => do
          revokeSessionChain session.id session.userId now
          .fail (.unauthorized "Invalid refresh token")
      | .accepted session user =>
          issueTokens crypto user clientInfo (some session) draws now

/-! ## Logout -/

def logout (crypto : Crypto Token Digest) (refreshToken : Option Token) (now : Time) :
    Procedure Token Digest Unit :=
  match refreshToken with
  | none => pure ()
  | some token =>
      revokeSessions (fun session => session.refreshTokenHash = crypto.sha256 token) now

def logoutAll (userId : UserId) (now : Time) : Procedure Token Digest Unit :=
  revokeSessions (fun session => session.userId = userId) now

def revokeSession (userId : UserId) (sessionId : SessionId) (now : Time) :
    Procedure Token Digest Unit :=
  revokeSessions (fun session => session.id = sessionId && session.userId = userId) now

end Sessions

/-! ## Administration -/

structure UpdateUserRoleInput where
  targetUserId : UserId
  role : UserRole
  adminSubrole : Option AdminSubrole
  actorUserId : UserId

structure UpdateUserStatusInput where
  targetUserId : UserId
  isActive : Bool
  actorUserId : UserId

def findTargetUser (userId : UserId) : Procedure Token Digest User :=
  .consult (.user userId) fun database =>
    match database.users.find? userId with
    | some user => .ok user
    | none => .error (.notFound "Utilizador não encontrado.")

def nextAdminSubrole (input : UpdateUserRoleInput) : Option AdminSubrole :=
  if input.role = .admin then input.adminSubrole else none

def changedRole (input : UpdateUserRoleInput) (user : User) : User :=
  { user with
    role := input.role
    adminSubrole := nextAdminSubrole input }

def changedStatus (input : UpdateUserStatusInput) (user : User) : User :=
  { user with isActive := input.isActive }

def updateUserRole (input : UpdateUserRoleInput) (now : Time) :
    Procedure Token Digest User := do
  let targetUser ← findTargetUser input.targetUserId
  .require (¬ (targetUser.id = input.actorUserId ∧ input.role ≠ .admin))
    (.badRequest "Não podes remover o teu próprio acesso admin nesta operação.")
  let updatedUser ← updateUser targetUser.id (changedRole input) fun _ => rfl
  if targetUser.role ≠ updatedUser.role ∨ targetUser.adminSubrole ≠ updatedUser.adminSubrole then
    revokeSessions (fun session => session.userId = updatedUser.id) now
  else
    pure ()
  pure updatedUser

def updateUserStatus (input : UpdateUserStatusInput) (now : Time) :
    Procedure Token Digest User := do
  let targetUser ← findTargetUser input.targetUserId
  .require (¬ (targetUser.id = input.actorUserId ∧ input.isActive = false))
    (.badRequest "Não podes suspender a tua própria conta nesta operação.")
  let updatedUser ← updateUser targetUser.id (changedStatus input) fun _ => rfl
  if updatedUser.isActive = false then
    revokeSessions (fun session => session.userId = updatedUser.id) now
  else
    pure ()
  pure updatedUser

/-! ## Calls -/

/-- A call with all its inputs. -/
inductive AuthCall (Token : Type) where
  | register (dto : RegisterDto) (clientInfo : Option SessionClientInfo) (draws : Draws)
      (now : Time)
  | login (dto : LoginDto) (clientInfo : Option SessionClientInfo) (draws : Draws)
      (now : Time)
  | refresh (refreshToken : Option Token) (clientInfo : Option SessionClientInfo)
      (draws : Draws) (now : Time)
  | logout (refreshToken : Option Token) (now : Time)
  | logoutAll (userId : UserId) (now : Time)
  | revokeSession (userId : UserId) (sessionId : SessionId) (now : Time)
  | updateUserRole (input : UpdateUserRoleInput) (now : Time)
  | updateUserStatus (input : UpdateUserStatusInput) (now : Time)

/-- What a call may return. -/
inductive AuthReply (Token : Type) where
  | tokens (response : AuthResponse Token)
  | done
  | user (user : User)

variable [DecidableEq Digest]

def AuthCall.procedure (crypto : Crypto Token Digest) :
    AuthCall Token → Procedure Token Digest (AuthReply Token)
  | .register dto clientInfo draws now => do
      let response ← Auth.register crypto dto clientInfo draws now
      pure (.tokens response)
  | .login dto clientInfo draws now => do
      let response ← Auth.login crypto dto clientInfo draws now
      pure (.tokens response)
  | .refresh refreshToken clientInfo draws now => do
      let response ← Auth.refresh crypto refreshToken clientInfo draws now
      pure (.tokens response)
  | .logout refreshToken now => do
      Auth.logout crypto refreshToken now
      pure .done
  | .logoutAll userId now => do
      Auth.logoutAll userId now
      pure .done
  | .revokeSession userId sessionId now => do
      Auth.revokeSession userId sessionId now
      pure .done
  | .updateUserRole input now => do
      let user ← Auth.updateUserRole input now
      pure (.user user)
  | .updateUserStatus input now => do
      let user ← Auth.updateUserStatus input now
      pure (.user user)

end Tchuno.Auth
