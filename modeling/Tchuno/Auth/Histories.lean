import Mathlib.Logic.Relation
import Tchuno.Auth.Services
import Tchuno.Library.Serial

/-!
# Calls one after another

Without other clients every call is a sequence of a few effects on the database, with
what the call has checked before each of them.
-/

namespace Tchuno.Auth

open Tchuno.Library Tchuno.Library.Ecma Tchuno.Library.Script

variable {Token Digest : Type}

/-- The database as a machine over whole calls. -/
def accounts [DecidableEq Digest] (crypto : Crypto Token Digest) :
    Machine (Database Token Digest) (AuthCall Token) where
  step := fun database call => ((call.procedure crypto).serve database).2

/-! ## Statements -/

section Statements

variable {database : Database Token Digest}

theorem serves_createUser {post : Except AuthError User → Database Token Digest → Prop}
    {row : User}
    (created : database.admitsUser row = true →
      post (.ok row) { database with users := database.users.place row })
    (refused : post (.error (.database "P2002")) database) :
    (createUser row : Procedure Token Digest User).Serves post database := by
  refine serves_transaction (drafts_lockAll_bind (drafts_consult_bind ?_ ?_))
  · intro _ admitted
    refine drafts_write_bind (drafts_pure (created ?_))
    by_contra taken
    rw [if_neg taken] at admitted
    cases admitted
  · intro error failed
    split_ifs at failed
    cases failed
    exact refused

theorem serves_updateUser {post : Except AuthError User → Database Token Digest → Prop}
    {userId : UserId} {change : User → User}
    {keeps : ∀ user, Keyed.key (change user) = Keyed.key user}
    (updated : ∀ user, database.users.find? userId = some user →
      post (.ok (change user))
        { database with users := database.users.update userId change keeps })
    (missing : post (.error (.database "P2025")) database) :
    (updateUser userId change keeps : Procedure Token Digest User).Serves post database := by
  refine serves_transaction (drafts_lock_bind (drafts_consult_bind ?_ ?_))
  · intro user found
    refine drafts_write_bind (drafts_pure (updated user ?_))
    split at found
    · cases found
      assumption
    · cases found
  · intro error failed
    split at failed
    · cases failed
    · cases failed
      exact missing

theorem revokeMany_of_found (accept : Session Digest → Bool) (now : Time) :
    database.revokeMany
      (fun session => session.id ∈ (database.sessions.findMany fun session =>
        accept session && session.isLive).map Session.id && accept session) now =
      database.revokeMany accept now := by
  simp only [Database.revokeMany]
  congr 1
  refine Table.updateMany_congr _ _ _ _ fun session member => ?_
  by_cases chosen : (accept session && session.isLive) = true
  · have listed : session.id ∈ (database.sessions.findMany fun session =>
        accept session && session.isLive).map Session.id :=
      List.mem_map_of_mem (List.mem_filter.mpr ⟨member, chosen⟩)
    simp [listed]
  · simp only [Bool.and_eq_true, not_and, Bool.not_eq_true] at chosen
    cases accepted : accept session with
    | false =>
        simp
    | true =>
        simp [chosen accepted]

theorem serves_revokeSessions {post : Except AuthError Unit → Database Token Digest → Prop}
    {accept : Session Digest → Bool} {now : Time}
    (revoked : post (.ok ()) (database.revokeMany accept now)) :
    (revokeSessions accept now : Procedure Token Digest Unit).Serves post database := by
  refine serves_transaction (drafts_select_bind (drafts_lockAll_bind (drafts_write ?_)))
  rw [revokeMany_of_found]
  exact revoked

variable [DecidableEq Digest]

theorem serves_createSession
    {post : Except AuthError (Session Digest) → Database Token Digest → Prop}
    {row : Session Digest}
    (created : database.admitsSession row = true →
      post (.ok row) { database with sessions := database.sessions.place row })
    (refused : database.admitsSession row = false →
      post (.error (.database "P2002")) database) :
    (createSession row : Procedure Token Digest (Session Digest)).Serves post database := by
  refine serves_transaction (drafts_lockAll_bind (drafts_consult_bind ?_ ?_))
  · intro _ admitted
    refine drafts_write_bind (drafts_pure (created ?_))
    by_contra taken
    rw [if_neg taken] at admitted
    cases admitted
  · intro error failed
    split_ifs at failed with admitted
    cases failed
    exact refused (by simpa using admitted)

theorem serves_renewSession {post : Except AuthError Unit → Database Token Digest → Prop}
    {snapshot : Session Digest} {refreshToken : Token} {digest : Digest}
    {clientInfo : Option SessionClientInfo} {now : Time}
    (renewed : database.admitsDigest snapshot.id digest = true →
      post (.ok ()) (database.renew snapshot refreshToken digest clientInfo now))
    (refused : ∀ error, post (.error error) database) :
    (renewSession snapshot refreshToken digest clientInfo now :
      Procedure Token Digest Unit).Serves post database := by
  refine serves_transaction (drafts_lockAll_bind (drafts_consult_bind ?_ ?_))
  · intro _ admitted
    refine drafts_write (renewed ?_)
    by_contra taken
    rw [if_neg taken] at admitted
    split_ifs at admitted
  · intro error _
    exact refused error

end Statements

/-! ## Effects -/

section Calls

variable [DecidableEq Digest] {crypto : Crypto Token Digest}

/-- What a call may do to the database in one statement. -/
inductive Effect (crypto : Crypto Token Digest) :
    Database Token Digest → Database Token Digest → Prop where
  | userCreated (database : Database Token Digest) (row : User)
      (admitted : database.admitsUser row = true) :
      Effect crypto database { database with users := database.users.place row }
  | userUpdated (database : Database Token Digest) (userId : UserId) (change : User → User)
      (keeps : ∀ user, Keyed.key (change user) = Keyed.key user) :
      Effect crypto database
        { database with users := database.users.update userId change keeps }
  | revoked (database : Database Token Digest) (accept : Session Digest → Bool)
      (now : Time) :
      Effect crypto database (database.revokeMany accept now)
  | opened (database : Database Token Digest) (user : User)
      (clientInfo : Option SessionClientInfo) (draws : Draws) (now : Time)
      (admitted : database.admitsSession (openedSession crypto user clientInfo draws now)) :
      Effect crypto database
        { database with
          sessions := database.sessions.place
            (openedSession crypto user clientInfo draws now) }
  | renewed (database : Database Token Digest) (user : User) (session : Session Digest)
      (clientInfo : Option SessionClientInfo) (jti : Uuid) (now : Time)
      (stored : database.sessions.find? session.id = some session)
      (live : session.isLive = true) (own : session.userId = user.id) :
      Effect crypto database
        (database.renew session (crypto.sign .refresh (refreshClaims user session jti now))
          (crypto.sha256 (crypto.sign .refresh (refreshClaims user session jti now)))
          clientInfo now)

/-- Any number of effects. -/
def Effects (crypto : Crypto Token Digest) :
    Database Token Digest → Database Token Digest → Prop :=
  Relation.ReflTransGen (Effect crypto)

variable {database : Database Token Digest}

theorem admitsSession_iff {row : Session Digest} :
    database.admitsSession row = true ↔
      database.sessions.find? row.id = none ∧
        ∀ session ∈ database.sessions, session.refreshTokenHash ≠ row.refreshTokenHash := by
  simp [Database.admitsSession, Table.findFirst?_eq_none_iff]

theorem judge_eq_accepted {token : Token} {payload : RefreshTokenPayload}
    {session : Session Digest} {user : User}
    (accepted : database.judge crypto token payload = .accepted session user) :
    database.sessions.find? payload.sid = some session ∧ session.isLive = true ∧
      database.users.find? session.userId = some user ∧ user.isActive = true ∧
      session.userId = payload.sub ∧ payload.did = session.deviceId ∧
      crypto.sha256 token = session.refreshTokenHash := by
  unfold Database.judge at accepted
  split at accepted
  · cases accepted
  · next found =>
      split at accepted
      · cases accepted
      · next live =>
          split at accepted
          · cases accepted
          · next owner =>
              split at accepted
              · cases accepted
              · next active =>
                  split_ifs at accepted with apart other
                  cases accepted
                  simp only [not_or, not_not, ne_eq] at live active apart other
                  exact ⟨found, live, owner, active.1, active.2, apart.2, other⟩

omit [DecidableEq Digest] in
theorem presented?_eq_some {refreshToken : Option Token} {now : Time} {token : Token}
    {payload : RefreshTokenPayload} :
    presented? crypto refreshToken now = some (token, payload) ↔
      refreshToken = some token ∧ verifyRefreshToken crypto token now = some payload := by
  cases refreshToken with
  | none =>
      simp [presented?]
  | some given =>
      simp only [presented?, Option.bind_eq_bind, Option.bind_some, Option.bind_eq_some_iff,
        Option.some.injEq]
      constructor
      · rintro ⟨_, verified, same⟩
        cases same
        exact ⟨rfl, verified⟩
      · rintro ⟨rfl, verified⟩
        exact ⟨payload, verified, rfl⟩

omit [DecidableEq Digest] in
theorem verifyRefreshToken_eq_some {token : Token} {now : Time}
    {payload : RefreshTokenPayload} :
    verifyRefreshToken crypto token now = some payload ↔
      ∃ claims, crypto.decode .refresh token = some claims ∧ seconds now < claims.exp ∧
        claims.type = some "refresh" ∧ claims.sid = some payload.sid ∧
        truthy claims.did = some payload.did ∧ (truthy claims.jti).isSome ∧
        claims.sub = payload.sub := by
  obtain ⟨sub, sid, did⟩ := payload
  simp only [verifyRefreshToken, Option.bind_eq_bind, Option.bind_eq_some_iff]
  refine exists_congr fun claims => and_congr_right fun _ => ?_
  split_ifs with valid
  · simp only [Option.bind_eq_some_iff, valid, true_and, Option.isSome_iff_exists]
    constructor
    · rintro ⟨_, hasSid, _, hasDid, jti, hasJti, same⟩
      cases same
      exact ⟨hasSid, hasDid, ⟨jti, hasJti⟩, rfl⟩
    · rintro ⟨hasSid, hasDid, ⟨jti, hasJti⟩, rfl⟩
      exact ⟨_, hasSid, _, hasDid, jti, hasJti, rfl⟩
  · refine iff_of_false nofun ?_
    rintro ⟨early, isRefresh, _⟩
    exact valid ⟨early, isRefresh⟩

/-- A session which is opened is stored with its own identifier. -/
theorem find?_place_session {row : Session Digest}
    (admitted : database.admitsSession row = true) :
    (database.sessions.place row).find? row.id = some row := by
  rw [Table.find?_place, if_pos ⟨rfl, (admitsSession_iff.mp admitted).1⟩]

/-- A token is issued for a live session of the user. -/
theorem serves_issueTokensFor
    {post : Except AuthError (AuthResponse Token) → Database Token Digest → Prop}
    {user : User} {clientInfo : Option SessionClientInfo} {session : Session Digest}
    {jti : Uuid} {now : Time}
    (issued : post
      (.ok ⟨user.response, crypto.sign .access (accessClaims user now),
        crypto.sign .refresh (refreshClaims user session jti now)⟩)
      (database.renew session (crypto.sign .refresh (refreshClaims user session jti now))
        (crypto.sha256 (crypto.sign .refresh (refreshClaims user session jti now)))
        clientInfo now))
    (refused : ∀ error, post (.error error) database) :
    (issueTokensFor crypto user clientInfo session jti now).Serves post database :=
  serves_bind (serves_renewSession (fun _ => serves_pure issued) refused)

/-- A session is opened for the user, and a token is issued for it. -/
theorem serves_issueTokens
    {post : Except AuthError (AuthResponse Token) → Database Token Digest → Prop}
    {user : User} {clientInfo : Option SessionClientInfo} {draws : Draws} {now : Time}
    (refused : database.admitsSession (openedSession crypto user clientInfo draws now) = false →
      post (.error (.database "P2002")) database)
    (opened : database.admitsSession (openedSession crypto user clientInfo draws now) = true →
      (issueTokensFor crypto user clientInfo (openedSession crypto user clientInfo draws now)
        draws.jti now).Serves post
        { database with
          sessions := database.sessions.place
            (openedSession crypto user clientInfo draws now) }) :
    (issueTokens crypto user clientInfo none draws now).Serves post database :=
  serves_bind (serves_createSession opened refused)

theorem serves_refresh
    {post : Except AuthError (AuthResponse Token) → Database Token Digest → Prop}
    {refreshToken : Option Token} {clientInfo : Option SessionClientInfo} {draws : Draws}
    {now : Time}
    (refused : (∀ token payload, presented? crypto refreshToken now = some (token, payload) →
        database.judge crypto token payload = .refused) →
      post (.error (.unauthorized "Invalid refresh token")) database)
    (reused : ∀ token payload session, presented? crypto refreshToken now = some (token, payload) →
      database.judge crypto token payload = .reused session →
      post (.error (.unauthorized "Invalid refresh token"))
        (database.revokeMany
          (fun row => row.id = session.id && row.userId = session.userId) now))
    (accepted : ∀ token payload session user,
      presented? crypto refreshToken now = some (token, payload) →
      database.judge crypto token payload = .accepted session user →
      (issueTokensFor crypto user clientInfo session draws.jti now).Serves post database) :
    (refresh crypto refreshToken clientInfo draws now).Serves post database := by
  unfold refresh
  cases valid : presented? crypto refreshToken now with
  | none =>
      exact serves_fail (refused fun _ _ present => by rw [valid] at present; cases present)
  | some presented =>
      obtain ⟨token, payload⟩ := presented
      refine serves_select_bind ?_
      cases verdict : database.judge crypto token payload with
      | refused =>
          refine serves_fail (refused fun other claimed present => ?_)
          rw [valid] at present
          cases present
          exact verdict
      | reused session =>
          exact serves_bind (serves_revokeSessions (serves_fail
            (reused token payload session valid verdict)))
      | accepted session user =>
          exact accepted token payload session user valid verdict

/-! ## The effects of a call -/

section Start

variable {start : Database Token Digest}

theorem effects_issueTokensFor {user : User} {clientInfo : Option SessionClientInfo}
    {session : Session Digest} {jti : Uuid} {now : Time}
    (before : Effects crypto start database)
    (stored : database.sessions.find? session.id = some session)
    (live : session.isLive = true) (own : session.userId = user.id) :
    (issueTokensFor crypto user clientInfo session jti now).Serves
      (fun _ after => Effects crypto start after) database :=
  serves_issueTokensFor
    (before.tail (.renewed database user session clientInfo jti now stored live own))
    fun _ => before

theorem effects_issueTokens {user : User} {clientInfo : Option SessionClientInfo}
    {draws : Draws} {now : Time} (before : Effects crypto start database) :
    (issueTokens crypto user clientInfo none draws now).Serves
      (fun _ after => Effects crypto start after) database :=
  serves_issueTokens (fun _ => before) fun admitted =>
    effects_issueTokensFor (before.tail (.opened database user clientInfo draws now admitted))
      (find?_place_session admitted) rfl rfl

theorem effects_refresh {refreshToken : Option Token} {clientInfo : Option SessionClientInfo}
    {draws : Draws} {now : Time} (before : Effects crypto start database) :
    (refresh crypto refreshToken clientInfo draws now).Serves
      (fun _ after => Effects crypto start after) database := by
  refine serves_refresh (fun _ => before) ?_ ?_
  · intro _ _ session _ _
    exact before.tail (.revoked database _ now)
  · intro _ _ session user _ verdict
    obtain ⟨found, live, owner, _⟩ := judge_eq_accepted verdict
    exact effects_issueTokensFor before (database.sessions.find?_key found) live
      (database.users.key_of_find? owner).symm

theorem effects_revokeSessions {accept : Session Digest → Bool} {now : Time}
    (before : Effects crypto start database) :
    (revokeSessions accept now : Procedure Token Digest Unit).Serves
      (fun _ after => Effects crypto start after) database :=
  serves_revokeSessions (before.tail (.revoked database accept now))

theorem effects_updateUser {userId : UserId} {change : User → User}
    {keeps : ∀ user, Keyed.key (change user) = Keyed.key user}
    (before : Effects crypto start database) :
    (updateUser userId change keeps : Procedure Token Digest User).Serves
      (fun _ after => Effects crypto start after) database :=
  serves_updateUser (fun _ _ => before.tail (.userUpdated database userId change keeps)) before

theorem effects_findTargetUser {userId : UserId} (before : Effects crypto start database) :
    (findTargetUser userId : Procedure Token Digest User).Serves
      (fun _ after => Effects crypto start after) database :=
  ⟨_, _, rfl, before⟩

theorem effects_require {condition : Prop} [Decidable condition] {error : AuthError}
    (before : Effects crypto start database) :
    (require condition error : Procedure Token Digest Unit).Serves
      (fun _ after => Effects crypto start after) database :=
  ⟨_, _, rfl, before⟩

/-- The user is rewritten, and signed out where the service asks for it. -/
theorem effects_rewriteUser {userId : UserId} {change : User → User}
    {keeps : ∀ user, Keyed.key (change user) = Keyed.key user} {signsOut : User → Prop}
    [DecidablePred signsOut] {now : Time} (before : Effects crypto start database) :
    (do
      let updatedUser ← updateUser userId change keeps
      if signsOut updatedUser then
        revokeSessions (fun session => session.userId = updatedUser.id) now
      else
        pure ()
      pure updatedUser : Procedure Token Digest User).Serves
      (fun _ after => Effects crypto start after) database := by
  refine serves_kept_bind (effects_updateUser before) fun updated middle written => ?_
  split_ifs
  · exact serves_kept_bind (effects_revokeSessions written) fun _ _ => serves_kept_pure
  · exact serves_kept_pure written

theorem effects_updateUserRole {input : UpdateUserRoleInput} {now : Time}
    (before : Effects crypto start database) :
    (updateUserRole input now : Procedure Token Digest User).Serves
      (fun _ after => Effects crypto start after) database := by
  refine serves_kept_bind (effects_findTargetUser before) fun user middle found => ?_
  refine serves_kept_bind (effects_require found) fun _ middle met => ?_
  exact effects_rewriteUser met

theorem effects_updateUserStatus {input : UpdateUserStatusInput} {now : Time}
    (before : Effects crypto start database) :
    (updateUserStatus input now : Procedure Token Digest User).Serves
      (fun _ after => Effects crypto start after) database := by
  refine serves_kept_bind (effects_findTargetUser before) fun user middle found => ?_
  refine serves_kept_bind (effects_require found) fun _ middle met => ?_
  exact effects_rewriteUser met

theorem effects_register {dto : RegisterDto} {clientInfo : Option SessionClientInfo}
    {draws : Draws} {now : Time} (before : Effects crypto start database) :
    (register crypto dto clientInfo draws now).Serves
      (fun _ after => Effects crypto start after) database := by
  refine serves_select_bind (serves_kept_bind (effects_require before) fun _ middle met => ?_)
  refine serves_kept_bind (serves_createUser (fun admitted => ?_) met) fun user _ created => ?_
  · exact met.tail (.userCreated middle _ admitted)
  · exact effects_issueTokens created

theorem effects_login {dto : LoginDto} {clientInfo : Option SessionClientInfo}
    {draws : Draws} {now : Time} (before : Effects crypto start database) :
    (login crypto dto clientInfo draws now).Serves
      (fun _ after => Effects crypto start after) database :=
  serves_consult_bind (fun _ _ => effects_issueTokens before) fun _ _ => before

theorem effects_logout {refreshToken : Option Token} {now : Time}
    (before : Effects crypto start database) :
    (logout crypto refreshToken now).Serves (fun _ after => Effects crypto start after)
      database := by
  cases refreshToken with
  | none =>
      exact serves_kept_pure before
  | some token =>
      exact effects_revokeSessions before

/-- A call has effects one after another. -/
theorem effects_call (call : AuthCall Token) :
    (call.procedure crypto).Serves (fun _ after => Effects crypto database after) database := by
  have before : Effects crypto database database := .refl
  cases call with
  | register dto clientInfo draws now =>
      exact serves_kept_bind (effects_register before) fun _ _ => serves_kept_pure
  | login dto clientInfo draws now =>
      exact serves_kept_bind (effects_login before) fun _ _ => serves_kept_pure
  | refresh refreshToken clientInfo draws now =>
      exact serves_kept_bind (effects_refresh before) fun _ _ => serves_kept_pure
  | logout refreshToken now =>
      exact serves_kept_bind (effects_logout before) fun _ _ => serves_kept_pure
  | logoutAll userId now =>
      exact serves_kept_bind (effects_revokeSessions before) fun _ _ => serves_kept_pure
  | revokeSession userId sessionId now =>
      exact serves_kept_bind (effects_revokeSessions before) fun _ _ => serves_kept_pure
  | updateUserRole input now =>
      exact serves_kept_bind (effects_updateUserRole before) fun _ _ => serves_kept_pure
  | updateUserStatus input now =>
      exact serves_kept_bind (effects_updateUserStatus before) fun _ _ => serves_kept_pure

/-- What every effect preserves holds after every sequence of calls. -/
theorem run_effects (calls : List (AuthCall Token)) :
    Effects crypto database ((accounts crypto).run database calls) := by
  refine (accounts crypto).run_preserves (Effects crypto database) ?_ .refl calls
  intro middle call before
  have served : (call.procedure crypto).Serves
      (fun _ after => Effects crypto middle after) middle := effects_call call
  obtain ⟨_, _, effects⟩ := served.serve
  exact before.trans effects

end Start

end Calls

/-! ## Terms for tokens -/

section Sample

/-- A token is the term it was made by: what was signed can be read back, and by
nothing else. -/
inductive SampleToken where
  | signed (secret : Secret) (claims : Claims)
  | text (value : String)
  deriving DecidableEq

/-- A digest is told apart by what was hashed. -/
def sampleCrypto : Crypto SampleToken SampleToken where
  sign := .signed
  decode := fun secret token =>
    match token with
    | .signed signer claims => if signer = secret then some claims else none
    | .text _ => none
  ofUuid := fun uuid => .text uuid
  sha256 := id
  hashPassword := fun _ password => password
  comparePassword := fun password passwordHash => password = passwordHash

theorem sampleCrypto_sound : sampleCrypto.Sound where
  decode_sign := fun _ _ => if_pos rfl
  signed_of_decode := by
    rintro secret (⟨signer, claims⟩ | text) _ decoded
    · exact ⟨signer, claims, rfl⟩
    · cases decoded
  sha256_injective := fun _ _ same => same
  sha256_uuid := by
    rintro uuid _ ⟨secret, claims, rfl⟩ same
    cases same

def sampleUuid (kind : String) (call : Nat) : Uuid :=
  ⟨kind ++ "-" ++ toString call, by
    intro empty
    have length := congrArg String.length empty
    simp [String.length_append] at length⟩

def sampleDraws (call : Nat) : Draws where
  userId := call
  salt := sampleUuid "salt" call
  sessionId := call
  deviceId := sampleUuid "device" call
  refreshTokenSeed := sampleUuid "seed" call
  jti := sampleUuid "jti" call

def sampleRegistration : RegisterDto := ⟨"ana@tchuno.test", "segredo1", some "Ana"⟩
def sampleLogin : LoginDto := ⟨"ana@tchuno.test", "segredo1"⟩

/-- The refresh token of the first user which a call issues for a session. -/
def sampleToken (sessionId : SessionId) (deviceId : String) (call : Nat) (now : Time) :
    SampleToken :=
  .signed .refresh
    { sub := 0
      email := "ana@tchuno.test"
      type := some "refresh"
      sid := some sessionId
      did := some deviceId
      jti := some (sampleUuid "jti" call).val
      exp := seconds now + 7 * 24 * 60 * 60 }

end Sample

end Tchuno.Auth
