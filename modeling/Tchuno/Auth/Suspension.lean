import Tchuno.Auth.Histories

/-!
# Suspended users

A suspension revokes all sessions of the user, and `refresh` is refused while it lasts.
`login` does not look at it, and opens a session for whoever knows the password.
-/

namespace Tchuno.Auth

open Tchuno.Library Tchuno.Library.Ecma Tchuno.Library.Script

variable {Token Digest : Type}

/-- No session of a suspended user is live. -/
def Database.SuspendedOut (database : Database Token Digest) : Prop :=
  ∀ user ∈ database.users, user.isActive = false →
    ∀ session ∈ database.sessions, session.userId = user.id → session.isLive = false

/-- Whoever has the identifier is active. -/
def Database.ActiveId (database : Database Token Digest) (userId : UserId) : Prop :=
  ∀ user ∈ database.users, user.id = userId → user.isActive = true

theorem activeId_of_mem {database : Database Token Digest} {user : User}
    (member : user ∈ database.users) (active : user.isActive = true) :
    database.ActiveId user.id := by
  intro other otherMember sameId
  rw [database.users.eq_of_key_eq otherMember member sameId]
  exact active

/-! ## What statements keep -/

section Statements

variable {database : Database Token Digest} (suspended : database.SuspendedOut)

include suspended

theorem suspendedOut_revokeMany (accept : Session Digest → Bool) (now : Time) :
    (database.revokeMany accept now).SuspendedOut := by
  intro user member inactive session present own
  obtain ⟨old, oldPresent, rfl⟩ := exists_of_mem_revokeMany present
  split_ifs at own ⊢
  · rfl
  · exact suspended user member inactive old oldPresent own

theorem suspendedOut_place_user {row : User} (active : row.isActive = true) :
    ({ database with users := database.users.place row } :
      Database Token Digest).SuspendedOut := by
  intro user member inactive
  rcases Table.eq_or_mem_of_place member with rfl | older
  · rw [active] at inactive
    cases inactive
  · exact suspended user older inactive

theorem suspendedOut_place_session {row : Session Digest}
    (active : database.ActiveId row.userId) :
    ({ database with sessions := database.sessions.place row } :
      Database Token Digest).SuspendedOut := by
  intro user member inactive session present own
  rcases Table.eq_or_mem_of_place present with rfl | older
  · have isActive := active user member own.symm
    rw [inactive] at isActive
    cases isActive
  · exact suspended user member inactive session older own

theorem suspendedOut_renew {snapshot : Session Digest} {refreshToken : Token}
    {digest : Digest} {clientInfo : Option SessionClientInfo} {now : Time}
    (stored : database.sessions.find? snapshot.id = some snapshot)
    (active : database.ActiveId snapshot.userId) :
    (database.renew snapshot refreshToken digest clientInfo now).SuspendedOut := by
  intro user member inactive session present own
  obtain ⟨old, oldPresent, rfl⟩ := exists_of_mem_renew present
  split_ifs at own ⊢ with same
  · have isStored : old = snapshot :=
      database.sessions.eq_of_key_eq oldPresent (database.sessions.mem_of_find? stored) same
    subst isStored
    have isActive := active user member own.symm
    rw [inactive] at isActive
    cases isActive
  · exact suspended user member inactive old oldPresent own

/-- An update which does not suspend anybody. -/
theorem suspendedOut_updateUser {userId : UserId} {change : User → User}
    {keeps : ∀ user, Keyed.key (change user) = Keyed.key user}
    (kept : ∀ user, (change user).isActive = false → user.isActive = false) :
    ({ database with users := database.users.update userId change keeps } :
      Database Token Digest).SuspendedOut := by
  intro user member inactive session present own
  obtain ⟨old, oldMember, rfl⟩ := (Table.mem_update _ change keeps).mp member
  split_ifs at inactive own with same
  · exact suspended old oldMember (kept old inactive) session present
      (own.trans (keeps old))
  · exact suspended old oldMember inactive session present own

/-- A suspension, when the sessions of the user are revoked. -/
theorem suspendedOut_suspend {userId : UserId} {change : User → User}
    {keeps : ∀ user, Keyed.key (change user) = Keyed.key user} (now : Time) :
    (({ database with users := database.users.update userId change keeps } :
      Database Token Digest).revokeMany (fun session => session.userId = userId)
        now).SuspendedOut := by
  intro user member inactive session present own
  obtain ⟨old, oldPresent, rfl⟩ := exists_of_mem_revokeMany present
  split_ifs at own ⊢ with revoked
  · rfl
  · obtain ⟨oldUser, oldMember, rfl⟩ := (Table.mem_update _ change keeps).mp member
    split_ifs at inactive own with same
    · have ofUser : old.userId = userId := own.trans ((keeps oldUser).trans same)
      simpa [ofUser] using revoked
    · exact suspended oldUser oldMember inactive old oldPresent own

end Statements

/-! ## What calls keep -/

section Calls

variable [DecidableEq Digest] {crypto : Crypto Token Digest}
  {database : Database Token Digest}

/-- A session is opened only for a user who is active. -/
def AuthCall.OpensActive (call : AuthCall Token) (crypto : Crypto Token Digest)
    (database : Database Token Digest) : Prop :=
  match call with
  | .login dto clientInfo draws now =>
      ∀ user, database.authenticate crypto dto = some user →
        database.admitsSession (openedSession crypto user clientInfo draws now) = true →
        user.isActive = true
  | _ => True

theorem suspendedOut_issueTokensFor {user : User} {clientInfo : Option SessionClientInfo}
    {session : Session Digest} {jti : Uuid} {now : Time} (suspended : database.SuspendedOut)
    (stored : database.sessions.find? session.id = some session)
    (active : database.ActiveId session.userId) :
    (issueTokensFor crypto user clientInfo session jti now).Serves
      (fun _ after => after.SuspendedOut) database :=
  serves_issueTokensFor (suspendedOut_renew suspended stored active) fun _ => suspended

theorem suspendedOut_issueTokens {user : User} {clientInfo : Option SessionClientInfo}
    {draws : Draws} {now : Time} (suspended : database.SuspendedOut)
    (active : database.admitsSession (openedSession crypto user clientInfo draws now) = true →
      database.ActiveId user.id) :
    (issueTokens crypto user clientInfo none draws now).Serves
      (fun _ after => after.SuspendedOut) database :=
  serves_issueTokens (fun _ => suspended) fun admitted =>
    suspendedOut_issueTokensFor (suspendedOut_place_session suspended (active admitted))
      (find?_place_session admitted) (active admitted)

omit [DecidableEq Digest] in
theorem authenticate_eq_some {dto : LoginDto} {user : User}
    (authenticated : database.authenticate crypto dto = some user) :
    user ∈ database.users := by
  obtain ⟨found, _⟩ := Option.filter_eq_some_iff.mp authenticated
  exact (database.users.mem_of_findFirst? found).1

theorem suspendedOut_register {dto : RegisterDto} {clientInfo : Option SessionClientInfo}
    {draws : Draws} {now : Time} (suspended : database.SuspendedOut) :
    (register crypto dto clientInfo draws now).Serves (fun _ after => after.SuspendedOut)
      database := by
  refine serves_select_bind (serves_require_bind (fun _ => ?_) fun _ => suspended)
  refine serves_bind (serves_createUser (fun admitted => ?_) suspended)
  refine suspendedOut_issueTokens (suspendedOut_place_user suspended rfl) fun _ => ?_
  have free : database.users.find? (registeredUser crypto dto draws).id = none := by
    simp only [Database.admitsUser, Bool.and_eq_true, Option.isNone_iff_eq_none] at admitted
    exact admitted.1
  refine activeId_of_mem ?_ rfl
  exact (Table.mem_place_of_unused free).mpr (.inl rfl)

theorem suspendedOut_login {dto : LoginDto} {clientInfo : Option SessionClientInfo}
    {draws : Draws} {now : Time} (suspended : database.SuspendedOut)
    (active : (AuthCall.login dto clientInfo draws now : AuthCall Token).OpensActive crypto
      database) :
    (login crypto dto clientInfo draws now).Serves (fun _ after => after.SuspendedOut)
      database := by
  refine serves_consult_bind (fun user found => ?_) fun _ _ => suspended
  have authenticated : database.authenticate crypto dto = some user := by
    split at found
    · cases found
      assumption
    · cases found
  exact suspendedOut_issueTokens suspended fun admitted =>
    activeId_of_mem (authenticate_eq_some authenticated) (active user authenticated admitted)

theorem suspendedOut_refresh {refreshToken : Option Token}
    {clientInfo : Option SessionClientInfo} {draws : Draws} {now : Time}
    (suspended : database.SuspendedOut) :
    (refresh crypto refreshToken clientInfo draws now).Serves
      (fun _ after => after.SuspendedOut) database := by
  refine serves_refresh (fun _ => suspended) ?_ ?_
  · intro _ _ _ _ _
    exact suspendedOut_revokeMany suspended _ _
  · intro _ _ session user _ verdict
    obtain ⟨found, _, owner, active, _⟩ := judge_eq_accepted verdict
    refine suspendedOut_issueTokensFor suspended (database.sessions.find?_key found) ?_
    rw [← database.users.key_of_find? owner]
    exact activeId_of_mem (database.users.mem_of_find? owner) active

omit [DecidableEq Digest] in
theorem suspendedOut_revokeSessions {accept : Session Digest → Bool} {now : Time}
    (suspended : database.SuspendedOut) :
    (revokeSessions accept now : Procedure Token Digest Unit).Serves
      (fun _ after => after.SuspendedOut) database :=
  serves_revokeSessions (suspendedOut_revokeMany suspended accept now)

omit [DecidableEq Digest] in
theorem suspendedOut_updateUserRole {input : UpdateUserRoleInput} {now : Time}
    (suspended : database.SuspendedOut) :
    (updateUserRole input now : Procedure Token Digest User).Serves
      (fun _ after => after.SuspendedOut) database := by
  refine serves_consult_bind (fun user _ => ?_) fun _ _ => suspended
  refine serves_require_bind (fun _ => ?_) fun _ => suspended
  have updated := @suspendedOut_updateUser _ _ _ suspended user.id (changedRole input)
    (fun _ => rfl) fun _ inactive => inactive
  refine serves_kept_bind (serves_updateUser (fun _ _ => updated) suspended) ?_
  intro changed after reached
  split_ifs
  · exact serves_kept_bind (suspendedOut_revokeSessions reached) fun _ _ =>
      serves_kept_pure
  · exact serves_pure reached

omit [DecidableEq Digest] in
theorem suspendedOut_updateUserStatus {input : UpdateUserStatusInput} {now : Time}
    (suspended : database.SuspendedOut) :
    (updateUserStatus input now : Procedure Token Digest User).Serves
      (fun _ after => after.SuspendedOut) database := by
  refine serves_consult_bind (fun user _ => ?_) fun _ _ => suspended
  refine serves_require_bind (fun _ => ?_) fun _ => suspended
  refine serves_bind (serves_updateUser (fun stored found => ?_) suspended)
  have sameId : stored.id = user.id := database.users.key_of_find? found
  by_cases suspends : input.isActive = false
  · simp only [Follows, changedStatus, suspends, if_true]
    refine serves_bind (serves_revokeSessions (serves_kept_pure ?_))
    rw [sameId]
    exact suspendedOut_suspend suspended now
  · simp only [Follows, changedStatus, suspends]
    refine serves_kept_pure (suspendedOut_updateUser suspended fun _ inactive => ?_)
    exact absurd inactive suspends

theorem suspendedOut_call {call : AuthCall Token} (suspended : database.SuspendedOut)
    (active : call.OpensActive crypto database) :
    (call.procedure crypto).Serves (fun _ after => after.SuspendedOut) database := by
  cases call with
  | register dto clientInfo draws now =>
      exact serves_kept_bind (suspendedOut_register suspended) fun _ _ => serves_kept_pure
  | login dto clientInfo draws now =>
      exact serves_kept_bind (suspendedOut_login suspended active) fun _ _ =>
        serves_kept_pure
  | refresh refreshToken clientInfo draws now =>
      exact serves_kept_bind (suspendedOut_refresh suspended) fun _ _ => serves_kept_pure
  | logout refreshToken now =>
      cases refreshToken with
      | none =>
          exact serves_pure suspended
      | some token =>
          exact serves_kept_bind (suspendedOut_revokeSessions suspended) fun _ _ =>
            serves_kept_pure
  | logoutAll userId now =>
      exact serves_kept_bind (suspendedOut_revokeSessions suspended) fun _ _ =>
        serves_kept_pure
  | revokeSession userId sessionId now =>
      exact serves_kept_bind (suspendedOut_revokeSessions suspended) fun _ _ =>
        serves_kept_pure
  | updateUserRole input now =>
      exact serves_kept_bind (suspendedOut_updateUserRole suspended) fun _ _ =>
        serves_kept_pure
  | updateUserStatus input now =>
      exact serves_kept_bind (suspendedOut_updateUserStatus suspended) fun _ _ =>
        serves_kept_pure

/-! ## The session a login opens -/

/-- The user of the session is stored as before, and the session is live. -/
structure Database.LiveFor (after database : Database Token Digest) (user : User) : Prop where
  users : after.users = database.users
  live : ∃ session ∈ after.sessions, session.userId = user.id ∧ session.isLive = true

theorem liveFor_issueTokens {user : User} {clientInfo : Option SessionClientInfo}
    {draws : Draws} {now : Time}
    (admitted : database.admitsSession (openedSession crypto user clientInfo draws now) = true) :
    (issueTokens crypto user clientInfo none draws now).Serves
      (fun _ after => after.LiveFor database user) database := by
  have stored := find?_place_session admitted
  refine serves_issueTokens (fun refused => ?_) fun _ => serves_issueTokensFor ?_ fun _ => ?_
  · rw [admitted] at refused
    cases refused
  · exact ⟨rfl, _, Table.mem_of_find? _ (find?_renew_self stored), rfl, rfl⟩
  · exact ⟨rfl, _, Table.mem_of_find? _ stored, rfl, rfl⟩

theorem opensActive_of_suspendedOut {call : AuthCall Token}
    (suspended : ((accounts crypto).step database call).SuspendedOut) :
    call.OpensActive crypto database := by
  cases call with
  | login dto clientInfo draws now =>
      intro user authenticated admitted
      have live : (AuthCall.procedure crypto (.login dto clientInfo draws now)).Serves
          (fun _ after => after.LiveFor database user) database := by
        refine serves_kept_bind (serves_consult_bind (fun other found => ?_) fun error failed => ?_)
          fun _ _ kept => serves_pure kept
        · rw [authenticated] at found
          cases found
          exact liveFor_issueTokens admitted
        · rw [authenticated] at failed
          cases failed
      obtain ⟨_, _, sameUsers, session, present, own, isLive⟩ := live.serve
      by_contra inactive
      have member : user ∈ ((accounts crypto).step database
          (.login dto clientInfo draws now)).users := by
        change user ∈ Database.users (Script.serve _ database).2
        rw [sameUsers]
        exact authenticate_eq_some authenticated
      have dead := suspended user member (by simpa using inactive) session present own
      rw [isLive] at dead
      cases dead
  | _ =>
      trivial

/-! ## Closed doors -/

/-- A suspended user has no live session, and none when the account is active again. -/
structure ClosedDoors (crypto : Crypto Token Digest) (database : Database Token Digest) :
    Prop where
  closed : database.SuspendedOut
  no_revival : ∀ user ∈ database.users, user.isActive = false → ∀ actorUserId now,
    ∀ session ∈ ((accounts crypto).step database
        (.updateUserStatus ⟨user.id, true, actorUserId⟩ now)).sessions,
      session.userId = user.id → session.isLive = false

/-- A reactivation leaves the sessions as they are. -/
theorem sessions_reactivate {userId actorUserId : UserId} {now : Time} :
    ((accounts crypto).step database
      (.updateUserStatus ⟨userId, true, actorUserId⟩ now)).sessions = database.sessions := by
  have same : (AuthCall.procedure crypto
      (.updateUserStatus ⟨userId, true, actorUserId⟩ now)).Serves
      (fun _ after => after.sessions = database.sessions) database := by
    refine serves_kept_bind (serves_consult_bind (fun user _ => ?_) fun _ _ => rfl)
      fun _ _ kept => serves_pure kept
    refine serves_require_bind (fun _ => ?_) fun _ => rfl
    refine serves_bind (serves_updateUser (fun stored _ => ?_) rfl)
    simp only [Follows, changedStatus, Bool.true_eq_false, if_false]
    exact serves_kept_pure rfl
  obtain ⟨_, _, kept⟩ := same.serve
  exact kept

theorem closedDoors_iff : ClosedDoors crypto database ↔ database.SuspendedOut := by
  refine ⟨ClosedDoors.closed, fun closed => ⟨closed, ?_⟩⟩
  intro user member inactive actorUserId now session present own
  rw [sessions_reactivate] at present
  exact closed user member inactive session present own

end Calls

/-- The doors stay closed in every state of a run exactly if every login which opens a
session is that of an active user. -/
theorem doors_closed_iff [DecidableEq Digest] (crypto : Crypto Token Digest)
    (calls : List (AuthCall Token)) :
    (accounts crypto).Along
        (fun database call => ClosedDoors crypto ((accounts crypto).step database call))
        (Database.initial Token Digest) calls ↔
      (accounts crypto).Along (fun database call => call.OpensActive crypto database)
        (Database.initial Token Digest) calls := by
  have kept : ∀ database call, database.SuspendedOut → call.OpensActive crypto database →
      ((accounts crypto).step database call).SuspendedOut := by
    intro database call suspended active
    obtain ⟨_, _, after⟩ := (suspendedOut_call suspended active).serve
    exact after
  refine @Machine.along_iff_along _ _ (accounts crypto) Database.SuspendedOut _ _
    (fun database call suspended => ?_) kept _ ?_ calls
  · rw [closedDoors_iff]
    exact ⟨opensActive_of_suspendedOut, kept database call suspended⟩
  · intro user member
    exact absurd member (Table.not_mem_empty user)

section Sample

/-- A user is suspended, and logs in again. -/
def sampleSuspension : List (AuthCall SampleToken) :=
  [.register sampleRegistration none (sampleDraws 0) 1000,
    .updateUserStatus ⟨0, false, 9⟩ 2000, .login sampleLogin none (sampleDraws 1) 3000]

theorem suspended_user_logs_in :
    ¬ ClosedDoors sampleCrypto
      ((accounts sampleCrypto).run (Database.initial SampleToken SampleToken)
        sampleSuspension) := by
  rw [closedDoors_iff]
  unfold Database.SuspendedOut
  decide +kernel

end Sample

end Tchuno.Auth
