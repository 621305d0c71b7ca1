import Tchuno.Auth.TokenFamily

/-!
# The tokens a call issues

A call issues at most one refresh token, and returns it.  A registration or a login issues
it for a session of its own, a refresh for the session whose newest token it was given.
-/

namespace Tchuno.Auth

open Tchuno.Library Tchuno.Library.Ecma Tchuno.Library.Script

variable {Token Digest : Type}

def AuthCall.signsIn : AuthCall Token → Bool
  | .register .. | .login .. => true
  | _ => false

/-- What a call does to the history of the tokens, and what it returns. -/
inductive Issues (before : Database Token Digest) :
    AuthCall Token → Except AuthError (AuthReply Token) → Database Token Digest → Prop where
  | nothing {call : AuthCall Token} {result : Except AuthError (AuthReply Token)}
      {after : Database Token Digest} (same : after.issued = before.issued)
      (returned : ∀ response, result ≠ .ok (.tokens response)) :
      Issues before call result after
  | opened {call : AuthCall Token} {response : AuthResponse Token}
      {after : Database Token Digest} {sessionId : SessionId} (signsIn : call.signsIn = true)
      (fresh : before.issuedFor sessionId = [])
      (issued : after.issued = (sessionId, response.refreshToken) :: before.issued) :
      Issues before call (.ok (.tokens response)) after
  | renewed {token : Token} {clientInfo : Option SessionClientInfo} {draws : Draws}
      {now : Time} {response : AuthResponse Token} {after : Database Token Digest}
      {sessionId : SessionId} {older : List Token}
      (newest : before.issuedFor sessionId = token :: older)
      (issued : after.issued = (sessionId, response.refreshToken) :: before.issued) :
      Issues before (.refresh (some token) clientInfo draws now) (.ok (.tokens response)) after

theorem issuedFor_of_issued {before after : Database Token Digest} {sessionId : SessionId}
    {token : Token} (issued : after.issued = (sessionId, token) :: before.issued)
    (other : SessionId) :
    after.issuedFor other =
      if sessionId = other then token :: before.issuedFor other else before.issuedFor other := by
  by_cases same : sessionId = other <;> simp [Database.issuedFor, issued, same]

theorem issuedFor_of_same {before after : Database Token Digest}
    (same : after.issued = before.issued) (sessionId : SessionId) :
    after.issuedFor sessionId = before.issuedFor sessionId := by
  rw [Database.issuedFor, Database.issuedFor, same]

/-- No token was issued for an identifier which is free. -/
theorem Database.Linked.issuedFor_eq_nil {database : Database Token Digest}
    {crypto : Crypto Token Digest} (linked : database.Linked crypto) {sessionId : SessionId}
    (free : database.sessions.find? sessionId = none) :
    database.issuedFor sessionId = [] := by
  rw [Database.issuedFor, List.map_eq_nil_iff, List.filter_eq_nil_iff]
  intro entry issued same
  obtain ⟨session, present, sameId, _⟩ := linked.signed entry issued
  refine (Table.find?_eq_none_iff _).mp free session present ?_
  exact sameId.trans (of_decide_eq_true same)

section Calls

variable [DecidableEq Digest] {crypto : Crypto Token Digest}
  {database : Database Token Digest} {issued : List (SessionId × Token)}

/-! ## Calls which issue nothing -/

omit [DecidableEq Digest] in
theorem quiet_revokeSessions {accept : Session Digest → Bool} {now : Time}
    (before : database.issued = issued) :
    (revokeSessions accept now : Procedure Token Digest Unit).Serves
      (fun _ after => after.issued = issued) database :=
  serves_revokeSessions before

omit [DecidableEq Digest] in
theorem quiet_rewriteUser {userId : UserId} {change : User → User}
    {keeps : ∀ user, Keyed.key (change user) = Keyed.key user} {signsOut : User → Prop}
    [DecidablePred signsOut] {now : Time} (before : database.issued = issued) :
    (do
      let updatedUser ← updateUser userId change keeps
      if signsOut updatedUser then
        revokeSessions (fun session => session.userId = updatedUser.id) now
      else
        pure ()
      pure updatedUser : Procedure Token Digest User).Serves
      (fun _ after => after.issued = issued) database := by
  refine serves_kept_bind (serves_updateUser (fun _ _ => before) before)
    fun updated middle written => ?_
  split_ifs
  · exact serves_kept_bind (quiet_revokeSessions written) fun _ _ quiet =>
      serves_kept_pure quiet
  · exact serves_kept_pure written

omit [DecidableEq Digest] in
/-- The user is looked up and rewritten, if the actor may. -/
theorem quiet_administration {userId : UserId} {condition : User → Prop}
    [DecidablePred condition] {error : AuthError} {change : User → User}
    {keeps : ∀ user, Keyed.key (change user) = Keyed.key user} {signsOut : User → User → Prop}
    [∀ target, DecidablePred (signsOut target)] {now : Time}
    (before : database.issued = issued) :
    (do
      let targetUser ← findTargetUser userId
      require (condition targetUser) error
      let updatedUser ← updateUser targetUser.id change keeps
      if signsOut targetUser updatedUser then
        revokeSessions (fun session => session.userId = updatedUser.id) now
      else
        pure ()
      pure updatedUser : Procedure Token Digest User).Serves
      (fun _ after => after.issued = issued) database := by
  refine serves_kept_bind ⟨_, _, rfl, before⟩ fun target middle found => ?_
  refine serves_kept_bind ⟨_, _, rfl, found⟩ fun _ middle met => ?_
  exact quiet_rewriteUser met

omit [DecidableEq Digest] in
/-- What returns no tokens and keeps their history. -/
theorem issues_nothing {call : AuthCall Token} {α : Type} {procedure : Procedure Token Digest α}
    {reply : α → AuthReply Token} (silent : ∀ value response, reply value ≠ .tokens response)
    (quiet : procedure.Serves (fun _ after => after.issued = database.issued) database) :
    (do
      let value ← procedure
      pure (reply value) : Procedure Token Digest (AuthReply Token)).Serves
      (Issues database call) database := by
  refine serves_bind (quiet.mono fun result after same => ?_)
  cases result with
  | ok value =>
      exact serves_pure (.nothing same fun response wrong =>
        silent value response (Except.ok.inj wrong))
  | error error =>
      exact .nothing same nofun

/-! ## Calls which issue a token -/

omit [DecidableEq Digest] in
/-- A token is returned as it was issued. -/
theorem issues_tokens {call : AuthCall Token}
    {procedure : Procedure Token Digest (AuthResponse Token)}
    (issues : procedure.Serves
      (fun result => Issues database call (result.map AuthReply.tokens)) database) :
    (do
      let response ← procedure
      pure (.tokens response) : Procedure Token Digest (AuthReply Token)).Serves
      (Issues database call) database := by
  refine serves_bind (issues.mono fun result after issued => ?_)
  cases result with
  | ok response =>
      exact serves_pure issued
  | error error =>
      exact issued

theorem issues_issueTokens (linked : database.Linked crypto) {start : Database Token Digest}
    {call : AuthCall Token} (signsIn : call.signsIn = true) {user : User}
    {clientInfo : Option SessionClientInfo} {draws : Draws} {now : Time}
    (same : database.issued = start.issued) :
    (issueTokens crypto user clientInfo none draws now).Serves
      (fun result => Issues start call (result.map AuthReply.tokens)) database := by
  refine serves_issueTokens (fun _ => .nothing same nofun) fun admitted => ?_
  have fresh : start.issuedFor draws.sessionId = [] := by
    rw [← issuedFor_of_same same]
    exact linked.issuedFor_eq_nil (admitsSession_iff.mp admitted).1
  refine serves_issueTokensFor ?_ fun _ => .nothing same nofun
  exact .opened signsIn fresh (congrArg (List.cons _) same)

theorem issues_register (linked : database.Linked crypto) {dto : RegisterDto}
    {clientInfo : Option SessionClientInfo} {draws : Draws} {now : Time} :
    (register crypto dto clientInfo draws now).Serves
      (fun result => Issues database (.register dto clientInfo draws now)
        (result.map AuthReply.tokens)) database := by
  refine serves_select_bind (serves_require_bind (fun _ => ?_) fun _ => .nothing rfl nofun)
  refine serves_bind (serves_createUser (fun admitted => ?_) (.nothing rfl nofun))
  have created := (Effect.userCreated database _ admitted).linked linked
  exact issues_issueTokens created rfl rfl

theorem issues_login (linked : database.Linked crypto) {dto : LoginDto}
    {clientInfo : Option SessionClientInfo} {draws : Draws} {now : Time} :
    (login crypto dto clientInfo draws now).Serves
      (fun result => Issues database (.login dto clientInfo draws now)
        (result.map AuthReply.tokens)) database :=
  serves_consult_bind (fun _ _ => issues_issueTokens linked rfl rfl) fun _ _ =>
    .nothing rfl nofun

theorem issues_refresh (sound : crypto.Sound) (linked : database.Linked crypto)
    {refreshToken : Option Token} {clientInfo : Option SessionClientInfo} {draws : Draws}
    {now : Time} :
    (refresh crypto refreshToken clientInfo draws now).Serves
      (fun result => Issues database (.refresh refreshToken clientInfo draws now)
        (result.map AuthReply.tokens)) database := by
  refine serves_refresh (fun _ => .nothing rfl nofun) (fun _ _ _ _ _ => .nothing rfl nofun) ?_
  intro token payload session user presented accepted
  obtain ⟨rfl, valid⟩ := presented?_eq_some.mp presented
  obtain ⟨older, newest⟩ := issuedFor_of_accepted sound linked valid accepted
  exact serves_issueTokensFor (.renewed newest rfl) fun _ => .nothing rfl nofun

/-- What any call does to the tokens. -/
theorem issues_call (sound : crypto.Sound) (linked : database.Linked crypto)
    (call : AuthCall Token) : (call.procedure crypto).Serves (Issues database call) database := by
  cases call with
  | register dto clientInfo draws now =>
      exact issues_tokens (issues_register linked)
  | login dto clientInfo draws now =>
      exact issues_tokens (issues_login linked)
  | refresh refreshToken clientInfo draws now =>
      exact issues_tokens (issues_refresh sound linked)
  | logout refreshToken now =>
      refine issues_nothing (fun _ _ => nofun) ?_
      cases refreshToken with
      | none =>
          exact serves_kept_pure rfl
      | some token =>
          exact quiet_revokeSessions rfl
  | logoutAll userId now =>
      exact issues_nothing (fun _ _ => nofun) (quiet_revokeSessions rfl)
  | revokeSession userId sessionId now =>
      exact issues_nothing (fun _ _ => nofun) (quiet_revokeSessions rfl)
  | updateUserRole input now =>
      exact issues_nothing (fun _ _ => nofun) (quiet_administration rfl)
  | updateUserStatus input now =>
      exact issues_nothing (fun _ _ => nofun) (quiet_administration rfl)

end Calls

end Tchuno.Auth
