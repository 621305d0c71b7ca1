import Tchuno.Auth.ReauthServed
import Tchuno.Backoffice.AdminPayments
import Tchuno.Payments.Outflows

/-!
# What a request leaves

A request for a critical route reaches its handler with the challenge of its token, and
consumes it; a confirmation leaves the challenge of its token.  Nothing else touches the
challenges which are live, except that new ones take their place.
-/

namespace Tchuno.Backoffice

open Tchuno.Library Tchuno.Library.Ecma Tchuno.Payments

variable {Digest : Type} [DecidableEq Digest] (setup : Setup Digest)

/-! ## Requests which pass -/

/-- The roles and the permissions the route requires are those of the user. -/
def Permitted (policy : RoutePolicy) (user : Auth.User) (console : Console Digest) : Prop :=
  let contextAccess := user.accessContext (console.isProviderUser user.id)
  (Auth.hasAnyRole contextAccess.role policy.requiredRoles &&
    Auth.hasAllPermissions contextAccess.permissions policy.requiredPermissions) = true

/-- The call passes both guards, with the challenge it consumes. -/
structure LetIn (call : AdminPaymentsCall) (request : HttpRequest) (user : Auth.User)
    (purpose : Option String) (challenge : Auth.ReauthChallenge Digest)
    (console : Console Digest) : Prop where
  authenticated : jwtUser setup request console.reauth.users = some user
  permitted : Permitted call.policy user console
  critical : call.policy.reauth = some purpose
  present : trim (request.reauthToken.getD "") ≠ ""
  accepted : console.reauth.judge setup.crypto
    ⟨user.id, request.reauthToken.getD "", purpose⟩ request.now = .accepted challenge

/-- A token is issued to the user, who has given its password. -/
structure Confirms (confirmation : Confirmation) (user : Auth.User)
    (console : Console Digest) : Prop where
  authenticated : jwtUser setup confirmation.request console.reauth.users = some user
  password : setup.crypto.comparePassword confirmation.password user.passwordHash = true
  free : ∀ challenge ∈ console.reauth.challenges,
    challenge.tokenHash ≠ setup.crypto.sha256 confirmation.reauthToken

/-- When the token of the confirmation expires. -/
def Confirmation.expiresAt (confirmation : Confirmation) : Time :=
  confirmation.request.now + Auth.reauthLifetime setup.reauthTtlMinutes

/-! ## Requests of administrators -/

/-- What `serveAdmin` leaves: the console with rows more in its audit trail, or what the
handler makes of it. -/
inductive AdminServed (call : AdminPaymentsCall) (request : HttpRequest)
    (console : Console Digest) : Console Digest → Prop where
  | refused {reauth : Auth.ReauthDatabase Digest} {audit : List AuditLog}
      (barred : ∀ user purpose challenge,
        ¬ LetIn setup call request user purpose challenge console)
      (harmless : reauth = console.reauth ∨
        ∃ accept, reauth = console.reauth.consumeMany accept request.now)
      (logged : console.audit <:+ audit) :
      AdminServed call request console { console with reauth := reauth, audit := audit }
  | routine {user : Auth.User} {authz : Option Authz}
      (uncritical : call.policy.reauth = none) :
      AdminServed call request console
        (interceptAdminAction setup call user.id authz
          (requestInfo call.method call.path request) request console)
  | critical {user : Auth.User} {purpose : Option String}
      {challenge : Auth.ReauthChallenge Digest}
      (letIn : LetIn setup call request user purpose challenge console) :
      AdminServed call request console
        (interceptAdminAction setup call user.id
          (some ⟨(user.accessContext (console.isProviderUser user.id)).role, true⟩)
          (requestInfo call.method call.path request) request
          { console with
            reauth := console.reauth.redeem challenge.id
              ⟨user.id, request.reauthToken.getD "", purpose⟩ request.now })

/-- `consumeReauth` lets in whom the challenge is accepted of, and consumes it. -/
inductive ReauthConsumed (userId : UserId) (role : Auth.AppRole) (purpose : Option String)
    (request : HttpRequest) (console : Console Digest) :
    AccessDecision × Console Digest → Prop where
  | granted {challenge : Auth.ReauthChallenge Digest}
      (present : trim (request.reauthToken.getD "") ≠ "")
      (accepted : console.reauth.judge setup.crypto
        ⟨userId, request.reauthToken.getD "", purpose⟩ request.now = .accepted challenge) :
      ReauthConsumed userId role purpose request console
        (.granted (some ⟨role, true⟩),
          { console with
            reauth := console.reauth.redeem challenge.id
              ⟨userId, request.reauthToken.getD "", purpose⟩ request.now })
  | refused {reason : Auth.ReauthFailure} {reauth : Auth.ReauthDatabase Digest}
      {audit : List AuditLog}
      (barred : trim (request.reauthToken.getD "") = "" ∨ ∀ challenge,
        console.reauth.judge setup.crypto ⟨userId, request.reauthToken.getD "", purpose⟩
          request.now ≠ .accepted challenge)
      (harmless : reauth = console.reauth ∨
        ∃ accept, reauth = console.reauth.consumeMany accept request.now)
      (logged : console.audit <:+ audit) :
      ReauthConsumed userId role purpose request console
        (.reauthRequired reason, { console with reauth := reauth, audit := audit })

theorem consumeReauth_cases (userId : UserId) (role : Auth.AppRole) (purpose : Option String)
    (info : RequestInfo) (request : HttpRequest) (console : Console Digest) :
    ReauthConsumed setup userId role purpose request console
      (consumeReauth setup userId role purpose info request console) := by
  obtain ⟨result, returned, ends⟩ := (@Auth.serves_consumeChallenge Digest console.reauth _
    setup.crypto ⟨userId, request.reauthToken.getD "", purpose⟩ request.now).serve
  rw [consumeReauth]
  generalize Script.serve _ console.reauth = served at returned ends
  obtain ⟨_, reauth⟩ := served
  cases returned
  cases result with
  | error error =>
      exact ends.elim
  | ok value =>
      obtain ⟨ok, reason⟩ := value
      cases ok with
      | true =>
          obtain ⟨present, challenge, accepted, written⟩ := ends
          dsimp only at written ⊢
          rw [written]
          exact .granted present accepted
      | false =>
          obtain ⟨barred, harmless⟩ := ends
          exact .refused barred harmless (List.suffix_cons _ _)

theorem policy_guarded (call : AdminPaymentsCall) :
    ¬ (call.policy.requiredRoles = [] ∧ call.policy.requiredPermissions = []) := by
  rintro ⟨anyone, _⟩
  cases call <;> cases anyone

theorem serveAdmin_cases (call : AdminPaymentsCall) (request : HttpRequest)
    (console : Console Digest) :
    AdminServed setup call request console (serveAdmin setup call request console) := by
  rw [serveAdmin]
  cases authenticated : jwtUser setup request console.reauth.users with
  | none =>
      refine @AdminServed.refused _ _ setup _ _ _ _ _ ?_ (.inl rfl) List.suffix_rfl
      intro user purpose challenge letIn
      rw [letIn.authenticated] at authenticated
      cases authenticated
  | some user =>
      have sameUser : ∀ {other purpose challenge},
          LetIn setup call request other purpose challenge console → other = user := by
        intro other purpose challenge letIn
        exact Option.some.inj (letIn.authenticated.symm.trans authenticated)
      dsimp only
      rw [canActivate, if_neg (policy_guarded call)]
      dsimp only
      split_ifs with permitted
      · cases required : call.policy.reauth with
        | none =>
            exact .routine required
        | some purpose =>
            dsimp only
            generalize reached : consumeReauth setup user.id _ purpose _ request console = served
            have consumed := reached ▸ consumeReauth_cases setup user.id _ purpose _ request console
            cases consumed with
            | granted present accepted =>
                exact .critical ⟨authenticated, permitted, required, present, accepted⟩
            | refused barred harmless logged =>
                refine .refused ?_ harmless logged
                intro other given challenge letIn
                obtain rfl := sameUser letIn
                obtain rfl := Option.some.inj (letIn.critical.symm.trans required)
                exact barred.elim letIn.present fun never => never challenge letIn.accepted
      · refine @AdminServed.refused _ _ setup _ _ _ _ _ ?_ (.inl rfl) (List.suffix_cons _ _)
        intro other purpose challenge letIn
        obtain rfl := sameUser letIn
        exact permitted letIn.permitted

/-! ## Confirmations -/

/-- What `serveConfirm` leaves. -/
inductive ConfirmServed (confirmation : Confirmation) (console : Console Digest) :
    Console Digest → Prop where
  | refused {audit : List AuditLog}
      (barred : ∀ user, ¬ Confirms setup confirmation user console)
      (logged : console.audit <:+ audit) :
      ConfirmServed confirmation console { console with audit := audit }
  | issued {user : Auth.User} {reauth : Auth.ReauthDatabase Digest} {audit : List AuditLog}
      (confirms : Confirms setup confirmation user console)
      (issued : Auth.Issued (setup.crypto.sha256 confirmation.reauthToken)
        (confirmation.input user.id) (confirmation.expiresAt setup) confirmation.request.now
        console.reauth reauth)
      (logged : console.audit <:+ audit) :
      ConfirmServed confirmation console { console with reauth := reauth, audit := audit }

omit [DecidableEq Digest] in
theorem jwtUser_eq_some {request : HttpRequest} {users : Table Auth.User} {user : Auth.User}
    (authenticated : jwtUser setup request users = some user) :
    users.find? user.id = some user ∧ user.isActive = true := by
  obtain ⟨found, active⟩ := Option.filter_eq_some_iff.mp authenticated
  obtain ⟨userId, _, stored⟩ := Option.bind_eq_some_iff.mp found
  exact ⟨users.find?_key stored, active⟩

omit [DecidableEq Digest] in
/-- For a user the first guard has found, only the password counts. -/
theorem refusedConfirmation_eq_none {users : Table Auth.User} {user : Auth.User}
    (stored : users.find? user.id = some user) (active : user.isActive = true)
    (password : String) :
    refusedConfirmation setup user.id password users = none ↔
      setup.crypto.comparePassword password user.passwordHash = true := by
  rw [refusedConfirmation, stored, Option.filter_some, if_pos active]
  dsimp only
  split_ifs with matched
  · simp [matched]
  · simp [matched]

theorem serveConfirm_cases (confirmation : Confirmation) (console : Console Digest) :
    ConfirmServed setup confirmation console (serveConfirm setup confirmation console) := by
  rw [serveConfirm]
  cases authenticated : jwtUser setup confirmation.request console.reauth.users with
  | none =>
      refine @ConfirmServed.refused _ setup _ _ _ (fun user confirms => ?_) List.suffix_rfl
      rw [confirms.authenticated] at authenticated
      cases authenticated
  | some user =>
      have sameUser : ∀ {other}, Confirms setup confirmation other console → other = user :=
        fun confirms => Option.some.inj (confirms.authenticated.symm.trans authenticated)
      obtain ⟨stored, active⟩ := jwtUser_eq_some setup authenticated
      have recognised := refusedConfirmation_eq_none setup stored active confirmation.password
      dsimp only
      cases verdict : refusedConfirmation setup user.id confirmation.password
          console.reauth.users with
      | some refusal =>
          refine .refused (fun other confirms => ?_) (List.suffix_cons _ _)
          obtain rfl := sameUser confirms
          rw [recognised.mpr confirms.password] at verdict
          cases verdict
      | none =>
          have password := recognised.mp verdict
          obtain ⟨result, returned, ends⟩ := (@Auth.serves_confirmByPassword Digest
            console.reauth _ setup.crypto (confirmation.input user.id)
            confirmation.reauthToken setup.reauthTtlMinutes confirmation.request.now).serve
          generalize Script.serve _ console.reauth = served at returned ends ⊢
          obtain ⟨_, reauth⟩ := served
          cases returned
          cases result with
          | ok token =>
              obtain ⟨rfl, issued⟩ := ends
              exact .issued ⟨authenticated, password, issued.free⟩ issued (List.suffix_cons _ _)
          | error error =>
              obtain ⟨unwritten, used⟩ := ends
              dsimp only at unwritten
              rw [unwritten]
              refine @ConfirmServed.refused _ setup _ _ _ (fun other confirms => ?_)
                List.suffix_rfl
              obtain ⟨challenge, member, same⟩ := used ⟨user, stored, active, password⟩
              exact confirms.free challenge member same

end Tchuno.Backoffice
