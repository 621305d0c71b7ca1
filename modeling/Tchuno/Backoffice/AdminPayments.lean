import Tchuno.Auth.ReauthTokens
import Tchuno.Backoffice.AuditTrail
import Tchuno.Payments.Reconciliation
import Tchuno.Payments.Runs
import Tchuno.Requests.Services

/-!
# The admin routes of payments

A request to `AdminPaymentsController` passes `JwtAuthGuard` and `AccessPolicyGuard`, is
handled by the payments service and is recorded by `AdminActionAuditInterceptor`.  The
requests are served one after another.
-/

namespace Tchuno.Backoffice

open Tchuno.Library Tchuno.Library.Ecma Tchuno.Payments

/-! ## Requests -/

/-- What the server is configured with. -/
structure Setup (Digest : Type) where
  /-- the subject of a bearer token which is valid at that time -/
  verify : String → Time → Option UserId
  crypto : Auth.ReauthCrypto Digest
  reauthTtlMinutes : Option ℚ
  /-- `Date.prototype.toISOString` -/
  isoString : Time → JsString
  policy : PaymentPolicy
  reconciliation : ReconciliationEnvironment

structure HttpRequest where
  bearer : Option String
  /-- `x-reauth-token` -/
  reauthToken : Option String
  ipAddress : Option JsString
  userAgent : Option JsString
  now : Time

/-- The tables, with the rows of the audit trail newest first; `clock` is when the latest
request came, which nothing reads. -/
structure Console (Digest : Type) where
  reauth : Auth.ReauthDatabase Digest
  store : Store
  audit : List AuditLog
  clock : Time

inductive PaymentsResource where
  | overview | intents | transactions | refunds | payouts
  deriving DecidableEq, Repr

/-- A request to one of the routes, with the answer the gateway gives if it is asked. -/
inductive AdminPaymentsCall where
  | read (resource : PaymentsResource)
  | createRefund (dto : CreateRefundRequestDto) (answer : GatewayResult)
  | approveRefund (id : RefundId) (decisionNote : Option String) (answer : GatewayResult)
  | rejectRefund (id : RefundId) (dto : RejectRefundRequestDto)
  | createPayout (dto : CreatePayoutDto)
  | approvePayout (id : PayoutId)
  | processPayout (id : PayoutId) (dto : ProcessPayoutDto) (answer : GatewayResult)
  | releaseFunds (jobId : JobId)
  | reconcilePending (limit minAgeMinutes : EnvNumber) (turns : Nat → QueryTurn)

namespace AdminPaymentsCall

def method : AdminPaymentsCall → String
  | .read _ => "GET"
  | _ => "POST"

def path : AdminPaymentsCall → String
  | .read .overview => "/admin/payments/overview"
  | .read .intents => "/admin/payments/intents"
  | .read .transactions => "/admin/payments/transactions"
  | .read .refunds => "/admin/payments/refunds"
  | .read .payouts => "/admin/payments/payouts"
  | .createRefund .. => "/admin/payments/refunds"
  | .approveRefund id .. => "/admin/payments/refunds/" ++ renderId id ++ "/approve"
  | .rejectRefund id _ => "/admin/payments/refunds/" ++ renderId id ++ "/reject"
  | .createPayout _ => "/admin/payments/payouts"
  | .approvePayout id => "/admin/payments/payouts/" ++ renderId id ++ "/approve"
  | .processPayout id .. => "/admin/payments/payouts/" ++ renderId id ++ "/process"
  | .releaseFunds jobId => "/admin/payments/release/" ++ renderId jobId
  | .reconcilePending .. => "/admin/payments/reconcile/pending"

/-- `request.params?.id` -/
def paramId : AdminPaymentsCall → Option Nat
  | .approveRefund id .. => some id
  | .rejectRefund id _ => some id
  | .approvePayout id => some id
  | .processPayout id .. => some id
  | _ => none

end AdminPaymentsCall

/-- A request to confirm a password; the token is drawn by the server. -/
structure Confirmation where
  password : String
  purpose : Option String
  reauthToken : String
  request : HttpRequest

def Confirmation.input (confirmation : Confirmation) (userId : UserId) : Auth.ConfirmInput :=
  ⟨userId, confirmation.password, confirmation.purpose⟩

def isAdminOperation : Operation → Bool
  | .adminRejectRefund .. => true
  | .adminApproveRefund .. => true
  | .adminCreateRefund .. => true
  | .adminCreatePayout .. => true
  | .adminApprovePayout .. => true
  | .adminProcessPayout .. => true
  | .adminReleaseProviderFunds .. => true
  | _ => false

/-- An account is created, or changed in any way.  None is deleted: the database would take
its name out of the ledger and the audit trail. -/
inductive AccountWrite where
  | create (user : Auth.User)
  | change (userId : UserId) (rewrite : Auth.User → Auth.User)

def AccountWrite.apply (users : Table Auth.User) : AccountWrite → Table Auth.User
  | .create user => users.place user
  | .change userId rewrite =>
      users.update userId fun user => { rewrite user with id := user.id }

/-- The operations of administrators are called by their routes alone, all others at any
time. -/
inductive Event where
  | account (write : AccountWrite)
  | confirm (confirmation : Confirmation)
  | admin (call : AdminPaymentsCall) (request : HttpRequest)
  | operate (operation : { operation : Operation // isAdminOperation operation = false })

def Event.time? : Event → Option Time
  | .confirm confirmation => some confirmation.request.now
  | .admin _ request => some request.now
  | _ => none

/-! ## Guards -/

/-- What the decorators of a route require; `reauth` carries the purpose, if it has one. -/
structure RoutePolicy where
  requiredRoles : List Auth.AppRole
  requiredPermissions : List Auth.Permission
  reauth : Option (Option String)

def managePayments (reauth : Option (Option String)) : RoutePolicy :=
  ⟨Auth.adminOpsRoles, [.adminPaymentsManage], reauth⟩

def AdminPaymentsCall.policy : AdminPaymentsCall → RoutePolicy
  | .read _ => ⟨Auth.adminOpsRoles, [.adminPaymentsRead], none⟩
  | .createRefund .. => managePayments (some (some "admin.payments.refund"))
  | .approveRefund .. => managePayments (some (some "admin.payments.refund"))
  | .rejectRefund .. => managePayments (some (some "admin.payments.refund"))
  | .createPayout _ => managePayments (some (some "admin.payments.payout.create"))
  | .approvePayout _ => managePayments (some (some "admin.payments.payout.approve"))
  | .processPayout .. => managePayments (some (some "admin.payments.payout.process"))
  | .releaseFunds _ => managePayments (some (some "admin.payments.release"))
  | .reconcilePending .. => managePayments none

/-- `request.authz` -/
structure Authz where
  role : Auth.AppRole
  reauthRequired : Bool
  deriving DecidableEq

inductive AccessDecision where
  | granted (authz : Option Authz)
  | unauthorized
  | forbidden
  | reauthRequired (reason : Auth.ReauthFailure)
  /-- an exception of the database -/
  | failed (error : Option Auth.AuthError)

def reauthReason : Auth.ReauthFailure → JsString
  | .missingToken => .ofString "missing_token"
  | .invalidOrExpired => .ofString "invalid_or_expired"
  | .alreadyUsed => .ofString "already_used"
  | .purposeMismatch => .ofString "purpose_mismatch"

section Serving

variable {Digest : Type} [DecidableEq Digest] (setup : Setup Digest)

/-- `JwtStrategy.validate`, once the bearer token is verified. -/
def jwtUser (request : HttpRequest) (users : Table Auth.User) : Option Auth.User :=
  ((request.bearer.bind fun token => setup.verify token request.now).bind users.find?).filter
    Auth.User.isActive

def Console.isProviderUser (console : Console Digest) (userId : UserId) : Bool :=
  (Requests.profileOf? userId console.store.market).isSome

/-- The row of the reauthentication, if there is one, is written in `ReauthService`. -/
def consumeReauth (userId : UserId) (role : Auth.AppRole) (purpose : Option String)
    (info : RequestInfo) (request : HttpRequest) (console : Console Digest) :
    AccessDecision × Console Digest :=
  match (Auth.consumeChallenge setup.crypto ⟨userId, request.reauthToken.getD "", purpose⟩
      request.now).serve console.reauth with
  | (some (.ok ⟨true, _⟩), reauth) =>
      (.granted (some ⟨role, true⟩), { console with reauth := reauth })
  | (some (.ok ⟨false, reason⟩), reauth) =>
      let reason := reason.getD .invalidOrExpired
      (.reauthRequired reason,
        { console with
          reauth := reauth
          audit := logReauthFailure info userId (roleName role) (reauthReason reason) ::
            console.audit })
  | (some (.error error), reauth) => (.failed (some error), { console with reauth := reauth })
  | (none, reauth) => (.failed none, { console with reauth := reauth })

/-- `AccessPolicyGuard.canActivate`, for the user the other guard has found. -/
def canActivate (policy : RoutePolicy) (info : RequestInfo) (user : Option Auth.User)
    (request : HttpRequest) (console : Console Digest) : AccessDecision × Console Digest :=
  if policy.requiredRoles = [] ∧ policy.requiredPermissions = [] then
    (.granted none, console)
  else
    match user with
    | none =>
        (.unauthorized,
          { console with
            audit := logForbiddenAccess info none .guest policy.requiredRoles
              policy.requiredPermissions "unauthenticated" :: console.audit })
    | some user =>
        let contextAccess := user.accessContext (console.isProviderUser user.id)
        if Auth.hasAnyRole contextAccess.role policy.requiredRoles &&
            Auth.hasAllPermissions contextAccess.permissions policy.requiredPermissions then
          match policy.reauth with
          | none => (.granted (some ⟨contextAccess.role, false⟩), console)
          | some purpose =>
              consumeReauth setup user.id contextAccess.role purpose info request console
        else
          (.forbidden,
            { console with
              audit := logForbiddenAccess info (some user.id) contextAccess.role
                policy.requiredRoles policy.requiredPermissions "insufficient_permissions" ::
                  console.audit })

/-! ## Handlers -/

/-- The service a route calls. -/
def AdminPaymentsCall.service (call : AdminPaymentsCall) (userId : UserId) (now : Time) :
    Service Unit :=
  match call with
  | .read _ => pure ()
  | .createRefund dto answer => do
      let _ ← adminCreateRefund userId dto answer now
      pure ()
  | .approveRefund id decisionNote answer => do
      let _ ← adminApproveRefund userId id decisionNote answer now
      pure ()
  | .rejectRefund id dto => do
      let _ ← adminRejectRefund userId id dto now
      pure ()
  | .createPayout dto => do
      let _ ← adminCreatePayout userId dto
      pure ()
  | .approvePayout id => do
      let _ ← adminApprovePayout userId id
      pure ()
  | .processPayout id dto answer => do
      let _ ← adminProcessPayout userId id dto answer now
      pure ()
  | .releaseFunds jobId => do
      let _ ← adminReleaseProviderFunds setup.policy userId jobId now
      pure ()
  | .reconcilePending limit minAgeMinutes turns => do
      let _ ← reconcilePendingChargeTransactions setup.reconciliation
        ⟨some .manual, limit, minAgeMinutes⟩ now turns
      pure ()

/-- `error.message` -/
def errorReason : Except ApiError Unit → Option JsString
  | .ok _ => none
  | .error error => some (.ofString (ReconciliationFailure.api error).message)

/-- The handler between the two halves of `AdminActionAuditInterceptor`. -/
def interceptAdminAction (call : AdminPaymentsCall) (userId : UserId) (authz : Option Authz)
    (info : RequestInfo) (request : HttpRequest) (console : Console Digest) :
    Console Digest :=
  let outcome := call.service setup userId request.now console.store
  let targetId := call.paramId.map identifierText
  { console with
    store := outcome.state
    audit := logAdminAction info userId ((authz.map Authz.role).getD .admin)
      (info.method ++ .ofString " " ++ info.path) outcome.result.toBool
      (.ofString (if targetId.isSome then "entity" else "route")) targetId
      (errorReason outcome.result) ((authz.map Authz.reauthRequired).getD false) ::
        console.audit }

def requestInfo (method path : String) (request : HttpRequest) : RequestInfo where
  method := .ofString method
  path := .ofString path
  ipAddress := request.ipAddress
  userAgent := request.userAgent

/-- A request to `AdminPaymentsController`. -/
def serveAdmin (call : AdminPaymentsCall) (request : HttpRequest) (console : Console Digest) :
    Console Digest :=
  match jwtUser setup request console.reauth.users with
  | none => console
  | some user =>
      let info := requestInfo call.method call.path request
      match canActivate setup call.policy info (some user) request console with
      | (.granted authz, admitted) =>
          interceptAdminAction setup call user.id authz info request admitted
      | (_, refused) => refused

/-! ## Confirmation -/

/-- What `confirmByPassword` records of a refusal. -/
def refusedConfirmation (userId : UserId) (password : String)
    (users : Table Auth.User) : Option (JsString × JsString) :=
  match (users.find? userId).filter Auth.User.isActive with
  | none => some (roleName .guest, .ofString "user_not_found_or_inactive")
  | some user =>
      if setup.crypto.comparePassword password user.passwordHash then none
      else some (resolveRoleLabel user, .ofString "invalid_password")

/-- `POST /auth/reauth/confirm`. -/
def serveConfirm (confirmation : Confirmation) (console : Console Digest) : Console Digest :=
  let request := confirmation.request
  match jwtUser setup request console.reauth.users with
  | none => console
  | some user =>
      let info := requestInfo "POST" "/auth/reauth/confirm" request
      match refusedConfirmation setup user.id confirmation.password console.reauth.users with
      | some (role, reason) =>
          { console with audit := logReauthFailure info user.id role reason :: console.audit }
      | none =>
          match (Auth.confirmByPassword setup.crypto (confirmation.input user.id)
              confirmation.reauthToken setup.reauthTtlMinutes request.now).serve
                console.reauth with
          | (some (.ok issued), reauth) =>
              { console with
                reauth := reauth
                audit := logReauthSuccess info user.id (resolveRoleLabel user)
                  confirmation.purpose (setup.isoString issued.expiresAt) :: console.audit }
          | (_, reauth) => { console with reauth := reauth }

/-! ## Runs -/

def serveEvent (console : Console Digest) : Event → Console Digest
  | .account write =>
      { console with
        reauth := { console.reauth with users := write.apply console.reauth.users } }
  | .confirm confirmation =>
      { serveConfirm setup confirmation console with clock := confirmation.request.now }
  | .admin call request =>
      { serveAdmin setup call request console with clock := request.now }
  | .operate operation => { console with store := operation.val.perform console.store }

def backoffice : Machine (Console Digest) Event where
  step := serveEvent setup

end Serving

/-- Nobody has reauthenticated and nothing was paid yet. -/
structure Console.IsInitial {Digest : Type} (console : Console Digest) : Prop where
  challenges : console.reauth.challenges = .empty
  redemptions : console.reauth.redemptions = []
  store : console.store.IsInitial

/-- The request does not come before the latest. -/
def InOrder {Digest : Type} (console : Console Digest) (event : Event) : Prop :=
  ∀ now ∈ event.time?, console.clock ≤ now

instance {Digest : Type} (console : Console Digest) (event : Event) :
    Decidable (InOrder console event) :=
  inferInstanceAs (Decidable (∀ now ∈ event.time?, console.clock ≤ now))

end Tchuno.Backoffice
