import Tchuno.Auth.Administration
import Tchuno.Auth.AuditMetadata
import Tchuno.Payments.Gateway

/-!
# The audit trail

`SecurityAuditService`: every denied access, every reauthentication and every action of an
administrator becomes a row, its texts trimmed and cut and its metadata sanitised.
-/

namespace Tchuno.Backoffice

open Tchuno.Library Tchuno.Payments

inductive AuditStatus where
  | success | failed | denied
  deriving DecidableEq, Repr

structure AuditEventInput where
  actorUserId : Option UserId
  actorRole : Option JsString
  action : JsString
  targetType : Option JsString
  targetId : Option JsString
  status : AuditStatus
  reason : Option JsString
  ipAddress : Option JsString
  userAgent : Option JsString
  route : JsString
  method : JsString
  metadata : Auth.Metadata

structure AuditLog where
  actorUserId : Option UserId
  actorRole : Option JsString
  action : JsString
  targetType : Option JsString
  targetId : Option JsString
  status : AuditStatus
  reason : Option JsString
  ipAddress : Option JsString
  userAgent : Option JsString
  route : JsString
  method : JsString
  metadata : Option Auth.Metadata

def sanitizeNullable (value : Option JsString) (maxLength : Nat) : Option JsString :=
  ((value.map JsString.trim).filter fun text => text ≠ []).map (JsString.sliceTo maxLength)

def recordAuditEvent (input : AuditEventInput) : AuditLog where
  actorUserId := input.actorUserId
  actorRole := sanitizeNullable input.actorRole 64
  action := input.action
  targetType := sanitizeNullable input.targetType 64
  targetId := sanitizeNullable input.targetId 128
  status := input.status
  reason := sanitizeNullable input.reason 512
  ipAddress := sanitizeNullable input.ipAddress 64
  userAgent := sanitizeNullable input.userAgent 512
  route := (sanitizeNullable (some input.route) 256).getD (.ofString "unknown")
  method := (sanitizeNullable (some input.method) 16).getD (.ofString "UNKNOWN")
  metadata :=
    let sanitized := input.metadata.sanitizeMetadata
    if sanitized.isFalsy then none else some sanitized

/-! ## Names in the rows -/

def roleName : Auth.AppRole → JsString
  | .guest => .ofString "guest"
  | .customer => .ofString "customer"
  | .provider => .ofString "provider"
  | .admin => .ofString "admin"
  | .supportAdmin => .ofString "support_admin"
  | .opsAdmin => .ofString "ops_admin"
  | .superAdmin => .ofString "super_admin"

def permissionName : Auth.Permission → JsString
  | .publicRead => .ofString "public.read"
  | .customerJobsReadOwn => .ofString "customer.jobs.read.own"
  | .customerRequestsCreate => .ofString "customer.requests.create"
  | .customerRequestsInvite => .ofString "customer.requests.invite"
  | .customerRequestsReadOwn => .ofString "customer.requests.read.own"
  | .customerRequestsSelect => .ofString "customer.requests.select"
  | .customerRequestsUpdate => .ofString "customer.requests.update"
  | .customerPaymentsCreate => .ofString "customer.payments.create"
  | .customerPaymentsReadOwn => .ofString "customer.payments.read.own"
  | .customerReviewsCreate => .ofString "customer.reviews.create"
  | .customerReviewsReadOwn => .ofString "customer.reviews.read.own"
  | .providerProfileManage => .ofString "provider.profile.manage"
  | .providerJobsReadOwn => .ofString "provider.jobs.read.own"
  | .providerRequestsReadInvites => .ofString "provider.requests.read.invites"
  | .providerRequestsDeclineInvite => .ofString "provider.requests.decline.invite"
  | .providerRequestsReadOpen => .ofString "provider.requests.read.open"
  | .providerRequestsPropose => .ofString "provider.requests.propose"
  | .providerJobsStatusUpdate => .ofString "provider.jobs.status.update"
  | .providerEarningsReadOwn => .ofString "provider.earnings.read.own"
  | .providerReviewsReadReceived => .ofString "provider.reviews.read.received"
  | .adminOpsRead => .ofString "admin.ops.read"
  | .adminPaymentsRead => .ofString "admin.payments.read"
  | .adminPaymentsManage => .ofString "admin.payments.manage"
  | .adminCategoriesManage => .ofString "admin.categories.manage"
  | .adminRolesManage => .ofString "admin.roles.manage"
  | .adminUsersManage => .ofString "admin.users.manage"
  | .adminProvidersManage => .ofString "admin.providers.manage"
  | .adminOrdersManage => .ofString "admin.orders.manage"
  | .adminReportsRead => .ofString "admin.reports.read"
  | .adminModerationManage => .ofString "admin.moderation.manage"
  | .adminSupportManage => .ofString "admin.support.manage"
  | .adminSettingsManage => .ofString "admin.settings.manage"
  | .adminAuditRead => .ofString "admin.audit.read"

/-- The role `ReauthService` writes for a user. -/
def resolveRoleLabel (user : Auth.User) : JsString :=
  if user.role = .admin then roleName (Auth.resolveAdminRole user.adminSubrole)
  else roleName .customer

def identifierText (userId : UserId) : JsString :=
  .ofString (renderId userId)

/-! ## The events -/

/-- What the events of one request have in common. -/
structure RequestInfo where
  method : JsString
  /-- `originalUrl` -/
  path : JsString
  ipAddress : Option JsString
  userAgent : Option JsString

section Events

variable (info : RequestInfo)

def logForbiddenAccess (userId : Option UserId) (role : Auth.AppRole)
    (requiredRoles : List Auth.AppRole) (requiredPermissions : List Auth.Permission)
    (reason : String) : AuditLog :=
  recordAuditEvent
    { actorUserId := userId
      actorRole := some (roleName role)
      action := .ofString "auth.access.denied"
      targetType := some (.ofString "route")
      targetId := some info.path
      status := .denied
      reason := some (.ofString reason)
      ipAddress := info.ipAddress
      userAgent := info.userAgent
      route := info.path
      method := info.method
      metadata := .object
        [(.ofString "requiredRoles",
            .array (requiredRoles.map fun role => .string (roleName role))),
          (.ofString "requiredPermissions",
            .array (requiredPermissions.map fun permission =>
              .string (permissionName permission)))] }

def logReauthFailure (userId : UserId) (role reason : JsString) : AuditLog :=
  recordAuditEvent
    { actorUserId := some userId
      actorRole := some role
      action := .ofString "auth.reauth"
      targetType := some (.ofString "auth")
      targetId := some (identifierText userId)
      status := .failed
      reason := some reason
      ipAddress := info.ipAddress
      userAgent := info.userAgent
      route := info.path
      method := info.method
      metadata := .null }

/-- `expiresAt` is the text of `toISOString()`. -/
def logReauthSuccess (userId : UserId) (role : JsString) (purpose : Option String)
    (expiresAt : JsString) : AuditLog :=
  recordAuditEvent
    { actorUserId := some userId
      actorRole := some role
      action := .ofString "auth.reauth"
      targetType := some (.ofString "auth")
      targetId := some (identifierText userId)
      status := .success
      reason := none
      ipAddress := info.ipAddress
      userAgent := info.userAgent
      route := info.path
      method := info.method
      metadata := .object
        [(.ofString "purpose",
            (purpose.map fun text => Auth.Metadata.string (.ofString text)).getD .null),
          (.ofString "expiresAt", .string expiresAt)] }

def logAdminAction (userId : UserId) (role : Auth.AppRole) (action : JsString)
    (succeeded : Bool) (targetType : JsString) (targetId : Option JsString)
    (reason : Option JsString) (reauthRequired : Bool) : AuditLog :=
  recordAuditEvent
    { actorUserId := some userId
      actorRole := some (roleName role)
      action := action
      targetType := some targetType
      targetId := some (targetId.getD info.path)
      status := if succeeded then .success else .failed
      reason := reason
      ipAddress := info.ipAddress
      userAgent := info.userAgent
      route := info.path
      method := info.method
      metadata := .object [(.ofString "reauthRequired", .boolean reauthRequired)] }

end Events

end Tchuno.Backoffice
