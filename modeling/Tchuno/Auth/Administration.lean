import Tchuno.Auth.Histories
import Tchuno.Library.References

/-!
# Administration of users

The roles and their permissions, the guards of `AdminOpsController`, and the three
operations on users behind them.  No admin suspends or deletes its own account, or leaves
the platform role `ADMIN`, so an admin is always left.  What admins may do is another
matter: it follows their subrole, which they may change, and a support admin suspends and
deletes those who may do more.
-/

namespace Tchuno.Auth

open Tchuno.Library Tchuno.Library.Script

/-! ## Roles and permissions -/

inductive AppRole where
  | guest | customer | provider | admin | supportAdmin | opsAdmin | superAdmin
  deriving DecidableEq, Repr

inductive Permission where
  | publicRead
  | customerJobsReadOwn
  | customerRequestsCreate
  | customerRequestsInvite
  | customerRequestsReadOwn
  | customerRequestsSelect
  | customerRequestsUpdate
  | customerPaymentsCreate
  | customerPaymentsReadOwn
  | customerReviewsCreate
  | customerReviewsReadOwn
  | providerProfileManage
  | providerJobsReadOwn
  | providerRequestsReadInvites
  | providerRequestsDeclineInvite
  | providerRequestsReadOpen
  | providerRequestsPropose
  | providerJobsStatusUpdate
  | providerEarningsReadOwn
  | providerReviewsReadReceived
  | adminOpsRead
  | adminPaymentsRead
  | adminPaymentsManage
  | adminCategoriesManage
  | adminRolesManage
  | adminUsersManage
  | adminProvidersManage
  | adminOrdersManage
  | adminReportsRead
  | adminModerationManage
  | adminSupportManage
  | adminSettingsManage
  | adminAuditRead
  deriving DecidableEq, Repr

def rolePermissions : AppRole → List Permission
  | .guest => [.publicRead]
  | .customer =>
      [.publicRead, .customerJobsReadOwn, .customerRequestsCreate, .customerRequestsInvite,
        .customerRequestsReadOwn, .customerRequestsSelect, .customerRequestsUpdate,
        .customerPaymentsCreate, .customerPaymentsReadOwn, .customerReviewsCreate,
        .customerReviewsReadOwn, .providerProfileManage]
  | .provider =>
      [.publicRead, .providerProfileManage, .providerJobsReadOwn,
        .providerRequestsReadInvites, .providerRequestsDeclineInvite,
        .providerRequestsReadOpen, .providerRequestsPropose, .providerJobsStatusUpdate,
        .providerEarningsReadOwn, .providerReviewsReadReceived]
  | .admin =>
      [.publicRead, .adminOpsRead, .adminPaymentsRead, .adminPaymentsManage,
        .adminCategoriesManage, .adminRolesManage, .adminUsersManage, .adminProvidersManage,
        .adminOrdersManage, .adminReportsRead, .adminModerationManage, .adminSupportManage,
        .adminSettingsManage, .adminAuditRead]
  | .supportAdmin =>
      [.publicRead, .adminOpsRead, .adminPaymentsRead, .adminUsersManage,
        .adminProvidersManage, .adminReportsRead, .adminModerationManage,
        .adminSupportManage, .adminAuditRead]
  | .opsAdmin =>
      [.publicRead, .adminOpsRead, .adminPaymentsRead, .adminPaymentsManage,
        .adminCategoriesManage, .adminOrdersManage, .adminReportsRead, .adminSupportManage,
        .adminSettingsManage, .adminAuditRead]
  | .superAdmin =>
      [.publicRead, .adminOpsRead, .adminPaymentsRead, .adminPaymentsManage,
        .adminCategoriesManage, .adminRolesManage, .adminUsersManage, .adminProvidersManage,
        .adminOrdersManage, .adminReportsRead, .adminModerationManage, .adminSupportManage,
        .adminSettingsManage, .adminAuditRead]

structure AccessContext where
  userId : Option UserId
  role : AppRole
  permissions : List Permission
  isAuthenticated : Bool
  deriving DecidableEq

def resolveAdminRole : Option AdminSubrole → AppRole
  | some .supportAdmin => .supportAdmin
  | some .opsAdmin => .opsAdmin
  | some .superAdmin => .superAdmin
  | none => .admin

/-- `isProviderUser` says whether the user has a worker profile. -/
def resolveAccessContext (userId : Option UserId) (platformRole : Option UserRole)
    (adminSubrole : Option AdminSubrole) (isProviderUser : Bool) : AccessContext :=
  match userId with
  | none => ⟨none, .guest, rolePermissions .guest, false⟩
  | some userId =>
      if platformRole = some .admin then
        ⟨some userId, resolveAdminRole adminSubrole,
          rolePermissions (resolveAdminRole adminSubrole), true⟩
      else
        let role : AppRole := if isProviderUser then .provider else .customer
        ⟨some userId, role, rolePermissions role, true⟩

def hasAnyRole (contextRole : AppRole) (requiredRoles : List AppRole) : Bool :=
  requiredRoles.isEmpty || requiredRoles.contains contextRole ||
    (contextRole = .superAdmin && requiredRoles.contains .admin)

def hasAllPermissions (contextPermissions requiredPermissions : List Permission) : Bool :=
  requiredPermissions.all fun permission => contextPermissions.contains permission

variable {Token Digest : Type}

def User.accessContext (user : User) (isProviderUser : Bool) : AccessContext :=
  resolveAccessContext (some user.id) (some user.role) user.adminSubrole isProviderUser

/-- The role of the user has the permission, with or without a worker profile. -/
def User.Holds (user : User) (permission : Permission) : Prop :=
  ∀ isProviderUser, permission ∈ (user.accessContext isProviderUser).permissions

instance (user : User) (permission : Permission) : Decidable (user.Holds permission) :=
  inferInstanceAs (Decidable (∀ isProviderUser, _ ∈
    (user.accessContext isProviderUser).permissions))

/-- Only admins have the permissions over users. -/
theorem isAdmin_of_permission {user : User} {isProviderUser : Bool} {permission : Permission}
    (managing : permission = .adminRolesManage ∨ permission = .adminUsersManage)
    (has : permission ∈ (user.accessContext isProviderUser).permissions) :
    user.role = .admin := by
  rw [User.accessContext, resolveAccessContext] at has
  cases role : user.role with
  | admin =>
      rfl
  | user =>
      rcases managing with rfl | rfl <;> cases isProviderUser <;>
        simp [role, rolePermissions] at has

theorem holds_of_permission {user : User} {isProviderUser : Bool} {permission : Permission}
    (managing : permission = .adminRolesManage ∨ permission = .adminUsersManage)
    (has : permission ∈ (user.accessContext isProviderUser).permissions) :
    user.Holds permission := by
  have isAdmin := isAdmin_of_permission managing has
  intro other
  rw [User.accessContext, resolveAccessContext, if_pos (congrArg some isAdmin)] at has ⊢
  exact has

/-! ## Requests -/

structure DeletedUser where
  id : UserId
  deleted : Bool
  deriving DecidableEq

/-- The user is deleted, and with it its sessions. -/
def Database.withoutUser (database : Database Token Digest) (userId : UserId) :
    Database Token Digest :=
  { database with
    users := database.users.deleteMany fun user => user.id = userId
    sessions := database.sessions.deleteMany fun session => session.userId = userId }

def eraseUser (userId : UserId) : Procedure Token Digest Unit :=
  .transaction do
    .lock (.user userId)
    .consult (.user userId) fun database =>
      if (database.users.find? userId).isSome then .ok () else .error (.database "P2025")
    .write fun database => database.withoutUser userId

def deleteUser (targetUserId actorUserId : UserId) : Procedure Token Digest DeletedUser := do
  .require (targetUserId ≠ actorUserId)
    (.badRequest "Não podes apagar a tua própria conta administrativa.")
  let existing ← findTargetUser targetUserId
  eraseUser existing.id
  pure ⟨existing.id, true⟩

/-- The roles `AdminOpsController` requires for all its routes. -/
def adminOpsRoles : List AppRole := [.admin, .opsAdmin, .supportAdmin, .superAdmin]

inductive AdminCall where
  | updateUserRole (input : UpdateUserRoleInput) (now : Time)
  | updateUserStatus (input : UpdateUserStatusInput) (now : Time)
  | deleteUser (targetUserId actorUserId : UserId)

def AdminCall.actorUserId : AdminCall → UserId
  | .updateUserRole input _ => input.actorUserId
  | .updateUserStatus input _ => input.actorUserId
  | .deleteUser _ actorUserId => actorUserId

def AdminCall.requiredPermissions : AdminCall → List Permission
  | .updateUserRole _ _ => [.adminRolesManage]
  | .updateUserStatus _ _ => [.adminUsersManage]
  | .deleteUser _ _ => [.adminUsersManage]

/-- The route's call, with whether its actor has a worker profile. -/
structure AdminRequest where
  call : AdminCall
  isProviderUser : Bool

/-- `JwtStrategy.validate` and `AccessPolicyGuard.canActivate`, the reauthentication
apart. -/
def canActivate (actorUserId : UserId) (requiredRoles : List AppRole)
    (requiredPermissions : List Permission) (isProviderUser : Bool)
    (database : Database Token Digest) : Except AuthError Unit :=
  match (database.users.find? actorUserId).filter User.isActive with
  | none => .error (.unauthorized "Unauthorized")
  | some user =>
      let contextAccess := user.accessContext isProviderUser
      if hasAnyRole contextAccess.role requiredRoles &&
          hasAllPermissions contextAccess.permissions requiredPermissions then
        .ok ()
      else
        .error (.forbidden "Permissão insuficiente para esta operação")

inductive AdminReply where
  | user (user : User)
  | deleted (user : DeletedUser)
  deriving DecidableEq

def AdminCall.service : AdminCall → Procedure Token Digest AdminReply
  | .updateUserRole input now => do
      let user ← Auth.updateUserRole input now
      pure (.user user)
  | .updateUserStatus input now => do
      let user ← Auth.updateUserStatus input now
      pure (.user user)
  | .deleteUser targetUserId actorUserId => do
      let user ← Auth.deleteUser targetUserId actorUserId
      pure (.deleted user)

def AdminRequest.procedure (request : AdminRequest) : Procedure Token Digest AdminReply := do
  .consult (.user request.call.actorUserId) (canActivate request.call.actorUserId
    adminOpsRoles request.call.requiredPermissions request.isProviderUser)
  request.call.service

/-- The database as a machine over the requests of admins. -/
def administration : Machine (Database Token Digest) AdminRequest where
  step := fun database request => (request.procedure.serve database).2

/-! ## What a request does to the users -/

/-- What is left of the users when the call of an admin ends. -/
inductive AdminEffect (before : Table User) : AdminCall → Table User → Prop where
  | refused (call : AdminCall) : AdminEffect before call before
  | roleChanged (input : UpdateUserRoleInput) (now : Time)
      (own : input.targetUserId = input.actorUserId → input.role = .admin) :
      AdminEffect before (.updateUserRole input now)
        (before.update input.targetUserId (changedRole input) fun _ => rfl)
  | statusChanged (input : UpdateUserStatusInput) (now : Time)
      (own : input.targetUserId = input.actorUserId → input.isActive = true) :
      AdminEffect before (.updateUserStatus input now)
        (before.update input.targetUserId (changedStatus input) fun _ => rfl)
  | deleted (targetUserId actorUserId : UserId) (other : targetUserId ≠ actorUserId) :
      AdminEffect before (.deleteUser targetUserId actorUserId)
        (before.deleteMany fun user => user.id = targetUserId)

section Requests

variable {database : Database Token Digest}

theorem serves_findTargetUser_bind {α : Type} {post : Except AuthError α →
    Database Token Digest → Prop} {userId : UserId} {next : User → Procedure Token Digest α}
    (found : ∀ user, user.id = userId → (next user).Serves post database)
    (missing : ∀ error, post (.error error) database) :
    (findTargetUser userId >>= next : Procedure Token Digest α).Serves post database := by
  refine serves_consult_bind (fun user read => found user ?_) fun error _ => missing error
  cases stored : database.users.find? userId with
  | none =>
      simp [stored] at read
  | some other =>
      simp only [stored, Except.ok.injEq] at read
      rw [← read]
      exact database.users.key_of_find? stored

/-- The user is rewritten, and signed out where the service asks for it. -/
theorem effect_updateUser {call : AdminCall} {userId : UserId} {change : User → User}
    {keeps : ∀ user, Keyed.key (change user) = Keyed.key user} {signsOut : User → Prop}
    [DecidablePred signsOut] {now : Time}
    (changed : AdminEffect database.users call (database.users.update userId change keeps)) :
    (do
      let updatedUser ← updateUser userId change keeps
      if signsOut updatedUser then
        revokeSessions (fun session => session.userId = updatedUser.id) now
      else
        pure ()
      pure updatedUser : Procedure Token Digest User).Serves
      (fun _ after => AdminEffect database.users call after.users) database := by
  have refused := @AdminEffect.refused database.users call
  refine serves_kept_bind (serves_updateUser (fun _ _ => changed) refused) ?_
  intro updated after reached
  split_ifs
  · exact serves_kept_bind (serves_revokeSessions reached) fun _ _ kept => serves_pure kept
  · exact serves_pure reached

theorem effect_updateUserRole (input : UpdateUserRoleInput) (now : Time) :
    (updateUserRole input now : Procedure Token Digest User).Serves
      (fun _ after => AdminEffect database.users (.updateUserRole input now) after.users)
      database := by
  have refused := @AdminEffect.refused database.users (.updateUserRole input now)
  refine serves_findTargetUser_bind (fun user sameId => ?_) fun _ => refused
  refine serves_require_bind (fun allowed => ?_) fun _ => refused
  have own : input.targetUserId = input.actorUserId → input.role = .admin := by
    intro itself
    by_contra other
    exact allowed ⟨sameId.trans itself, other⟩
  have changed := @AdminEffect.roleChanged database.users input now own
  rw [← sameId] at changed
  exact effect_updateUser changed

theorem effect_updateUserStatus (input : UpdateUserStatusInput) (now : Time) :
    (updateUserStatus input now : Procedure Token Digest User).Serves
      (fun _ after => AdminEffect database.users (.updateUserStatus input now) after.users)
      database := by
  have refused := @AdminEffect.refused database.users (.updateUserStatus input now)
  refine serves_findTargetUser_bind (fun user sameId => ?_) fun _ => refused
  refine serves_require_bind (fun allowed => ?_) fun _ => refused
  have own : input.targetUserId = input.actorUserId → input.isActive = true := by
    intro itself
    by_contra other
    exact allowed ⟨sameId.trans itself, by simpa using other⟩
  have changed := @AdminEffect.statusChanged database.users input now own
  rw [← sameId] at changed
  exact effect_updateUser changed

theorem serves_eraseUser {post : Except AuthError Unit → Database Token Digest → Prop}
    {userId : UserId} (erased : post (.ok ()) (database.withoutUser userId))
    (missing : post (.error (.database "P2025")) database) :
    (eraseUser userId : Procedure Token Digest Unit).Serves post database := by
  refine serves_transaction (drafts_lock_bind (drafts_consult_bind ?_ ?_))
  · intro _ _
    exact drafts_write erased
  · intro error failed
    split_ifs at failed
    cases failed
    exact missing

theorem effect_deleteUser (targetUserId actorUserId : UserId) :
    (deleteUser targetUserId actorUserId : Procedure Token Digest DeletedUser).Serves
      (fun _ after => AdminEffect database.users (.deleteUser targetUserId actorUserId)
        after.users) database := by
  have refused := @AdminEffect.refused database.users
    (.deleteUser targetUserId actorUserId)
  refine serves_require_bind (fun other => ?_) fun _ => refused
  refine serves_findTargetUser_bind (fun user sameId => ?_) fun _ => refused
  subst sameId
  have deleted := @AdminEffect.deleted database.users user.id actorUserId other
  exact serves_kept_bind (serves_eraseUser deleted refused) fun _ _ kept => serves_pure kept

theorem effect_service (call : AdminCall) :
    (call.service : Procedure Token Digest AdminReply).Serves
      (fun _ after => AdminEffect database.users call after.users) database := by
  cases call with
  | updateUserRole input now =>
      exact serves_kept_bind (effect_updateUserRole input now) fun _ _ kept => serves_pure kept
  | updateUserStatus input now =>
      exact serves_kept_bind (effect_updateUserStatus input now) fun _ _ kept =>
        serves_pure kept
  | deleteUser targetUserId actorUserId =>
      exact serves_kept_bind (effect_deleteUser targetUserId actorUserId) fun _ _ kept =>
        serves_pure kept

/-- The user is active, and its role has the permissions the call requires. -/
structure Permits (database : Database Token Digest) (call : AdminCall) (actor : User) :
    Prop where
  stored : actor ∈ database.users
  sameId : actor.id = call.actorUserId
  active : actor.isActive = true
  holds : ∀ permission ∈ call.requiredPermissions, actor.Holds permission

theorem canActivate_ok {call : AdminCall} {requiredRoles : List AppRole}
    {isProviderUser : Bool}
    (passed : canActivate call.actorUserId requiredRoles call.requiredPermissions
      isProviderUser database = .ok ()) :
    ∃ actor, Permits database call actor := by
  rw [canActivate] at passed
  cases read : (database.users.find? call.actorUserId).filter User.isActive with
  | none =>
      simp [read] at passed
  | some actor =>
      obtain ⟨found, active⟩ := Option.filter_eq_some_iff.mp read
      have has : hasAllPermissions (actor.accessContext isProviderUser).permissions
          call.requiredPermissions = true := by
        by_contra lacks
        simp [read, lacks] at passed
      refine ⟨actor, database.users.mem_of_find? found, database.users.key_of_find? found,
        active, fun permission required => ?_⟩
      have available := List.all_eq_true.mp has permission required
      refine holds_of_permission ?_ (List.contains_iff_mem.mp available)
      cases call <;> simp [AdminCall.requiredPermissions] at required <;> simp [required]

/-- A request leaves the users as they are, or an active user with the permissions of the
call made it. -/
theorem step_administration (request : AdminRequest) :
    (administration.step database request).users = database.users ∨
      (∃ actor, Permits database request.call actor) ∧
        AdminEffect database.users request.call
          (administration.step database request).users := by
  have serves : (request.procedure : Procedure Token Digest AdminReply).Serves
      (fun _ after => after.users = database.users ∨
        (∃ actor, Permits database request.call actor) ∧
          AdminEffect database.users request.call after.users) database := by
    refine serves_consult_bind (fun _ passed => ?_) fun _ _ => .inl rfl
    exact (effect_service request.call).mono fun _ _ effect =>
      .inr ⟨canActivate_ok passed, effect⟩
  obtain ⟨_, _, holds⟩ := serves.serve
  exact holds

end Requests

/-! ## Those who are left -/

/-- The call takes nothing from the user. -/
def AdminCall.Spares (call : AdminCall) (user : User) : Prop :=
  match call with
  | .updateUserRole input _ => user.id ≠ input.targetUserId
  | .updateUserStatus input _ => user.id = input.targetUserId → input.isActive = true
  | .deleteUser targetUserId _ => user.id ≠ targetUserId

/-- The permission of an admin is that of its subrole. -/
theorem holds_of_admin {user : User} {permission : Permission} (isAdmin : user.role = .admin)
    (granted : permission ∈ rolePermissions (resolveAdminRole user.adminSubrole)) :
    user.Holds permission := by
  intro isProviderUser
  rw [User.accessContext, resolveAccessContext, if_pos (congrArg some isAdmin)]
  exact granted

theorem granted_of_holds {user : User} (holds : user.Holds .adminRolesManage) :
    user.role = .admin ∧
      .adminRolesManage ∈ rolePermissions (resolveAdminRole user.adminSubrole) := by
  have has := holds false
  have isAdmin := isAdmin_of_permission (.inl rfl) has
  rw [User.accessContext, resolveAccessContext, if_pos (congrArg some isAdmin)] at has
  exact ⟨isAdmin, has⟩

/-- Some active user is an admin, of whatever subrole. -/
def Database.HasAdmin (database : Database Token Digest) : Prop :=
  ∃ user ∈ database.users, user.isActive = true ∧ user.role = .admin

/-- Some active user holds `admin.roles.manage`. -/
def Database.Administered (database : Database Token Digest) : Prop :=
  ∃ user ∈ database.users, user.isActive = true ∧ user.Holds .adminRolesManage

section Effects

variable {before after : Table User} {call : AdminCall}

/-- Whom the call spares is still there with the same role, and not less active. -/
theorem AdminEffect.spared (effect : AdminEffect before call after) {user : User}
    (stored : user ∈ before) (spares : call.Spares user) :
    ∃ kept ∈ after, kept.role = user.role ∧ kept.adminSubrole = user.adminSubrole ∧
      (user.isActive = true → kept.isActive = true) := by
  cases effect with
  | refused =>
      exact ⟨user, stored, rfl, rfl, id⟩
  | roleChanged input now own =>
      have present := (before.mem_update (changedRole input) fun _ => rfl).mpr
        ⟨user, stored, (if_neg spares).symm⟩
      exact ⟨user, present, rfl, rfl, id⟩
  | statusChanged input now own =>
      by_cases target : user.id = input.targetUserId
      · have present := (before.mem_update (changedStatus input) fun _ => rfl).mpr
          ⟨user, stored, (if_pos target).symm⟩
        exact ⟨changedStatus input user, present, rfl, rfl, fun _ => spares target⟩
      · have present := (before.mem_update (changedStatus input) fun _ => rfl).mpr
          ⟨user, stored, (if_neg target).symm⟩
        exact ⟨user, present, rfl, rfl, id⟩
  | deleted targetUserId actorUserId other =>
      have stays : decide (user.id = targetUserId) = false := decide_eq_false spares
      exact ⟨user, before.mem_deleteMany.mpr ⟨stored, stays⟩, rfl, rfl, id⟩

/-- No call takes anything from its actor, but that it may change its own subrole. -/
theorem AdminEffect.actor_left (effect : AdminEffect before call after) {actor : User}
    (stored : actor ∈ before) (own : actor.id = call.actorUserId) :
    (∃ kept ∈ after, kept.role = actor.role ∧ kept.adminSubrole = actor.adminSubrole ∧
      (actor.isActive = true → kept.isActive = true)) ∨
      ∃ input now, call = .updateUserRole input now ∧
        input.targetUserId = input.actorUserId ∧ input.role = .admin ∧
          changedRole input actor ∈ after := by
  cases effect with
  | refused =>
      exact .inl ⟨actor, stored, rfl, rfl, id⟩
  | roleChanged input now keepsAdmin =>
      by_cases itself : input.targetUserId = input.actorUserId
      · have target : actor.id = input.targetUserId := own.trans itself.symm
        have present := (before.mem_update (changedRole input) fun _ => rfl).mpr
          ⟨actor, stored, (if_pos target).symm⟩
        exact .inr ⟨input, now, rfl, itself, keepsAdmin itself, present⟩
      · have effect := @AdminEffect.roleChanged before input now keepsAdmin
        have spares : actor.id ≠ input.targetUserId := fun target =>
          itself (target.symm.trans own)
        exact .inl (effect.spared stored spares)
  | statusChanged input now keepsActive =>
      have effect := @AdminEffect.statusChanged before input now keepsActive
      have spares : actor.id = input.targetUserId → input.isActive = true := fun target =>
        keepsActive (target.symm.trans own)
      exact .inl (effect.spared stored spares)
  | deleted targetUserId actorUserId other =>
      have effect := @AdminEffect.deleted before targetUserId actorUserId other
      have spares : actor.id ≠ targetUserId := fun target => other (target.symm.trans own)
      exact .inl (effect.spared stored spares)

end Effects

section Runs

variable {database : Database Token Digest}

theorem Permits.isAdmin {call : AdminCall} {actor : User}
    (permits : Permits database call actor) : actor.role = .admin := by
  cases call with
  | updateUserRole input now =>
      exact isAdmin_of_permission (.inl rfl) (permits.holds _ List.mem_cons_self false)
  | updateUserStatus input now =>
      exact isAdmin_of_permission (.inr rfl) (permits.holds _ List.mem_cons_self false)
  | deleteUser targetUserId actorUserId =>
      exact isAdmin_of_permission (.inr rfl) (permits.holds _ List.mem_cons_self false)

/-- The actor of a call is an active admin before it and after. -/
theorem hasAdmin_step (request : AdminRequest) (hasAdmin : database.HasAdmin) :
    (administration.step database request).HasAdmin := by
  rcases @step_administration _ _ database request with same | ⟨⟨actor, permits⟩, effect⟩
  · rw [Database.HasAdmin, same]
    exact hasAdmin
  · rcases effect.actor_left permits.stored permits.sameId with
      ⟨kept, present, sameRole, _, active⟩ | ⟨input, now, _, _, isAdmin, present⟩
    · exact ⟨kept, present, active permits.active, sameRole.trans permits.isAdmin⟩
    · exact ⟨changedRole input actor, present, permits.active, isAdmin⟩

/-- Who changes its own subrole keeps `admin.roles.manage`, and only those who hold it
suspend or delete others who do. -/
def AdminCall.Considerate (database : Database Token Digest) (call : AdminCall) : Prop :=
  match call with
  | .updateUserRole input _ =>
      input.targetUserId = input.actorUserId →
        .adminRolesManage ∈ rolePermissions (resolveAdminRole (nextAdminSubrole input))
  | .updateUserStatus input _ =>
      input.isActive = false →
        ∀ target ∈ database.users, target.id = input.targetUserId →
          target.Holds .adminRolesManage →
            ∀ actor ∈ database.users, actor.id = input.actorUserId →
              actor.Holds .adminRolesManage
  | .deleteUser targetUserId actorUserId =>
      ∀ target ∈ database.users, target.id = targetUserId →
        target.Holds .adminRolesManage →
          ∀ actor ∈ database.users, actor.id = actorUserId → actor.Holds .adminRolesManage

instance decidableConsiderate (database : Database Token Digest) :
    ∀ call : AdminCall, Decidable (call.Considerate database)
  | .updateUserRole _ _ => inferInstanceAs (Decidable (_ → _))
  | .updateUserStatus _ _ => inferInstanceAs (Decidable (_ → _))
  | .deleteUser _ _ => inferInstanceAs (Decidable (∀ target ∈ database.users, _))

theorem administered_of_kept {after : Database Token Digest} {user kept : User}
    (present : kept ∈ after.users) (sameRole : kept.role = user.role)
    (sameSubrole : kept.adminSubrole = user.adminSubrole)
    (active : kept.isActive = true) (holds : user.Holds .adminRolesManage) :
    after.Administered := by
  have granted := granted_of_holds holds
  rw [← sameRole, ← sameSubrole] at granted
  exact ⟨kept, present, active, holds_of_admin granted.1 granted.2⟩

/-- One of the two who hold the permission, the actor or another, is spared. -/
theorem administered_step (request : AdminRequest) (administered : database.Administered)
    (considerate : request.call.Considerate database) :
    (administration.step database request).Administered := by
  rcases @step_administration _ _ database request with same | ⟨⟨actor, permits⟩, effect⟩
  · rw [Database.Administered, same]
    exact administered
  obtain ⟨manager, stored, managerActive, manages⟩ := administered
  by_cases spared : request.call.Spares manager
  · obtain ⟨kept, present, sameRole, sameSubrole, active⟩ := effect.spared stored spared
    exact administered_of_kept present sameRole sameSubrole (active managerActive) manages
  have actorLeft := effect.actor_left permits.stored permits.sameId
  have actorHolds : actor.Holds .adminRolesManage := by
    cases called : request.call with
    | updateUserRole input now =>
        rw [called] at permits
        exact permits.holds _ List.mem_cons_self
    | updateUserStatus input now =>
        rw [called] at permits spared considerate
        obtain ⟨target, suspends⟩ := Classical.not_imp.mp spared
        exact considerate (by simpa using suspends) manager stored target manages actor
          permits.stored permits.sameId
    | deleteUser targetUserId actorUserId =>
        rw [called] at permits spared considerate
        have target : manager.id = targetUserId := not_not.mp spared
        exact considerate manager stored target manages actor permits.stored permits.sameId
  rcases actorLeft with
    ⟨kept, present, sameRole, sameSubrole, active⟩ |
      ⟨input, now, called, itself, isAdmin, present⟩
  · exact administered_of_kept present sameRole sameSubrole (active permits.active) actorHolds
  · rw [called] at considerate
    have granted := considerate itself
    exact ⟨changedRole input actor, present, permits.active, holds_of_admin isAdmin granted⟩

end Runs

/-- An admin is always left; and who holds `admin.roles.manage` is, if the calls are
considerate. -/
theorem administration_survives (database : Database Token Digest)
    (requests : List AdminRequest) (administered : database.Administered) :
    (administration.run database requests).HasAdmin ∧
      (administration.Along (fun before request => request.call.Considerate before)
          database requests →
        (administration.run database requests).Administered) := by
  obtain ⟨manager, stored, active, manages⟩ := administered
  have hasAdmin : database.HasAdmin := ⟨manager, stored, active, (granted_of_holds manages).1⟩
  constructor
  · exact administration.run_preserves Database.HasAdmin
      (fun _ request holds => hasAdmin_step request holds) hasAdmin requests
  · exact fun considerate => Machine.run_invariant _
      (fun _ request holds met => administered_step request holds met)
      ⟨manager, stored, active, manages⟩ considerate

/-! ## Lockouts -/

section Sample

def sampleAdmin (id : UserId) (email : String) (adminSubrole : Option AdminSubrole) : User where
  id := id
  email := email
  name := none
  passwordHash := "hash"
  role := .admin
  adminSubrole := adminSubrole
  isActive := true

/-- A super admin and a support admin. -/
def sampleStaff : Database Unit Unit where
  users := ((Table.empty.place (sampleAdmin 0 "raiz@tchuno.test" (some .superAdmin))).place
    (sampleAdmin 1 "apoio@tchuno.test" (some .supportAdmin)))
  sessions := .empty
  issued := []

/-- The super admin becomes a support admin itself. -/
def sampleSelfDemotion : List AdminRequest :=
  [⟨.updateUserRole ⟨0, .admin, some .supportAdmin, 0⟩ 1000, false⟩]

/-- The support admin deletes the super admin. -/
def sampleTakeover : List AdminRequest := [⟨.deleteUser 0 1, false⟩]

instance (database : Database Token Digest) : Decidable database.Administered :=
  inferInstanceAs (Decidable (∃ user ∈ database.users.rows, _))

theorem nobody_manages_roles :
    sampleStaff.Administered ∧
      ¬ (administration.run sampleStaff sampleSelfDemotion).Administered ∧
        ¬ (administration.run sampleStaff sampleTakeover).Administered := by
  decide +kernel

/-- The support admin is suspended and deleted by the super admin. -/
def sampleConsiderate : List AdminRequest :=
  [⟨.updateUserStatus ⟨1, false, 0⟩ 1000, false⟩, ⟨.deleteUser 1 0, false⟩]

theorem super_admin_left :
    sampleStaff.Administered ∧
      (administration.run sampleStaff sampleConsiderate).Administered := by
  have starts : sampleStaff.Administered := by decide +kernel
  have considerate : administration.Along
      (fun before request => request.call.Considerate before) sampleStaff
        sampleConsiderate := by
    decide +kernel
  exact ⟨starts, (administration_survives sampleStaff sampleConsiderate starts).2 considerate⟩

end Sample

end Tchuno.Auth
