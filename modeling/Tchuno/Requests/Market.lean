import Tchuno.Requests.MarketFrame
import Tchuno.Requests.Services

/-!
# Runs of the marketplace

The service requests together with the payments which follow from them.  Accounts are not
deleted here.
-/

namespace Tchuno.Requests

open Tchuno.Library Tchuno.Library.Ecma Tchuno.Payments

/-- One call of a service with all its inputs; `others` stands for the services which write
users and categories. -/
inductive MarketOperation where
  | create (expiryHours : EnvNumber) (actorUserId : UserId) (dto : CreateServiceRequestDto)
      (now : Time)
  | recreate (expiryHours : EnvNumber) (actorUserId : UserId) (requestId : RequestId)
      (dto : RecreateServiceRequestDto) (now : Time)
  | update (actorUserId : UserId) (requestId : RequestId) (dto : UpdateServiceRequestDto)
      (now : Time)
  | getMineById (actorUserId : UserId) (requestId : RequestId) (now : Time)
  | listRequestInvitations (requestId : RequestId) (actorUserId : UserId) (now : Time)
  | createInvitation (requestId : RequestId) (actorUserId providerUserId : UserId) (now : Time)
  | listMineInvitations (actorUserId : UserId) (now : Time)
  | declineInvitation (invitationId : Nat) (actorUserId : UserId) (now : Time)
  | submitProposal (requestId : RequestId) (actorUserId : UserId) (dto : SubmitProposalDto)
      (now : Time)
  | expireStaleOpenRequests (now : Time)
  | selectProposal (policy : PaymentPolicy) (requestId : RequestId) (proposalId : ProposalId)
      (actorUserId : UserId) (depositPercent : Option DepositPercent) (now : Time)
  | upsertMe (userId : UserId) (isAvailable : Bool)
  | payment (operation : Operation) (call : IsPaymentCall operation)
  | others (users : Table User) (categories : Table Category)

/-- What an operation leaves in the store, whether it returns or throws. -/
def MarketOperation.perform (store : Store) : MarketOperation → Store
  | .create expiryHours actorUserId dto now =>
      (Requests.create expiryHours actorUserId dto now store).state
  | .recreate expiryHours actorUserId requestId dto now =>
      (Requests.recreate expiryHours actorUserId requestId dto now store).state
  | .update actorUserId requestId dto now =>
      (Requests.update actorUserId requestId dto now store).state
  | .getMineById actorUserId requestId now =>
      (Requests.getMineById actorUserId requestId now store).state
  | .listRequestInvitations requestId actorUserId now =>
      (Requests.listRequestInvitations requestId actorUserId now store).state
  | .createInvitation requestId actorUserId providerUserId now =>
      (Requests.createInvitation requestId actorUserId providerUserId now store).state
  | .listMineInvitations actorUserId now =>
      (Requests.listMineInvitations actorUserId now store).state
  | .declineInvitation invitationId actorUserId now =>
      (Requests.declineInvitation invitationId actorUserId now store).state
  | .submitProposal requestId actorUserId dto now =>
      (Requests.submitProposal requestId actorUserId dto now store).state
  | .expireStaleOpenRequests now =>
      (Requests.expireStaleOpenRequests now store).state
  | .selectProposal policy requestId proposalId actorUserId depositPercent now =>
      (Payments.selectProposal policy requestId proposalId actorUserId depositPercent now
        store).state
  | .upsertMe userId isAvailable =>
      { store with market := Requests.upsertMe userId isAvailable store.market }
  | .payment operation _ => operation.perform store
  | .others users categories =>
      { store with market := { store.market with users := users, categories := categories } }

/-- The marketplace as a machine over its operations. -/
def marketplace : Machine Store MarketOperation where
  step := MarketOperation.perform

/-- A database without rows. -/
def emptyStore : Store :=
  .initial
    { users := .empty
      workerProfiles := .empty
      requests := .empty
      proposals := .empty
      invitations := .empty }

def sampleCategories : Table Category :=
  Table.empty.insert fun id => ⟨id, true⟩

def sampleOffer : SubmitProposalDto :=
  ⟨⟨1000, by decide⟩, none⟩

def sampleDearOffer : SubmitProposalDto :=
  ⟨⟨2000, by decide⟩, none⟩

/-- User 1 becomes a worker, is invited to a request of user 0, offers to do it for 1000
and is selected. -/
def sampleOperations : List MarketOperation :=
  [.others sampleMarketplace.users sampleCategories,
    .upsertMe 1 true,
    .create none 0 ⟨0, "Paint a wall", "One wall of the living room", none⟩ 1,
    .createInvitation 0 0 1 2,
    .submitProposal 0 1 sampleOffer 3,
    .selectProposal samplePolicy 0 0 0 none 4]

/-! ## Expiry as one step -/

theorem contains_singleton (first second : Nat) :
    [first].contains second = decide (second = first) := by
  by_cases same : second = first <;> simp [same]

theorem expireRequest_eq (requestId : RequestId) (now : Time) :
    expireRequest requestId now = expireRequestsByIds [requestId] now := by
  unfold expireRequest expireRequestsByIds onMarket expiredByIds
  simp only [contains_singleton]
  rfl

section Refresh

open Action

variable {α : Type} {after : α → Store → Prop} {failed : Store → Prop}
  {request : ServiceRequest} {now : Time} {next : ServiceRequestStatus → Service α}
  {store : Store}

/-- A request is looked at: either it is not past its expiry, or it expires now. -/
theorem meets_refresh_bind
    (fresh : isRequestPastExpiry request now = false →
      (next request.status store).Meets after failed)
    (stale : isRequestPastExpiry request now = true →
      (next .expired { store with market := expiredByIds [request.id] now store.market }).Meets
        after failed) :
    ((refreshRequestStatusIfExpired request now >>= next) store).Meets after failed := by
  cases past : isRequestPastExpiry request now with
  | false =>
      have refreshed : refreshRequestStatusIfExpired request now store =
          ⟨.ok request.status, store, []⟩ := by
        simp [refreshRequestStatusIfExpired, past]
      rw [bind_of_ok refreshed, Outcome.after_nil]
      exact fresh past
  | true =>
      have refreshed : refreshRequestStatusIfExpired request now store =
          ⟨.ok .expired,
            { store with market := expiredByIds [request.id] now store.market }, []⟩ := by
        simp only [refreshRequestStatusIfExpired, past, if_true, expireRequest_eq]
        rfl
      rw [bind_of_ok refreshed, Outcome.after_nil]
      exact stale past

end Refresh

end Tchuno.Requests
