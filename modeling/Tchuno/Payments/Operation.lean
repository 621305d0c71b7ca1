import Tchuno.Library.Machine
import Tchuno.Payments.Payouts
import Tchuno.Payments.Refunds
import Tchuno.Payments.Selection
import Tchuno.Payments.Webhooks

/-!
# Runs of the payments store

An operation is one call of a service with all its inputs: the actor, the DTO,
the policy and the clock in force, and the answer the gateway gives if it is
asked.  `environment` stands for the services that write the marketplace
tables; it may replace them by anything.  Operations run one after another.
-/

namespace Tchuno.Payments

open Tchuno.Library

inductive Operation where
  | environment (market : Marketplace)
  | selectProposal (policy : PaymentPolicy) (requestId : RequestId)
      (proposalId : ProposalId) (actorUserId : UserId)
      (depositPercent : Option DepositPercent) (now : Time)
  | updateStatus (jobId : JobId) (requesterId : UserId) (dto : UpdateJobStatusDto)
      (now : Time)
  | createIntent (policy : PaymentPolicy) (actorUserId : UserId)
      (dto : CreatePaymentIntentDto) (now : Time)
  | payIntent (intentId : IntentId) (actorUserId : UserId) (dto : PayPaymentIntentDto)
      (answer : GatewayResult) (now : Time)
  | handleWebhook (webhookEnvironment : WebhookEnvironment) (provider : PaymentProvider)
      (dto : PaymentWebhookDto) (headers : WebhookHeaders) (now : Time)
  | reconcileTransaction (transactionId : TransactionId) (answer : GatewayResult)
      (now : Time)
  | createJobRefundRequest (jobId : JobId) (actor : IntentActorInput)
      (dto : CreateJobRefundRequestDto) (now : Time)
  | cancelRefundRequest (refundRequestId : RefundId) (actor : IntentActorInput)
      (now : Time)
  | adminRejectRefund (actorUserId : UserId) (refundRequestId : RefundId)
      (dto : RejectRefundRequestDto) (now : Time)
  | adminApproveRefund (actorUserId : UserId) (refundRequestId : RefundId)
      (decisionNote : Option String) (answer : GatewayResult) (now : Time)
  | adminCreateRefund (actorUserId : UserId) (dto : CreateRefundRequestDto)
      (answer : GatewayResult) (now : Time)
  | adminCreatePayout (actorUserId : UserId) (dto : CreatePayoutDto)
  | adminApprovePayout (actorUserId : UserId) (payoutId : PayoutId)
  | adminProcessPayout (actorUserId : UserId) (payoutId : PayoutId)
      (dto : ProcessPayoutDto) (answer : GatewayResult) (now : Time)
  | adminReleaseProviderFunds (policy : PaymentPolicy) (actorUserId : UserId)
      (jobId : JobId) (now : Time)

/-- What an operation leaves in the store, whether it returns or throws. -/
def Operation.perform (store : Store) : Operation → Store
  | .environment market => { store with market := market }
  | .selectProposal policy requestId proposalId actorUserId depositPercent now =>
      (Payments.selectProposal policy requestId proposalId actorUserId depositPercent now
        store).state
  | .updateStatus jobId requesterId dto now =>
      (Payments.updateStatus jobId requesterId dto now store).state
  | .createIntent policy actorUserId dto now =>
      (Payments.createIntent policy actorUserId dto now store).state
  | .payIntent intentId actorUserId dto answer now =>
      (Payments.payIntent intentId actorUserId dto answer now store).state
  | .handleWebhook webhookEnvironment provider dto headers now =>
      (Payments.handleWebhook webhookEnvironment provider dto headers now store).state
  | .reconcileTransaction transactionId answer now =>
      (Payments.reconcileTransaction transactionId answer now store).state
  | .createJobRefundRequest jobId actor dto now =>
      (Payments.createJobRefundRequest jobId actor dto now store).state
  | .cancelRefundRequest refundRequestId actor now =>
      (Payments.cancelRefundRequest refundRequestId actor now store).state
  | .adminRejectRefund actorUserId refundRequestId dto now =>
      (Payments.adminRejectRefund actorUserId refundRequestId dto now store).state
  | .adminApproveRefund actorUserId refundRequestId decisionNote answer now =>
      (Payments.adminApproveRefund actorUserId refundRequestId decisionNote answer now
        store).state
  | .adminCreateRefund actorUserId dto answer now =>
      (Payments.adminCreateRefund actorUserId dto answer now store).state
  | .adminCreatePayout actorUserId dto =>
      (Payments.adminCreatePayout actorUserId dto store).state
  | .adminApprovePayout actorUserId payoutId =>
      (Payments.adminApprovePayout actorUserId payoutId store).state
  | .adminProcessPayout actorUserId payoutId dto answer now =>
      (Payments.adminProcessPayout actorUserId payoutId dto answer now store).state
  | .adminReleaseProviderFunds policy actorUserId jobId now =>
      (Payments.adminReleaseProviderFunds policy actorUserId jobId now store).state

/-- The payments store as a machine over its operations. -/
def payments : Machine Store Operation where
  step := Operation.perform

/-- Before the first selection: no job and no payment, any marketplace. -/
def Store.IsInitial (store : Store) : Prop :=
  ∃ market, store = Store.initial market

/-! ## A sample marketplace -/

section Sample

/-- The price of the samples fits its column. -/
theorem samplePrice_le : 1000 ≤ columnMax := by
  decide

/-- User 0 is a client with an open request, user 1 a worker who offers to do it
for 1000, user 2 an administrator. -/
def sampleMarketplace : Marketplace where
  users := ((Table.empty.insert fun id => ⟨id, "client@tchuno.test", some "Client"⟩).insert
    fun id => ⟨id, "worker@tchuno.test", some "Worker"⟩).insert
      fun id => ⟨id, "admin@tchuno.test", some "Admin"⟩
  workerProfiles := Table.empty.insert fun id =>
    { id := id
      userId := 1
      isAvailable := true }
  requests := Table.empty.insert fun id =>
    { id := id
      customerId := 0
      categoryId := 0
      title := "Paint a wall"
      description := "One wall of the living room"
      status := .open
      selectedProposalId := none
      expiresAt := 1000 }
  proposals := Table.empty.insert fun id =>
    { id := id
      requestId := 0
      providerId := 1
      price := 1000
      comment := none
      status := .submitted
      price_le := samplePrice_le }
  invitations := .empty

/-- The policy of a process without environment variables: a deposit of 300 for
a price of 1000, with a fee of 45. -/
def samplePolicy : PaymentPolicy :=
  PaymentEnvironment.policy ⟨none, none, none, none⟩

/-- The client selects the proposal. -/
def sampleSelection : Operation :=
  .selectProposal samplePolicy 0 0 0 none 1

def sampleAnswer (status : GatewayOperationStatus) (providerReference : String) :
    GatewayResult where
  status := status
  providerReference := providerReference
  processedAt := none
  rawPayload := none
  reason := none

end Sample

end Tchuno.Payments
