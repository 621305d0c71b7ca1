import Tchuno.Library.Postconditions
import Tchuno.Payments.Runs

/-!
# Services which leave the marketplace alone

Of the operations on the store only the selection of a proposal writes to the tables of the
marketplace, and only it creates a job.
-/

namespace Tchuno.Requests

open Tchuno.Library Tchuno.Library.Action Tchuno.Payments

/-- Whatever the service does, the marketplace is the same. -/
def LeavesMarket {α : Type} (service : Service α) : Prop :=
  ∀ market, service.Preserves fun store => store.market = market

section Rules

variable {α β : Type}

theorem leaves_pure (value : α) : LeavesMarket (pure value) :=
  fun _ => preserves_pure value

theorem leaves_inspect (view : Store → α) : LeavesMarket (.inspect view) :=
  fun _ => preserves_inspect view

theorem leaves_consult (checks : Store → Except ApiError α) : LeavesMarket (.consult checks) :=
  fun _ => preserves_consult checks

theorem leaves_require (condition : Prop) [Decidable condition] (error : ApiError) :
    LeavesMarket (.require condition error) :=
  fun _ => preserves_require condition error

theorem leaves_call (request : GatewayCall) : LeavesMarket (.call request) :=
  fun _ => preserves_call request

theorem leaves_alter {update : Store → Store}
    (kept : ∀ store, (update store).market = store.market) : LeavesMarket (.alter update) :=
  fun _ => preserves_alter fun store same => (kept store).trans same

theorem leaves_bind {first : Service β} {next : β → Service α} (early : LeavesMarket first)
    (late : ∀ value, LeavesMarket (next value)) : LeavesMarket (first >>= next) :=
  fun market => preserves_bind (early market) fun value => late value market

theorem leaves_transaction {body : Service α} (kept : LeavesMarket body) :
    LeavesMarket (.transaction body) :=
  fun market => preserves_transaction (kept market)

theorem leaves_ite {condition : Prop} [Decidable condition] {first second : Service α}
    (positive : LeavesMarket first) (negative : LeavesMarket second) :
    LeavesMarket (if condition then first else second) :=
  fun market => preserves_ite (positive market) (negative market)

end Rules

/-! ## Parts of services -/

section Parts

variable (now : Time)

theorem appendEntries_leaves (entries : List LedgerEntry) :
    LeavesMarket (appendEntries entries) :=
  leaves_alter fun _ => rfl

theorem createTransaction_leaves (make : TransactionId → PaymentTransaction)
    (keyed : ∀ id, Keyed.key (make id) = id) : LeavesMarket (createTransaction make keyed) := by
  refine leaves_bind (leaves_inspect _) fun row => ?_
  refine leaves_bind (leaves_inspect _) fun admitted => ?_
  refine leaves_bind (leaves_require _ _) fun _ => ?_
  exact leaves_bind (leaves_alter fun _ => rfl) fun _ => leaves_pure _

theorem applyToIntent_leaves (intentId : IntentId) (transactionId : TransactionId)
    (status : GatewayOperationStatus) :
    LeavesMarket (applyToIntent intentId transactionId status now) := by
  refine leaves_bind (leaves_consult _) fun intent => ?_
  refine leaves_bind (leaves_alter fun store => ?_) fun _ => ?_
  · split_ifs <;> rfl
  refine leaves_ite ?_ (leaves_pure _)
  refine leaves_bind ?_ fun _ => ?_
  · refine leaves_bind (leaves_inspect _) fun existing => ?_
    exact leaves_ite (leaves_pure _) (appendEntries_leaves _)
  · exact leaves_bind (leaves_consult _) fun _ => leaves_alter fun _ => rfl

theorem applyGatewayStatus_leaves (transaction : PaymentTransaction)
    (status : GatewayOperationStatus) (rawPayload : Option Json) (reason : Option String) :
    LeavesMarket (applyGatewayStatus transaction status rawPayload reason now) := by
  refine leaves_bind (leaves_consult _) fun row => ?_
  refine leaves_bind (leaves_alter fun _ => rfl) fun _ => ?_
  split
  · exact leaves_pure _
  · exact leaves_bind (applyToIntent_leaves now _ _ _) fun _ => leaves_pure _

theorem syncRefundCaseDecision_leaves (input : RefundDecisionInput) :
    LeavesMarket (syncRefundCaseDecision input now) := by
  refine leaves_bind (leaves_inspect _) fun found => ?_
  cases found with
  | none =>
      exact leaves_pure _
  | some incident =>
      exact leaves_bind (leaves_alter fun _ => rfl) fun _ => leaves_alter fun _ => rfl

theorem ensureRefundDisputeCase_leaves (input : RefundDisputeInput) :
    LeavesMarket (ensureRefundDisputeCase input now) := by
  refine leaves_bind (leaves_inspect _) fun existing => ?_
  cases existing with
  | some incident =>
      exact leaves_pure _
  | none =>
      refine leaves_bind (leaves_inspect _) fun created => ?_
      refine leaves_bind (leaves_alter fun _ => rfl) fun _ => ?_
      exact leaves_bind (leaves_alter fun _ => rfl) fun _ => leaves_pure _

theorem decideRefund_leaves (refundRequestId : RefundId)
    (change : RefundRequest → RefundRequest)
    (keeps : ∀ refund, Keyed.key (change refund) = Keyed.key refund)
    (decision : RefundDecisionInput) :
    LeavesMarket (decideRefund refundRequestId change keeps decision now) := by
  refine leaves_transaction (leaves_bind (leaves_alter fun _ => rfl) fun _ => ?_)
  exact leaves_bind (syncRefundCaseDecision_leaves now _) fun _ => leaves_consult _

theorem appendRefundLedgerEntries_leaves (intent : PaymentIntent)
    (transactionId : TransactionId) (amount : Int) (shares : RefundShares)
    (actorUserId : UserId) :
    LeavesMarket (appendRefundLedgerEntries intent transactionId amount shares actorUserId) := by
  refine leaves_bind (leaves_inspect _) fun balances => ?_
  refine leaves_bind (leaves_require _ _) fun _ => ?_
  exact leaves_bind (leaves_require _ _) fun _ => appendEntries_leaves _

theorem processRefundRequest_leaves (refundRequestId : RefundId) (actorUserId : UserId)
    (decisionNote : Option String) (answer : GatewayResult) :
    LeavesMarket (processRefundRequest refundRequestId actorUserId decisionNote answer now) := by
  refine leaves_bind (leaves_consult _) fun order => leaves_transaction ?_
  refine leaves_bind (leaves_consult _) fun record => ?_
  refine leaves_bind (leaves_alter fun _ => rfl) fun _ => ?_
  refine leaves_bind (leaves_call _) fun _ => ?_
  refine leaves_bind (createTransaction_leaves _ _) fun transaction => ?_
  refine leaves_bind (leaves_alter fun _ => rfl) fun _ => ?_
  refine leaves_bind (syncRefundCaseDecision_leaves now _) fun _ => ?_
  refine leaves_ite ?_ (leaves_consult _)
  exact leaves_bind (appendRefundLedgerEntries_leaves _ _ _ _ _) fun _ => leaves_consult _

theorem recordPayout_leaves (payout : Payout) (actorUserId : UserId) (dto : ProcessPayoutDto)
    (answer : GatewayResult) : LeavesMarket (recordPayout payout actorUserId dto answer now) := by
  refine leaves_bind (createTransaction_leaves _ _) fun transaction => ?_
  refine leaves_bind (leaves_alter fun _ => rfl) fun _ => ?_
  refine leaves_ite ?_ (leaves_consult _)
  refine leaves_bind (leaves_inspect _) fun available => ?_
  refine leaves_bind (leaves_require _ _) fun _ => ?_
  exact leaves_bind (appendEntries_leaves _) fun _ => leaves_consult _

end Parts

/-! ## Operations -/

theorem updateStatus_leaves (jobId : JobId) (requesterId : UserId) (dto : UpdateJobStatusDto)
    (now : Time) : LeavesMarket (updateStatus jobId requesterId dto now) := by
  refine leaves_bind (leaves_consult _) fun job => leaves_transaction ?_
  refine leaves_bind (leaves_alter fun _ => rfl) fun _ => ?_
  exact leaves_ite (leaves_bind (leaves_alter fun _ => rfl) fun _ => leaves_pure _)
    (leaves_pure _)

theorem createIntent_leaves (policy : PaymentPolicy) (actorUserId : UserId)
    (dto : CreatePaymentIntentDto) (now : Time) :
    LeavesMarket (createIntent policy actorUserId dto now) := by
  refine leaves_bind (leaves_consult _) fun gate => ?_
  cases gate with
  | existing intent =>
      exact leaves_inspect _
  | create job chargeAmount providerUserId =>
      refine leaves_bind (leaves_inspect _) fun intent => ?_
      exact leaves_bind (leaves_alter fun _ => rfl) fun _ => leaves_pure _

theorem payIntent_leaves (intentId : IntentId) (actorUserId : UserId)
    (dto : PayPaymentIntentDto) (answer : GatewayResult) (now : Time) :
    LeavesMarket (payIntent intentId actorUserId dto answer now) := by
  refine leaves_bind (leaves_consult _) fun gate => ?_
  cases gate with
  | alreadyPaid intent =>
      exact leaves_inspect _
  | replay intent =>
      exact leaves_consult _
  | charge intent idempotencyKey =>
      refine leaves_bind (leaves_call _) fun _ => ?_
      refine leaves_bind (leaves_transaction ?_) fun _ => leaves_consult _
      refine leaves_bind (createTransaction_leaves _ _) fun transaction => ?_
      exact applyGatewayStatus_leaves now _ _ _ _

theorem handleWebhook_leaves (environment : WebhookEnvironment) (provider : PaymentProvider)
    (dto : PaymentWebhookDto) (headers : WebhookHeaders) (now : Time) :
    LeavesMarket (handleWebhook environment provider dto headers now) := by
  refine leaves_bind (leaves_consult _) fun gate => ?_
  cases gate with
  | deduplicated event =>
      exact leaves_pure _
  | accepted signatureValid =>
      refine leaves_bind (leaves_inspect _) fun admitted => ?_
      refine leaves_bind (leaves_require _ _) fun _ => ?_
      refine leaves_bind (leaves_inspect _) fun eventId => ?_
      refine leaves_bind (leaves_alter fun _ => rfl) fun _ => ?_
      refine leaves_bind (leaves_inspect _) fun transaction => ?_
      split
      · refine leaves_bind (leaves_transaction ?_) fun updated => ?_
        · refine leaves_bind (leaves_consult _) fun record => ?_
          exact applyGatewayStatus_leaves now _ _ _ _
        · exact leaves_bind (leaves_alter fun _ => rfl) fun _ => leaves_pure _
      · exact leaves_bind (leaves_alter fun _ => rfl) fun _ => leaves_pure _

theorem reconcileTransaction_leaves (transactionId : TransactionId) (answer : GatewayResult)
    (now : Time) : LeavesMarket (reconcileTransaction transactionId answer now) := by
  refine leaves_bind (leaves_consult _) fun transaction => ?_
  refine leaves_bind (leaves_call _) fun _ => ?_
  exact leaves_transaction (applyGatewayStatus_leaves now _ _ _ _)

theorem createJobRefundRequest_leaves (jobId : JobId) (actor : IntentActorInput)
    (dto : CreateJobRefundRequestDto) (now : Time) :
    LeavesMarket (createJobRefundRequest jobId actor dto now) := by
  refine leaves_bind (leaves_consult _) fun terms => leaves_transaction ?_
  refine leaves_bind (leaves_inspect _) fun created => ?_
  refine leaves_bind (leaves_alter fun _ => rfl) fun _ => ?_
  exact leaves_bind (ensureRefundDisputeCase_leaves now _) fun _ => leaves_pure _

theorem cancelRefundRequest_leaves (refundRequestId : RefundId) (actor : IntentActorInput)
    (now : Time) : LeavesMarket (cancelRefundRequest refundRequestId actor now) :=
  leaves_bind (leaves_consult _) fun _ => decideRefund_leaves now _ _ _ _

theorem adminRejectRefund_leaves (actorUserId : UserId) (refundRequestId : RefundId)
    (dto : RejectRefundRequestDto) (now : Time) :
    LeavesMarket (adminRejectRefund actorUserId refundRequestId dto now) := by
  refine leaves_bind (leaves_consult _) fun refund => ?_
  refine leaves_bind (decideRefund_leaves now _ _ _ _) fun updated => ?_
  exact leaves_bind (leaves_consult _) fun _ => leaves_pure _

theorem adminApproveRefund_leaves (actorUserId : UserId) (refundRequestId : RefundId)
    (decisionNote : Option String) (answer : GatewayResult) (now : Time) :
    LeavesMarket (adminApproveRefund actorUserId refundRequestId decisionNote answer now) := by
  refine leaves_bind (leaves_consult _) fun refund => ?_
  refine leaves_bind (processRefundRequest_leaves now _ _ _ _) fun processed => ?_
  exact leaves_bind (leaves_consult _) fun _ => leaves_pure _

theorem adminCreateRefund_leaves (actorUserId : UserId) (dto : CreateRefundRequestDto)
    (answer : GatewayResult) (now : Time) :
    LeavesMarket (adminCreateRefund actorUserId dto answer now) := by
  refine leaves_bind (leaves_consult _) fun terms => ?_
  refine leaves_bind (leaves_inspect _) fun created => ?_
  refine leaves_bind (leaves_alter fun _ => rfl) fun _ => ?_
  refine leaves_bind (processRefundRequest_leaves now _ _ _ _) fun processed => ?_
  exact leaves_bind (leaves_consult _) fun _ => leaves_pure _

theorem adminCreatePayout_leaves (actorUserId : UserId) (dto : CreatePayoutDto) :
    LeavesMarket (adminCreatePayout actorUserId dto) := by
  refine leaves_bind (leaves_consult _) fun intent => ?_
  refine leaves_bind (leaves_inspect _) fun created => ?_
  refine leaves_bind (leaves_inspect _) fun jobExists => ?_
  refine leaves_bind (leaves_require _ _) fun _ => ?_
  exact leaves_bind (leaves_alter fun _ => rfl) fun _ => leaves_pure _

theorem adminApprovePayout_leaves (actorUserId : UserId) (payoutId : PayoutId) :
    LeavesMarket (adminApprovePayout actorUserId payoutId) := by
  refine leaves_bind (leaves_consult _) fun payout => ?_
  exact leaves_bind (leaves_alter fun _ => rfl) fun _ => leaves_consult _

theorem adminProcessPayout_leaves (actorUserId : UserId) (payoutId : PayoutId)
    (dto : ProcessPayoutDto) (answer : GatewayResult) (now : Time) :
    LeavesMarket (adminProcessPayout actorUserId payoutId dto answer now) := by
  refine leaves_bind (leaves_consult _) fun payout => ?_
  refine leaves_bind (leaves_inspect _) fun existing => ?_
  refine leaves_ite (leaves_consult _) ?_
  refine leaves_bind (leaves_call _) fun _ => leaves_transaction ?_
  refine leaves_bind (leaves_consult _) fun record => ?_
  refine leaves_bind (leaves_inspect _) fun duplicate => ?_
  exact leaves_ite (leaves_consult _) (recordPayout_leaves now _ _ _ _)

theorem adminReleaseProviderFunds_leaves (policy : PaymentPolicy) (actorUserId : UserId)
    (jobId : JobId) (now : Time) :
    LeavesMarket (adminReleaseProviderFunds policy actorUserId jobId now) := by
  refine leaves_bind (leaves_consult _) fun intent => leaves_transaction ?_
  refine leaves_bind (leaves_inspect _) fun held => ?_
  refine leaves_bind (leaves_require _ _) fun _ => ?_
  exact leaves_bind (appendEntries_leaves _) fun _ => leaves_pure _

/-- Operations of the payments and job services, which are not selections. -/
def IsPaymentCall : Operation → Prop
  | .environment _ => False
  | .selectProposal .. => False
  | _ => True

theorem market_perform {operation : Operation} (payment : IsPaymentCall operation)
    (store : Store) : (operation.perform store).market = store.market := by
  cases operation with
  | environment market =>
      exact payment.elim
  | selectProposal policy requestId proposalId actorUserId depositPercent now =>
      exact payment.elim
  | updateStatus jobId requesterId dto now =>
      exact updateStatus_leaves _ _ _ _ _ store rfl
  | createIntent policy actorUserId dto now =>
      exact createIntent_leaves _ _ _ _ _ store rfl
  | payIntent intentId actorUserId dto answer now =>
      exact payIntent_leaves _ _ _ _ _ _ store rfl
  | handleWebhook environment provider dto headers now =>
      exact handleWebhook_leaves _ _ _ _ _ _ store rfl
  | reconcileTransaction transactionId answer now =>
      exact reconcileTransaction_leaves _ _ _ _ store rfl
  | createJobRefundRequest jobId actor dto now =>
      exact createJobRefundRequest_leaves _ _ _ _ _ store rfl
  | cancelRefundRequest refundRequestId actor now =>
      exact cancelRefundRequest_leaves _ _ _ _ store rfl
  | adminRejectRefund actorUserId refundRequestId dto now =>
      exact adminRejectRefund_leaves _ _ _ _ _ store rfl
  | adminApproveRefund actorUserId refundRequestId decisionNote answer now =>
      exact adminApproveRefund_leaves _ _ _ _ _ _ store rfl
  | adminCreateRefund actorUserId dto answer now =>
      exact adminCreateRefund_leaves _ _ _ _ _ store rfl
  | adminCreatePayout actorUserId dto =>
      exact adminCreatePayout_leaves _ _ _ store rfl
  | adminApprovePayout actorUserId payoutId =>
      exact adminApprovePayout_leaves _ _ _ store rfl
  | adminProcessPayout actorUserId payoutId dto answer now =>
      exact adminProcessPayout_leaves _ _ _ _ _ _ store rfl
  | adminReleaseProviderFunds policy actorUserId jobId now =>
      exact adminReleaseProviderFunds_leaves _ _ _ _ _ store rfl

/-! ## Jobs -/

def OpensNoJob : Movement → Prop
  | .selectProposal .. => False
  | _ => True

theorem movements_opensNoJob (store : Store) {operation : Operation}
    (payment : IsPaymentCall operation) :
    ∀ movement ∈ operation.movements store, OpensNoJob movement := by
  intro movement member
  cases makes_of_mem member with
  | selectProposal gate =>
      exact payment.elim
  | _ =>
      trivial

/-- Every job is an old one, up to the fields which change. -/
def SameJobs (before after : Books) : Prop :=
  ∀ job ∈ after.jobs, ∃ old ∈ before.jobs, job.fixed = old.fixed

theorem sameJobs_apply {books : Books} {movement : Movement} (kept : OpensNoJob movement) :
    SameJobs books (movement.apply books) := by
  intro job member
  change job ∈ movement.jobs books at member
  cases movement with
  | selectProposal policy request terms actorUserId =>
      exact kept.elim
  | moveJob moved requesterId dto now =>
      exact Table.Evolves.origin_update _ member fun _ => rfl
  | applyReport report =>
      simp only [Movement.jobs] at member
      split at member
      · split_ifs at member
        · exact Table.Evolves.origin_update _ member fun _ => rfl
        · exact ⟨job, member, rfl⟩
      · exact ⟨job, member, rfl⟩
  | _ =>
      exact ⟨job, member, rfl⟩

theorem sameJobs_perform {store : Store} (consistent : store.Consistent)
    {operation : Operation} (payment : IsPaymentCall operation) :
    SameJobs store.toBooks (operation.perform store).toBooks := by
  rw [perform_books consistent.toForeignKeys operation]
  have opens := (movements_admitted store operation).and_forall_mem
    (movements_opensNoJob store payment)
  refine @Machine.run_invariant _ _ bookkeeping (SameJobs store.toBooks)
    (fun books movement => movement.Admitted books ∧ OpensNoJob movement) ?_ store.toBooks
    (fun job member => ⟨job, member, rfl⟩) _ opens
  intro books movement same made job member
  obtain ⟨middle, middleMember, sameFixed⟩ := sameJobs_apply made.2 job member
  obtain ⟨old, oldMember, sameOld⟩ := same middle middleMember
  exact ⟨old, oldMember, sameFixed.trans sameOld⟩

end Tchuno.Requests
