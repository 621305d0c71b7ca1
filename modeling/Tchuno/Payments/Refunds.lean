import Tchuno.Library.Doubles
import Tchuno.Payments.Ledger
import Tchuno.Payments.Policy
import Tchuno.Payments.Support

/-!
# Refund requests

A refund request is opened by a participant of the job or by an administrator,
and is then approved, rejected or canceled.  Approval hands it to the gateway
and, when the gateway answers that it succeeded, reverses the charge in the
ledger: first from the platform's reserve, then from the provider's held and
available balances.
-/

namespace Tchuno.Payments

open Tchuno.Library Tchuno.Library.Ecma

/-! ## Access to a job -/

structure IntentActorInput where
  userId : UserId
  role : Option AppRole

def AppRole.isAdmin (role : AppRole) : Bool :=
  [AppRole.admin, .supportAdmin, .opsAdmin, .superAdmin].contains role

/-- A job with the participants its relations resolve to. -/
structure AccessibleJobFinancialRecord where
  job : Job
  customer : User
  provider : User
  isAdmin : Bool
  isCustomer : Bool
  isProvider : Bool

def resolveJobAccess (market : Marketplace) (job : Job) (actor : IntentActorInput) :
    Except ApiError AccessibleJobFinancialRecord :=
  let provider := (job.providerId.bind market.users.find?).or
    ((market.workerProfiles.find? job.workerProfileId).bind fun profile =>
      market.users.find? profile.userId)
  let customer := (job.customerId.bind market.users.find?).or
    (market.users.find? job.clientId)
  match provider, customer with
  | some provider, some customer =>
      let isAdmin := (actor.role.getD .customer).isAdmin
      let isCustomer :=
        job.clientId = actor.userId || job.customerId = some actor.userId
      let isProvider := provider.id = actor.userId
      if isAdmin || isCustomer || isProvider then
        .ok ⟨job, customer, provider, isAdmin, isCustomer, isProvider⟩
      else
        .error (.forbidden "You are not allowed to access this job")
  | _, _ => .error (.conflict "Conversation participants are not available")

def getAccessibleJobOrThrow (jobId : JobId) (actor : IntentActorInput) (store : Store) :
    Except ApiError AccessibleJobFinancialRecord := do
  let job ← orThrow (store.jobs.find? jobId) (.notFound "Job not found")
  resolveJobAccess store.market job actor

def resolveParticipantActorName (access : AccessibleJobFinancialRecord)
    (actorUserId : UserId) : String :=
  if actorUserId = access.customer.id then
    (truthy (access.customer.name.map trim)).getD "Cliente"
  else
    (truthy (access.provider.name.map trim)).getD "Prestador"

/-! ## What can still be refunded -/

def Store.getLatestPaidIntent (store : Store) (jobId : JobId) : Option PaymentIntent :=
  store.intents.findFirst? fun intent => intent.jobId = jobId && intent.status.isPaid

/-- `refundRequest.aggregate({ _sum: { amount } })` over the intent's requests
whose status is listed. -/
def Books.refundSum (books : Books) (intentId : IntentId)
    (statuses : List RefundStatus) : Int :=
  books.refunds.total fun refund =>
    if refund.paymentIntentId = intentId ∧ refund.status ∈ statuses then
      refund.amount
    else
      0

/-- Only refunds that have succeeded are counted. -/
def getRemainingRefundableAmount (intentId : IntentId) (books : Books) :
    Except ApiError Int := do
  let intent ← orThrow (books.intents.find? intentId) (.notFound "Payment intent not found")
  pure (max 0 (intent.amount - books.refundSum intentId [.succeeded]))

def resolveSuggestedRefundAmount (job : Job) (remainingRefundableAmount : Int) :
    Option Int :=
  if remainingRefundableAmount ≤ 0 then
    none
  else if job.status = .completed then
    none
  else if job.startedAt.isSome ∨ job.status = .inProgress then
    some (max 1 (mathRound ((remainingRefundableAmount : ℚ) / 2)))
  else
    some remainingRefundableAmount

/-! ## Opening a request -/

structure CreateJobRefundRequestDto where
  amount : Option DtoAmount
  reason : String
  evidenceItems : List String

structure CreateRefundRequestDto where
  paymentIntentId : IntentId
  amount : Option DtoAmount
  reason : String
  evidenceItems : List String

/-- A new pending request. -/
def pendingRefund (intent : PaymentIntent) (requestedByUserId : UserId) (amount : Int)
    (reason : String) (evidenceItems : List String) (id : RefundId) : RefundRequest where
  id := id
  jobId := intent.jobId
  paymentIntentId := intent.id
  transactionId := none
  requestedByUserId := requestedByUserId
  approvedByUserId := none
  amount := amount
  currency := intent.currency
  reason := trim reason
  evidenceItems := normalizeEvidenceItems evidenceItems
  decisionNote := none
  status := .pending
  provider := intent.provider
  providerReference := none
  processedAt := none
  failureReason := none

theorem pendingRefund_key (intent : PaymentIntent) (requestedByUserId : UserId) (amount : Int)
    (dto : CreateRefundRequestDto) (id : RefundId) :
    Keyed.key (pendingRefund intent requestedByUserId amount dto.reason dto.evidenceItems id) =
      id :=
  rfl

/-- What a request is opened for. -/
structure RefundTerms where
  access : AccessibleJobFinancialRecord
  intent : PaymentIntent
  amount : Int

def createJobRefundGate (jobId : JobId) (actor : IntentActorInput)
    (dto : CreateJobRefundRequestDto) (store : Store) : Except ApiError RefundTerms := do
  let access ← getAccessibleJobOrThrow jobId actor store
  let intent ← orThrow (store.getLatestPaidIntent jobId)
    (.conflict "Only paid jobs can create refund requests")
  let existingActiveRequest := store.refunds.findFirst? fun refund =>
    refund.paymentIntentId = intent.id &&
      [RefundStatus.pending, .approved, .processing].contains refund.status
  guardThat (existingActiveRequest.isNone = true)
    (.conflict "There is already an active refund request for this job")
  let remainingRefundable ← getRemainingRefundableAmount intent.id store.toBooks
  guardThat (0 < remainingRefundable)
    (.conflict "This payment has no refundable balance left")
  let requestedAmount := ((dto.amount.map Subtype.val).or
    (resolveSuggestedRefundAmount access.job remainingRefundable)).getD remainingRefundable
  guardThat (requestedAmount ≤ remainingRefundable)
    (.badRequest "Refund amount exceeds refundable balance")
  pure ⟨access, intent, requestedAmount⟩

def createJobRefundRequest (jobId : JobId) (actor : IntentActorInput)
    (dto : CreateJobRefundRequestDto) (now : Time) : Service RefundRequest := do
  let terms ← .consult (createJobRefundGate jobId actor dto)
  let make := pendingRefund terms.intent actor.userId terms.amount dto.reason
    dto.evidenceItems
  .transaction do
    let created ← .inspect fun store => make store.refunds.nextId
    .alter fun store => { store with refunds := store.refunds.insert make }
    let _ ← ensureRefundDisputeCase
      { refundRequestId := created.id
        jobId := terms.access.job.id
        createdByUserId := actor.userId
        actorName := resolveParticipantActorName terms.access actor.userId
        amount := terms.amount
        currency := terms.intent.currency
        reason := trim dto.reason
        evidenceItems := normalizeEvidenceItems dto.evidenceItems } now
    pure created

/-! ## Closing a request without a refund -/

/-- Write the decision on the request and on its case, in one transaction. -/
def decideRefund (refundRequestId : RefundId) (change : RefundRequest → RefundRequest)
    (keeps : ∀ refund, Keyed.key (change refund) = Keyed.key refund)
    (decision : RefundDecisionInput) (now : Time) : Service RefundRequest :=
  .transaction do
    .alter fun store =>
      { store with refunds := store.refunds.update refundRequestId change keeps }
    syncRefundCaseDecision decision now
    .consult fun store =>
      orThrow (store.refunds.find? refundRequestId) (.database "P2025")

structure CancelRefundTerms where
  refund : RefundRequest
  access : AccessibleJobFinancialRecord

def cancelRefundGate (refundRequestId : RefundId) (actor : IntentActorInput)
    (store : Store) : Except ApiError CancelRefundTerms := do
  let refund ← orThrow (store.refunds.find? refundRequestId)
    (.notFound "Refund request not found")
  let job ← orThrow (store.jobs.find? refund.jobId) (.database "P2025")
  let access ← resolveJobAccess store.market job actor
  guardThat (access.isAdmin = true ∨ refund.requestedByUserId = actor.userId)
    (.forbidden "You are not allowed to cancel this refund request")
  guardThat (refund.status = .pending)
    (.conflict "Only pending refund requests can be canceled")
  pure ⟨refund, access⟩

def canceledRefund (now : Time) (refund : RefundRequest) : RefundRequest :=
  { refund with
    status := .canceled
    processedAt := some now
    failureReason := some "Pedido cancelado pelo utilizador." }

theorem canceledRefund_key (now : Time) (refund : RefundRequest) :
    Keyed.key (canceledRefund now refund) = Keyed.key refund :=
  rfl

def cancelRefundRequest (refundRequestId : RefundId) (actor : IntentActorInput)
    (now : Time) : Service RefundRequest := do
  let terms ← .consult (cancelRefundGate refundRequestId actor)
  decideRefund terms.refund.id (canceledRefund now) (fun _ => rfl)
    { refundRequestId := terms.refund.id
      refundStatus := .canceled
      actorUserId := actor.userId
      actorName := resolveParticipantActorName terms.access actor.userId
      decisionNote := some "O pedido foi cancelado antes da decisão final da equipa."
      decisionTitle := "Pedido cancelado"
      closeTitle := "Caso cancelado" } now

structure RejectRefundRequestDto where
  reason : String
  decisionNote : Option String

/-- `dto.decisionNote?.trim() || dto.reason.trim()`. -/
def RejectRefundRequestDto.note (dto : RejectRefundRequestDto) : String :=
  (truthy (dto.decisionNote.map trim)).getD (trim dto.reason)

def pendingRefundGate (refundRequestId : RefundId) (refusal : String) (store : Store) :
    Except ApiError RefundRequest := do
  let refund ← orThrow (store.refunds.find? refundRequestId)
    (.notFound "Refund request not found")
  guardThat (refund.status = .pending) (.conflict refusal)
  pure refund

def rejectedRefund (actorUserId : UserId) (dto : RejectRefundRequestDto) (now : Time)
    (refund : RefundRequest) : RefundRequest :=
  { refund with
    status := .failed
    approvedByUserId := some actorUserId
    processedAt := some now
    failureReason := some (trim dto.reason)
    decisionNote := some dto.note }

theorem rejectedRefund_key (actorUserId : UserId) (dto : RejectRefundRequestDto) (now : Time)
    (refund : RefundRequest) :
    Keyed.key (rejectedRefund actorUserId dto now refund) = Keyed.key refund :=
  rfl

def adminRejectRefund (actorUserId : UserId) (refundRequestId : RefundId)
    (dto : RejectRefundRequestDto) (now : Time) : Service RefundRequest := do
  let refund ← .consult
    (pendingRefundGate refundRequestId "Only pending refund requests can be rejected")
  let updated ← decideRefund refund.id (rejectedRefund actorUserId dto now) (fun _ => rfl)
    { refundRequestId := refund.id
      refundStatus := .failed
      actorUserId := actorUserId
      actorName := "Equipa de suporte"
      decisionNote := some dto.note
      decisionTitle := "Pedido recusado"
      closeTitle := "Caso encerrado" } now
  let _ ← .consult (getAccessibleJobOrThrow refund.jobId ⟨actorUserId, some .admin⟩)
  pure updated

/-! ## Processing a request -/

/-- The shares of a refund taken from the platform and from the provider. -/
structure RefundShares where
  platformPart : Int
  providerPart : Int

/-- Product and quotient are doubles before `Math.round` sees them. -/
def refundShares (intent : PaymentIntent) (amount : Int) : RefundShares :=
  let platformPart :=
    if intent.amount = 0 then
      0
    else
      mathRound (toDouble (toDouble (amount * intent.platformFeeAmount) / intent.amount))
  ⟨platformPart, amount - platformPart⟩

/-- The double of a quotient just below a half is the half. -/
example :
    mathRound (toDouble (toDouble (99999995 * 74999998) / 99999997)) = 74999997 ∧
      mathRound (99999995 * 74999998 / 99999997) = 74999996 := by
  decide +kernel

/-- Balances of an intent as `appendRefundLedgerEntries` reads them. -/
structure RefundableBalances where
  platformReserved : Int
  providerHeld : Int
  providerAvailable : Int

def refundableBalances (ledger : List LedgerEntry) (intentId : IntentId) :
    RefundableBalances where
  platformReserved :=
    computeBucketNet ledger .platformReserved (ofIntent .platform (some intentId))
  providerHeld := computeBucketNet ledger .providerHeld (ofIntent .provider (some intentId))
  providerAvailable :=
    computeBucketNet ledger .providerAvailable (ofIntent .provider (some intentId))

/-- One leg of the reversal; a leg of zero is left out. -/
def reversalEntry (intent : PaymentIntent) (transactionId : TransactionId)
    (actorUserId : UserId) (actorType : PaymentActorType) (bucket : LedgerBalanceBucket)
    (amount : Int) (description : String) : List LedgerEntry :=
  if 0 < amount then
    [{ jobId := some intent.jobId
       paymentIntentId := some intent.id
       transactionId := some transactionId
       actorType := actorType
       entryType := .reversal
       amount := amount
       currency := intent.currency
       direction := .debit
       balanceBucket := bucket
       description := description
       createdByUserId := some actorUserId }]
  else
    []

/-- The entry group of a settled refund. -/
def refundEntries (intent : PaymentIntent) (transactionId : TransactionId)
    (amount : Int) (shares : RefundShares) (balances : RefundableBalances)
    (actorUserId : UserId) : List LedgerEntry :=
  let heldDebit := min balances.providerHeld shares.providerPart
  let availableDebit := shares.providerPart - heldDebit
  reversalEntry intent transactionId actorUserId .platform .platformReserved
      shares.platformPart "Refund reversal on platform reserved fee" ++
    reversalEntry intent transactionId actorUserId .provider .providerHeld
      heldDebit "Refund reversal debited from provider held balance" ++
    reversalEntry intent transactionId actorUserId .provider .providerAvailable
      availableDebit "Refund reversal debited from provider available balance" ++
    [{ jobId := some intent.jobId
       paymentIntentId := some intent.id
       transactionId := some transactionId
       actorType := .customer
       entryType := .customerRefund
       amount := amount
       currency := intent.currency
       direction := .credit
       balanceBucket := .customerExternal
       description := "Customer refund settled"
       createdByUserId := some actorUserId }]

def appendRefundLedgerEntries (intent : PaymentIntent) (transactionId : TransactionId)
    (amount : Int) (shares : RefundShares) (actorUserId : UserId) : Service Unit := do
  let balances ← .inspect fun store => refundableBalances store.ledger intent.id
  .require (shares.platformPart ≤ balances.platformReserved)
    (.conflict "Insufficient platform reserved balance for refund settlement")
  .require (shares.providerPart ≤ balances.providerHeld + balances.providerAvailable)
    (.conflict "Insufficient provider balance for refund")
  appendEntries (refundEntries intent transactionId amount shares balances actorUserId)

/-- The transaction row of a refund. -/
def refundRow (refund : RefundRequest) (answer : GatewayResult) (now : Time)
    (id : TransactionId) : PaymentTransaction :=
  let transactionStatus := mapGatewayToTransactionStatus answer.status
  { id := id
    paymentIntentId := some refund.paymentIntentId
    type := .refund
    status := transactionStatus
    provider := refund.provider
    providerReference := some answer.providerReference
    idempotencyKey := refundIdempotencyKey refund.id
    requestedAmount := refund.amount
    confirmedAmount := if transactionStatus = .succeeded then some refund.amount else none
    currency := refund.currency
    providerPayload := answer.rawPayload
    failureReason := answer.reason
    processedAt := answer.processedAt
    updatedAt := now }

def nextRefundStatus (status : GatewayOperationStatus) : RefundStatus :=
  match mapGatewayToTransactionStatus status with
  | .succeeded => .succeeded
  | .failed => .failed
  | _ => .processing

@[simp]
theorem nextRefundStatus_eq_succeeded {status : GatewayOperationStatus} :
    nextRefundStatus status = .succeeded ↔ status = .succeeded := by
  cases status <;> simp [nextRefundStatus, mapGatewayToTransactionStatus]

def refundDecisionTitle : RefundStatus → String
  | .succeeded => "Pedido aprovado"
  | .processing => "Pedido aprovado e em processamento"
  | _ => "Aprovação com falha"

/-- What `processRefundRequest` has checked before it calls the gateway. -/
structure RefundOrder where
  refund : RefundRequest
  intent : PaymentIntent

def processRefundGate (refundRequestId : RefundId) (store : Store) :
    Except ApiError RefundOrder := do
  let refund ← pendingRefundGate refundRequestId
    "Only pending refund requests can be approved" store
  let intent ← orThrow (store.intents.find? refund.paymentIntentId) (.database "P2025")
  guardThat (intent.status.isPaid = true)
    (.conflict "Only paid payment intents can be refunded")
  let remainingRefundable ← getRemainingRefundableAmount intent.id store.toBooks
  guardThat (refund.amount ≤ remainingRefundable)
    (.badRequest "Refund amount exceeds refundable balance")
  pure ⟨refund, intent⟩

/-- The request while the gateway is asked; `record` is the row as it was read. -/
def approvedRefund (record : RefundRequest) (actorUserId : UserId)
    (decisionNote : Option String) (refund : RefundRequest) : RefundRequest :=
  { refund with
    status := .approved
    approvedByUserId := some actorUserId
    decisionNote := (truthy (decisionNote.map trim)).or record.decisionNote }

theorem approvedRefund_key (record : RefundRequest) (actorUserId : UserId)
    (decisionNote : Option String) (refund : RefundRequest) :
    Keyed.key (approvedRefund record actorUserId decisionNote refund) = Keyed.key refund :=
  rfl

/-- The request after the gateway has answered. -/
def settledRefund (transaction : PaymentTransaction) (status : GatewayOperationStatus)
    (refund : RefundRequest) : RefundRequest :=
  { refund with
    status := nextRefundStatus status
    transactionId := some transaction.id
    providerReference := transaction.providerReference
    processedAt := transaction.processedAt
    failureReason := transaction.failureReason }

/-- What is written once the gateway has answered. -/
def recordRefund (order : RefundOrder) (record : RefundRequest) (actorUserId : UserId)
    (decisionNote : Option String) (answer : GatewayResult) (now : Time) :
    Service RefundRequest := do
  let transaction ← createTransaction (refundRow record answer now)
  .alter fun store =>
    { store with
      refunds := store.refunds.update record.id
        (settledRefund transaction answer.status) }
  syncRefundCaseDecision
    { refundRequestId := record.id
      refundStatus := nextRefundStatus answer.status
      actorUserId := actorUserId
      actorName := "Equipa de suporte"
      decisionNote := (truthy (decisionNote.map trim)).or
        ((truthy (transaction.failureReason.map trim)).or (truthy record.decisionNote))
      decisionTitle := refundDecisionTitle (nextRefundStatus answer.status)
      closeTitle := "Caso encerrado" } now
  if transaction.status = .succeeded then
    appendRefundLedgerEntries order.intent transaction.id record.amount
      (refundShares order.intent order.refund.amount) actorUserId
  else
    pure ()
  .consult fun store => orThrow (store.refunds.find? record.id) (.database "P2025")

/-- The database transaction of a refund, gateway call included. -/
def settleRefund (order : RefundOrder) (actorUserId : UserId)
    (decisionNote : Option String) (answer : GatewayResult) (now : Time) :
    Service RefundRequest := do
  let record ← .consult (pendingRefundGate order.refund.id
    "Only pending refund requests can be approved")
  .alter fun store =>
    { store with
      refunds := store.refunds.update record.id
        (approvedRefund record actorUserId decisionNote) }
  .call (.requestRefund (getAdapter record.provider) (refundIdempotencyKey record.id)
    record.amount record.currency)
  recordRefund order record actorUserId decisionNote answer now

def processRefundRequest (refundRequestId : RefundId) (actorUserId : UserId)
    (decisionNote : Option String) (answer : GatewayResult) (now : Time) :
    Service RefundRequest := do
  let order ← .consult (processRefundGate refundRequestId)
  .transaction (settleRefund order actorUserId decisionNote answer now)

def adminApproveRefund (actorUserId : UserId) (refundRequestId : RefundId)
    (decisionNote : Option String) (answer : GatewayResult) (now : Time) :
    Service RefundRequest := do
  let refund ← .consult
    (pendingRefundGate refundRequestId "Only pending refund requests can be approved")
  let processed ← processRefundRequest refund.id actorUserId
    (truthy (decisionNote.map trim)) answer now
  let _ ← .consult (getAccessibleJobOrThrow refund.jobId ⟨actorUserId, some .admin⟩)
  pure processed

def adminCreateRefundGate (dto : CreateRefundRequestDto) (store : Store) :
    Except ApiError (PaymentIntent × Int) := do
  let intent ← orThrow (store.intents.find? dto.paymentIntentId)
    (.notFound "Payment intent not found")
  guardThat (intent.status.isPaid = true)
    (.conflict "Only paid payment intents can be refunded")
  let remainingRefundable ← getRemainingRefundableAmount intent.id store.toBooks
  guardThat (0 < remainingRefundable)
    (.conflict "This payment has no refundable balance left")
  let amount := (dto.amount.map Subtype.val).getD remainingRefundable
  guardThat (amount ≤ remainingRefundable)
    (.badRequest "Refund amount exceeds refundable balance")
  pure (intent, amount)

/-- Unlike `createJobRefundRequest`, this does not look for an active request
of the intent. -/
def adminCreateRefund (actorUserId : UserId) (dto : CreateRefundRequestDto)
    (answer : GatewayResult) (now : Time) : Service RefundRequest := do
  let (intent, amount) ← .consult (adminCreateRefundGate dto)
  let make := pendingRefund intent actorUserId amount dto.reason dto.evidenceItems
  let created ← .inspect fun store => make store.refunds.nextId
  .alter fun store => { store with refunds := store.refunds.insert make }
  let processed ← processRefundRequest created.id actorUserId none answer now
  let _ ← .consult (getAccessibleJobOrThrow intent.jobId ⟨actorUserId, some .admin⟩)
  pure processed

end Tchuno.Payments
