import Tchuno.Payments.Ledger
import Tchuno.Payments.Gateway
import Tchuno.Payments.Policy

/-!
# Releases and payouts

A release moves the whole held balance of an intent to the provider's available
balance.  A payout is created, approved and processed; processing asks the
gateway first and books the movement when the answer is final.
-/

namespace Tchuno.Payments

open Tchuno.Library Tchuno.Library.Ecma

/-! ## Releases -/

/-- Entries which move an amount of the provider from one bucket to another. -/
def providerTransfer (jobId : Option JobId) (paymentIntentId : Option IntentId)
    (transactionId : Option TransactionId) (entryType : LedgerEntryType)
    (amount : Int) (currency : String) (source target : LedgerBalanceBucket)
    (sourceText targetText : String) (actorUserId : UserId) : List LedgerEntry :=
  [{ jobId := jobId
     paymentIntentId := paymentIntentId
     transactionId := transactionId
     actorType := .provider
     entryType := entryType
     amount := amount
     currency := currency
     direction := .debit
     balanceBucket := source
     description := sourceText
     createdByUserId := some actorUserId },
   { jobId := jobId
     paymentIntentId := paymentIntentId
     transactionId := transactionId
     actorType := .provider
     entryType := entryType
     amount := amount
     currency := currency
     direction := .credit
     balanceBucket := target
     description := targetText
     createdByUserId := some actorUserId }]

def releaseEntries (intent : PaymentIntent) (heldBalance : Int) (actorUserId : UserId) :
    List LedgerEntry :=
  providerTransfer (some intent.jobId) (some intent.id) none .providerBalanceReleased
    heldBalance intent.currency .providerHeld .providerAvailable
    "Provider held balance released after completion window"
    "Provider funds now available for payout" actorUserId

def releaseGate (policy : PaymentPolicy) (jobId : JobId) (now : Time) (store : Store) :
    Except ApiError PaymentIntent := do
  let job ← orThrow (store.jobs.find? jobId) (.notFound "Job not found")
  guardThat (job.status = .completed)
    (.conflict "Only completed jobs can release provider funds")
  guardThat (policy.canReleaseFunds job.completedAt now = true)
    (.conflict ("Release window not reached yet (" ++ toString policy.releaseDelayHours ++
      "h)"))
  orThrow
    (store.intents.findFirst? fun intent => intent.jobId = job.id && intent.status.isPaid)
    (.notFound "No successful payment intent found for this job")

structure ReleaseReply where
  jobId : JobId
  paymentIntentId : IntentId
  releasedAmount : Int
  currency : String

def adminReleaseProviderFunds (policy : PaymentPolicy) (actorUserId : UserId)
    (jobId : JobId) (now : Time) : Service ReleaseReply := do
  let intent ← .consult (releaseGate policy jobId now)
  .transaction do
    let heldBalance ← .inspect fun store =>
      computeBucketNet store.ledger .providerHeld (ofIntent .provider (some intent.id))
    .require (0 < heldBalance) (.conflict "No held provider balance available to release")
    appendEntries (releaseEntries intent heldBalance actorUserId)
    pure ⟨intent.jobId, intent.id, heldBalance, intent.currency⟩

/-! ## Payouts -/

structure CreatePayoutDto where
  providerUserId : UserId
  amount : DtoAmount
  currency : Option String
  provider : Option PaymentProvider
  paymentIntentId : Option IntentId
  jobId : Option JobId

/-- `payout.aggregate` over the payouts that reserve balance of the intent. -/
def Books.reservedByPendingPayout (books : Books) (intentId : IntentId) : Int :=
  books.payouts.total fun payout =>
    if payout.paymentIntentId = some intentId ∧
        payout.status ∈ [PayoutStatus.pending, .approved, .processing] then
      payout.amount
    else
      0

def providerAvailable (ledger : List LedgerEntry) (intentId : Option IntentId) : Int :=
  computeBucketNet ledger .providerAvailable (ofIntent .provider intentId)

def createPayoutGate (dto : CreatePayoutDto) (store : Store) :
    Except ApiError PaymentIntent := do
  let intentId ← orThrow dto.paymentIntentId
    (.badRequest "paymentIntentId is required for payout")
  let intent ← orThrow (store.intents.find? intentId) (.notFound "Payment intent not found")
  guardThat (intent.providerUserId = some dto.providerUserId)
    (.badRequest "providerUserId does not match payment intent owner")
  guardThat
    (dto.amount.val ≤ providerAvailable store.ledger (some intent.id) -
      store.reservedByPendingPayout intent.id)
    (.conflict "Payout amount exceeds available balance")
  pure intent

def pendingPayout (intent : PaymentIntent) (actorUserId : UserId) (dto : CreatePayoutDto)
    (id : PayoutId) : Payout where
  id := id
  providerUserId := dto.providerUserId
  jobId := some (dto.jobId.getD intent.jobId)
  paymentIntentId := some intent.id
  amount := dto.amount.val
  currency := (truthy (dto.currency.map trim)).getD intent.currency
  status := .pending
  provider := dto.provider.getD intent.provider
  providerReference := none
  requestedByUserId := some actorUserId
  approvedByUserId := none
  processedAt := none
  failureReason := none

def adminCreatePayout (actorUserId : UserId) (dto : CreatePayoutDto) : Service Payout := do
  let intent ← .consult (createPayoutGate dto)
  let created ← .inspect fun store =>
    pendingPayout intent actorUserId dto store.payouts.nextId
  let jobExists ← .inspect fun store => (created.jobId.bind store.jobs.find?).isSome
  .require (jobExists = true) (.database "P2003")
  .alter fun store =>
    { store with payouts := store.payouts.insert (pendingPayout intent actorUserId dto) }
  pure created

/-- A payout which is in the status the next step requires. -/
def payoutGate (payoutId : PayoutId) (status : PayoutStatus) (refusal : String)
    (store : Store) : Except ApiError Payout := do
  let payout ← orThrow (store.payouts.find? payoutId) (.notFound "Payout not found")
  guardThat (payout.status = status) (.conflict refusal)
  pure payout

def findPayoutOrThrow (payoutId : PayoutId) : Service Payout :=
  .consult fun store => orThrow (store.payouts.find? payoutId) (.database "P2025")

def approvedPayout (actorUserId : UserId) (payout : Payout) : Payout :=
  { payout with
    status := .approved
    approvedByUserId := some actorUserId }

theorem approvedPayout_key (actorUserId : UserId) (payout : Payout) :
    Keyed.key (approvedPayout actorUserId payout) = Keyed.key payout :=
  rfl

def adminApprovePayout (actorUserId : UserId) (payoutId : PayoutId) : Service Payout := do
  let payout ← .consult
    (payoutGate payoutId .pending "Only pending payouts can be approved")
  .alter fun store =>
    { store with
      payouts := store.payouts.update payout.id (approvedPayout actorUserId) }
  findPayoutOrThrow payout.id

structure ProcessPayoutDto where
  providerReference : Option String

/-- `dto?.providerReference?.trim() || gatewayResult.providerReference`. -/
def payoutReference (dto : ProcessPayoutDto) (answer : GatewayResult) : String :=
  (truthy (dto.providerReference.map trim)).getD answer.providerReference

/-- The transaction row of a payout. -/
def payoutRow (payout : Payout) (dto : ProcessPayoutDto) (answer : GatewayResult)
    (now : Time) (id : TransactionId) : PaymentTransaction :=
  let transactionStatus := mapGatewayToTransactionStatus answer.status
  { id := id
    paymentIntentId := payout.paymentIntentId
    type := .payout
    status := transactionStatus
    provider := payout.provider
    providerReference := some (payoutReference dto answer)
    idempotencyKey := payoutIdempotencyKey payout.id
    requestedAmount := payout.amount
    confirmedAmount := if transactionStatus = .succeeded then some payout.amount else none
    currency := payout.currency
    providerPayload := answer.rawPayload
    failureReason := answer.reason
    processedAt := answer.processedAt
    updatedAt := now }

def nextPayoutStatus (status : GatewayOperationStatus) : PayoutStatus :=
  match mapGatewayToTransactionStatus status with
  | .succeeded => .paid
  | .failed => .failed
  | _ => .processing

@[simp]
theorem nextPayoutStatus_eq_paid {status : GatewayOperationStatus} :
    nextPayoutStatus status = .paid ↔ status = .succeeded := by
  cases status <;> simp [nextPayoutStatus, mapGatewayToTransactionStatus]

def payoutEntries (payout : Payout) (transactionId : TransactionId)
    (actorUserId : UserId) : List LedgerEntry :=
  providerTransfer payout.jobId payout.paymentIntentId (some transactionId) .providerPayout
    payout.amount payout.currency .providerAvailable .providerPaidOut
    "Provider payout settled" "Provider payout accounted as paid out" actorUserId

/-- The payout after the gateway has answered; `record` is the row as it was
read. -/
def settledPayout (record : Payout) (actorUserId : UserId)
    (transaction : PaymentTransaction) (status : GatewayOperationStatus)
    (payout : Payout) : Payout :=
  { payout with
    status := nextPayoutStatus status
    approvedByUserId := record.approvedByUserId.or (some actorUserId)
    processedAt := transaction.processedAt
    providerReference := transaction.providerReference
    failureReason := transaction.failureReason }

/-- The transaction that carries a key, if any. -/
def Books.transactionByKey? (books : Books) (idempotencyKey : String) :
    Option PaymentTransaction :=
  books.transactions.findFirst? fun row => row.idempotencyKey = idempotencyKey

theorem Books.transactionByKey?_of_admitted {books : Books} {idempotencyKey : String}
    {provider : PaymentProvider} {providerReference : Option String}
    (admitted : books.admitsTransaction idempotencyKey provider providerReference = true) :
    books.transactionByKey? idempotencyKey = none := by
  rw [Books.transactionByKey?, Table.findFirst?_eq_none_iff]
  intro row member
  have unused := (Books.admitsTransaction_iff.mp admitted row member).1
  simpa using unused

/-- What is written when no transaction carries the payout's key yet. -/
def recordPayout (payoutRecord : Payout) (actorUserId : UserId) (dto : ProcessPayoutDto)
    (answer : GatewayResult) (now : Time) : Service Payout := do
  let transaction ← createTransaction (payoutRow payoutRecord dto answer now)
  .alter fun store =>
    { store with
      payouts := store.payouts.update payoutRecord.id
        (settledPayout payoutRecord actorUserId transaction answer.status) }
  if nextPayoutStatus answer.status = .paid then
    let availableBalance ← .inspect fun store =>
      providerAvailable store.ledger payoutRecord.paymentIntentId
    .require (payoutRecord.amount ≤ availableBalance)
      (.conflict "Payout amount exceeds currently available provider balance")
    appendEntries (payoutEntries payoutRecord transaction.id actorUserId)
    findPayoutOrThrow payoutRecord.id
  else
    findPayoutOrThrow payoutRecord.id

/-- The database transaction of a payout, after the gateway has answered. -/
def settlePayout (payoutId : PayoutId) (actorUserId : UserId) (dto : ProcessPayoutDto)
    (answer : GatewayResult) (now : Time) : Service Payout := do
  let payoutRecord ← .consult
    (payoutGate payoutId .approved "Only approved payouts can be processed")
  let duplicateTransaction ← .inspect fun store =>
    store.transactionByKey? (payoutIdempotencyKey payoutId)
  if duplicateTransaction.isSome then
    findPayoutOrThrow payoutRecord.id
  else
    recordPayout payoutRecord actorUserId dto answer now

def adminProcessPayout (actorUserId : UserId) (payoutId : PayoutId)
    (dto : ProcessPayoutDto) (answer : GatewayResult) (now : Time) : Service Payout := do
  let payout ← .consult
    (payoutGate payoutId .approved "Only approved payouts can be processed")
  let existingTransaction ← .inspect fun store =>
    store.transactionByKey? (payoutIdempotencyKey payout.id)
  if existingTransaction.isSome then
    findPayoutOrThrow payout.id
  else
    .call (.requestPayout (getAdapter payout.provider) (payoutIdempotencyKey payout.id)
      payout.amount payout.currency payout.providerUserId)
    .transaction (settlePayout payout.id actorUserId dto answer now)

end Tchuno.Payments
