import Tchuno.Payments.Gateway
import Tchuno.Payments.Ledger
import Tchuno.Payments.Policy

/-!
# Intents, charges, webhooks and reconciliation

`createIntent`, `payIntent`, `handleWebhook` and `reconcileTransaction` of the
payments service, with `applyGatewayStatus`, which all three of the last share.
The checks a function makes before its first write are a function of the store
of their own, so that later statements can name them.
-/

namespace Tchuno.Payments

open Tchuno.Library Tchuno.Library.Ecma

/-! ## Intents -/

/-- An intent together with `include: { transactions }`. -/
structure IntentWithTransactions where
  intent : PaymentIntent
  transactions : List PaymentTransaction

def Store.withTransactions (store : Store) (intent : PaymentIntent) :
    IntentWithTransactions where
  intent := intent
  transactions := store.transactions.findMany fun transaction =>
    transaction.paymentIntentId = some intent.id

/-- `paymentIntent.findUniqueOrThrow` with its transactions. -/
def findIntentOrThrow (intentId : IntentId) : Service IntentWithTransactions :=
  .consult fun store =>
    (orThrow (store.intents.find? intentId) (.database "P2025")).map
      store.withTransactions

structure CreatePaymentIntentDto where
  jobId : JobId
  provider : Option PaymentProvider

def resolveChargeAmount (job : Job) : Except ApiError Int :=
  match job.agreedPrice.filter (0 < ·), job.budget.filter (0 < ·) with
  | some price, _ => .ok price
  | none, some budget => .ok budget
  | none, none =>
      .error (.conflict
        "Jobs created from selected proposals must keep agreedPrice snapshot before payment intent creation")

/-- What `createIntent` decides before it writes. -/
inductive CreateIntentGate where
  | existing (intent : PaymentIntent)
  | create (job : Job) (chargeAmount : Int) (providerUserId : UserId)

def createIntentGate (actorUserId : UserId) (dto : CreatePaymentIntentDto)
    (store : Store) : Except ApiError CreateIntentGate := do
  let job ← orThrow (store.jobs.find? dto.jobId) (.notFound "Job not found")
  guardThat (job.clientId = actorUserId)
    (.forbidden "Only the job client can create payment intent")
  guardThat (job.requestId.isSome ∧ job.proposalId.isSome)
    (.conflict "Legacy direct jobs are not eligible. Payment intents are only supported for jobs created from selected proposals.")
  let chargeAmount ← resolveChargeAmount job
  let existingIntent := store.intents.findFirst? fun intent =>
    intent.jobId = job.id &&
      [.awaitingPayment, .pendingConfirmation, .paidPartial, .succeeded].contains
        intent.status
  match existingIntent with
  | some intent => pure (.existing intent)
  | none =>
      -- the foreign key on `workerProfileId` makes this lookup succeed
      let workerProfile ← orThrow (store.market.workerProfiles.find? job.workerProfileId)
        (.database "P2025")
      pure (.create job chargeAmount (job.providerId.getD workerProfile.userId))

/-- The row `createIntent` writes. -/
def requestedIntent (split : FeeSplit) (actorUserId : UserId)
    (dto : CreatePaymentIntentDto) (now : Time) (job : Job) (providerUserId : UserId)
    (id : IntentId) : PaymentIntent where
  id := id
  jobId := job.id
  customerId := actorUserId
  providerUserId := some providerUserId
  amount := split.grossAmount
  currency := "MZN"
  platformFeeAmount := split.platformFeeAmount
  providerNetAmount := split.providerNetAmount
  status := .awaitingPayment
  provider := dto.provider.getD .internal
  expiresAt := some (buildIntentExpiryDate now)
  acceptedQuoteSnapshot := job.agreedPrice
  metadata := some (.object
    [("pricingMode", .string job.pricingMode.name),
     ("flow", .string "service_request")])

def createIntent (policy : PaymentPolicy) (actorUserId : UserId)
    (dto : CreatePaymentIntentDto) (now : Time) : Service IntentWithTransactions := do
  let gate ← .consult (createIntentGate actorUserId dto)
  match gate with
  | .existing intent => .inspect fun store => store.withTransactions intent
  | .create job chargeAmount providerUserId =>
      let make := requestedIntent (policy.computeSplit chargeAmount) actorUserId dto now job
        providerUserId
      let intent ← .inspect fun store => make store.intents.nextId
      .alter fun store => { store with intents := store.intents.insert make }
      pure ⟨intent, []⟩

/-! ## Applying a status reported by the gateway -/

/-- The entry group of a confirmed charge. -/
def chargeEntries (intent : PaymentIntent) (transactionId : TransactionId) :
    List LedgerEntry :=
  [{ jobId := some intent.jobId
     paymentIntentId := some intent.id
     transactionId := some transactionId
     actorType := .customer
     entryType := .customerCharge
     amount := intent.amount
     currency := "MZN"
     direction := .debit
     balanceBucket := .customerExternal
     description := "Customer charge confirmed"
     createdByUserId := none },
   { jobId := some intent.jobId
     paymentIntentId := some intent.id
     transactionId := some transactionId
     actorType := .platform
     entryType := .platformFeeReserved
     amount := intent.platformFeeAmount
     currency := "MZN"
     direction := .credit
     balanceBucket := .platformReserved
     description := "Platform fee reserved from customer charge"
     createdByUserId := none },
   { jobId := some intent.jobId
     paymentIntentId := some intent.id
     transactionId := some transactionId
     actorType := .provider
     entryType := .providerBalanceHeld
     amount := intent.providerNetAmount
     currency := "MZN"
     direction := .credit
     balanceBucket := .providerHeld
     description := "Provider net amount moved to held balance"
     createdByUserId := none }]

/-- `ledgerEntry.findFirst({ transactionId, entryType: 'CUSTOMER_CHARGE' })`. -/
def hasCustomerCharge (ledger : List LedgerEntry) (transactionId : TransactionId) : Bool :=
  ledger.any fun entry =>
    entry.transactionId = some transactionId && entry.entryType = .customerCharge

def ensureChargeLedgerEntries (intent : PaymentIntent) (transactionId : TransactionId) :
    Service Unit := do
  let existing ← .inspect fun store => hasCustomerCharge store.ledger transactionId
  if existing then
    pure ()
  else
    appendEntries (chargeEntries intent transactionId)

/-- The row `applyGatewayStatus` writes; `snapshot` is the transaction as the
caller read it, `row` the stored one. -/
def settledRow (snapshot : PaymentTransaction) (status : GatewayOperationStatus)
    (rawPayload : Option Json) (reason : Option String) (now : Time)
    (row : PaymentTransaction) : PaymentTransaction :=
  { row with
    status := mapGatewayToTransactionStatus status
    confirmedAmount :=
      if mapGatewayToTransactionStatus status = .succeeded then
        some snapshot.requestedAmount
      else
        snapshot.confirmedAmount
    providerPayload := rawPayload.or row.providerPayload
    failureReason :=
      if mapGatewayToTransactionStatus status = .failed then
        some (reason.getD "provider_reported_failure")
      else
        none
    processedAt := some now
    updatedAt := now }

@[simp]
theorem settledRow_id (snapshot : PaymentTransaction) (status : GatewayOperationStatus)
    (rawPayload : Option Json) (reason : Option String) (now : Time)
    (row : PaymentTransaction) :
    (settledRow snapshot status rawPayload reason now row).id = row.id := rfl

@[simp]
theorem settledRow_paymentIntentId (snapshot : PaymentTransaction)
    (status : GatewayOperationStatus) (rawPayload : Option Json) (reason : Option String)
    (now : Time) (row : PaymentTransaction) :
    (settledRow snapshot status rawPayload reason now row).paymentIntentId =
      row.paymentIntentId := rfl

/-- A confirmed payment unlocks the contact data of the job. -/
def unlockedJob (now : Time) (job : Job) : Job :=
  { job with contactUnlockedAt := some now }

theorem unlockedJob_key (now : Time) (job : Job) :
    Keyed.key (unlockedJob now job) = Keyed.key job :=
  rfl

/-- The intent's part of `applyGatewayStatus`. -/
def applyToIntent (intentId : IntentId) (transactionId : TransactionId)
    (status : GatewayOperationStatus) (now : Time) : Service Unit := do
  let intent ← .consult fun store =>
    orThrow (store.intents.find? intentId) (.notFound "Payment intent not found")
  let nextIntentStatus := mapGatewayToIntentStatus status intent.metadata
  .alter fun store =>
    if intent.status = nextIntentStatus then
      store
    else
      { store with
        intents := store.intents.update intent.id fun row =>
          { row with status := nextIntentStatus } }
  if mapGatewayToTransactionStatus status = .succeeded then
    ensureChargeLedgerEntries intent transactionId
    let _ ← .consult fun store => orThrow (store.jobs.find? intent.jobId) (.database "P2025")
    .alter fun store =>
      { store with
        jobs := store.jobs.update intent.jobId (unlockedJob now) }
  else
    pure ()

/-- `applyGatewayStatus`, inside the caller's database transaction.  All four
statuses `mapGatewayToIntentStatus` returns are in its list of accepted ones. -/
def applyGatewayStatus (transaction : PaymentTransaction)
    (status : GatewayOperationStatus) (rawPayload : Option Json)
    (reason : Option String) (now : Time) : Service PaymentTransaction := do
  let row ← .consult fun store =>
    orThrow (store.transactions.find? transaction.id) (.database "P2025")
  let updated := settledRow transaction status rawPayload reason now row
  .alter fun store =>
    { store with
      transactions := store.transactions.update transaction.id
        (settledRow transaction status rawPayload reason now) }
  match updated.paymentIntentId with
  | none => pure updated
  | some intentId =>
      applyToIntent intentId updated.id status now
      pure updated

/-! ## Paying an intent -/

structure PayPaymentIntentDto where
  idempotencyKey : Option String

/-- `dto?.idempotencyKey?.trim() || charge-…`. -/
def resolveIdempotencyKey (dto : PayPaymentIntentDto) (intentId : IntentId)
    (now : Time) : String :=
  (truthy (dto.idempotencyKey.map trim)).getD (chargeIdempotencyKey intentId now)

inductive PayIntentGate where
  | alreadyPaid (intent : PaymentIntent)
  | replay (intent : PaymentIntent)
  | charge (intent : PaymentIntent) (idempotencyKey : String)

def payIntentGate (intentId : IntentId) (actorUserId : UserId)
    (dto : PayPaymentIntentDto) (now : Time) (store : Store) :
    Except ApiError PayIntentGate := do
  let intent ← orThrow (store.intents.find? intentId)
    (.notFound "Payment intent not found")
  guardThat (intent.customerId = actorUserId)
    (.forbidden "Only the customer can pay this intent")
  if intent.status = .paidPartial ∨ intent.status = .succeeded then
    pure (.alreadyPaid intent)
  else
    guardThat
      (intent.status = .awaitingPayment ∨ intent.status = .pendingConfirmation ∨
        intent.status = .failed)
      (.conflict "Payment intent is not payable in current state")
    let idempotencyKey := resolveIdempotencyKey dto intent.id now
    let existingTransaction :=
      if (truthy dto.idempotencyKey).isSome then
        store.transactions.findFirst? fun row => row.idempotencyKey = idempotencyKey
      else
        none
    if existingTransaction.bind PaymentTransaction.paymentIntentId = some intent.id then
      pure (.replay intent)
    else
      pure (.charge intent idempotencyKey)

/-- The transaction row of one attempt to pay. -/
def chargeRow (intent : PaymentIntent) (idempotencyKey : String)
    (answer : GatewayResult) (now : Time) (id : TransactionId) : PaymentTransaction :=
  let transactionStatus := mapGatewayToTransactionStatus answer.status
  { id := id
    paymentIntentId := some intent.id
    type := .charge
    status := transactionStatus
    provider := intent.provider
    providerReference := some answer.providerReference
    idempotencyKey := idempotencyKey
    requestedAmount := intent.amount
    confirmedAmount := if transactionStatus = .succeeded then some intent.amount else none
    currency := intent.currency
    providerPayload := answer.rawPayload
    failureReason := answer.reason
    processedAt := answer.processedAt
    updatedAt := now }

def recordCharge (intent : PaymentIntent) (idempotencyKey : String)
    (answer : GatewayResult) (now : Time) : Service PaymentTransaction := do
  let transaction ← createTransaction (chargeRow intent idempotencyKey answer now)
  applyGatewayStatus transaction answer.status answer.rawPayload answer.reason now

def payIntent (intentId : IntentId) (actorUserId : UserId) (dto : PayPaymentIntentDto)
    (answer : GatewayResult) (now : Time) : Service IntentWithTransactions := do
  let gate ← .consult (payIntentGate intentId actorUserId dto now)
  match gate with
  | .alreadyPaid intent => .inspect fun store => store.withTransactions intent
  | .replay intent => findIntentOrThrow intent.id
  | .charge intent idempotencyKey =>
      .call (.requestCharge (getAdapter intent.provider) idempotencyKey intent.amount
        intent.currency intent.customerId intent.jobId)
      let _ ← .transaction (recordCharge intent idempotencyKey answer now)
      findIntentOrThrow intent.id

/-! ## Reconciliation -/

def reconcileTransaction (transactionId : TransactionId) (answer : GatewayResult)
    (now : Time) : Service PaymentTransaction := do
  let transaction ← .consult fun store =>
    orThrow (store.transactions.find? transactionId)
      (.notFound "Payment transaction not found")
  .call (.queryTransactionStatus (getAdapter transaction.provider)
    (transaction.providerReference.getD (renderId transaction.id)))
  .transaction
    (applyGatewayStatus transaction answer.status answer.rawPayload answer.reason now)

end Tchuno.Payments
