import Tchuno.Payments.Database
import Tchuno.Payments.Webhooks

/-!
# Charges, webhooks and reconciliations of concurrent clients

`payIntent`, `handleWebhook` and `reconcileTransaction`, cut into their statements.
The answer of the gateway is an input of the call which asks for it.
-/

namespace Tchuno.Payments

open Tchuno.Library Tchuno.Library.Ecma

namespace Procedure

/-! ## Applying a status reported by the gateway -/

def ensureChargeLedgerEntries (intent : PaymentIntent) (transactionId : TransactionId) :
    Procedure Unit := do
  let existing ← .select (.chargeOf transactionId) fun database =>
    hasCustomerCharge database.ledger transactionId
  if existing then
    pure ()
  else
    appendEntries (chargeEntries intent transactionId)

/-- The update of the transaction row, which the history records. -/
def settleTransaction (event : Option (PaymentProvider × String))
    (transaction : PaymentTransaction) (status : GatewayOperationStatus)
    (rawPayload : Option Json) (reason : Option String) (now : Time) :
    Procedure PaymentTransaction :=
  update (.transaction transaction.id)
    (fun database => database.transactions.find? transaction.id)
    (settledRow transaction status rawPayload reason now) fun database =>
      { database with
        transactions := database.transactions.update transaction.id
          (settledRow transaction status rawPayload reason now)
          (settledRow_id transaction status rawPayload reason now)
        applied := ⟨event, transaction.id, status⟩ :: database.applied }

def updateIntentStatus (intent : PaymentIntent) (nextIntentStatus : PaymentIntentStatus) :
    Procedure Unit :=
  if intent.status = nextIntentStatus then
    pure ()
  else do
    let _ ← updateIntent intent.id fun row => { row with status := nextIntentStatus }
    pure ()

def unlockContact (intent : PaymentIntent) (transactionId : TransactionId) (now : Time) :
    Procedure Unit := do
  ensureChargeLedgerEntries intent transactionId
  let _ ← updateJob intent.jobId (unlockedJob now) (unlockedJob_key now)
  pure ()

/-- The intent's part of `applyGatewayStatus`. -/
def applyToIntent (intentId : IntentId) (transactionId : TransactionId)
    (status : GatewayOperationStatus) (now : Time) : Procedure Unit := do
  let intent ← .consult (.intent intentId) fun database =>
    orThrow (database.intents.find? intentId) (.notFound "Payment intent not found")
  updateIntentStatus intent (mapGatewayToIntentStatus status intent.metadata)
  if mapGatewayToTransactionStatus status = .succeeded then
    unlockContact intent transactionId now
  else
    pure ()

/-- `applyGatewayStatus`, inside the caller's database transaction; `event` is the
webhook event that reports the status, if one does. -/
def applyGatewayStatus (event : Option (PaymentProvider × String))
    (transaction : PaymentTransaction) (status : GatewayOperationStatus)
    (rawPayload : Option Json) (reason : Option String) (now : Time) :
    Procedure PaymentTransaction := do
  let updated ← settleTransaction event transaction status rawPayload reason now
  match updated.paymentIntentId with
  | none => pure updated
  | some intentId => do
      applyToIntent intentId updated.id status now
      pure updated

/-! ## Paying an intent -/

/-- `paymentIntent.findUniqueOrThrow` with its transactions. -/
def findIntentOrThrow (intentId : IntentId) : Procedure IntentWithTransactions :=
  .consult (.intent intentId) fun database =>
    (orThrow (database.intents.find? intentId) (.database "P2025")).map
      database.withTransactions

def recordCharge (intent : PaymentIntent) (idempotencyKey : String)
    (answer : GatewayResult) (transactionId : TransactionId) (now : Time) :
    Procedure PaymentTransaction := do
  let transaction := chargeRow intent idempotencyKey answer now transactionId
  createTransaction transaction
  applyGatewayStatus none transaction answer.status answer.rawPayload answer.reason now

/-- The transaction which carries the key the client has sent, if it has sent one. -/
def existingTransaction? (dto : PayPaymentIntentDto) (idempotencyKey : String) :
    Procedure (Option PaymentTransaction) :=
  if (truthy dto.idempotencyKey).isSome then
    .select (.transactionKey idempotencyKey) fun database =>
      database.transactions.findFirst? fun row => row.idempotencyKey = idempotencyKey
  else
    pure none

/-- The charge, unless a transaction of the intent carries the client's key. -/
def chargeIntent (intent : PaymentIntent) (dto : PayPaymentIntentDto)
    (answer : GatewayResult) (transactionId : TransactionId) (now : Time) :
    Procedure IntentWithTransactions := do
  let idempotencyKey := resolveIdempotencyKey dto intent.id now
  let existingTransaction ← existingTransaction? dto idempotencyKey
  if existingTransaction.bind PaymentTransaction.paymentIntentId = some intent.id then
    findIntentOrThrow intent.id
  else do
    let _ ← .transaction (recordCharge intent idempotencyKey answer transactionId now)
    findIntentOrThrow intent.id

def payIntent (intentId : IntentId) (actorUserId : UserId) (dto : PayPaymentIntentDto)
    (answer : GatewayResult) (transactionId : TransactionId) (now : Time) :
    Procedure IntentWithTransactions := do
  let found ← .consult (.intent intentId) fun database =>
    (orThrow (database.intents.find? intentId) (.notFound "Payment intent not found")).map
      database.withTransactions
  .require (found.intent.customerId = actorUserId)
    (.forbidden "Only the customer can pay this intent")
  if found.intent.status = .paidPartial ∨ found.intent.status = .succeeded then
    pure found
  else do
    .require
      (found.intent.status = .awaitingPayment ∨ found.intent.status = .pendingConfirmation ∨
        found.intent.status = .failed)
      (.conflict "Payment intent is not payable in current state")
    chargeIntent found.intent dto answer transactionId now

/-! ## Deliveries -/

/-- The unique keys of an event: the provider's identifier counts only if there is
one. -/
def eventKeys (event : PaymentEvent) : List Target :=
  .event event.id ::
    (event.externalEventId.map fun externalEventId =>
      Target.eventKey event.provider (some externalEventId)).toList

/-- `paymentEvent.create`. -/
def createEvent (event : PaymentEvent) : Procedure Unit :=
  .transaction (create (eventKeys event) (.event event.id)
    (fun database => (database.events.find? event.id).isNone &&
      database.admitsEvent event.provider event.externalEventId)
    fun database => { database with events := database.events.place event })

/-- The lookup by the transaction the delivery names. -/
def namedTransaction (dto : PaymentWebhookDto) : Procedure (Option PaymentTransaction) :=
  match dto.transactionId with
  | some transactionId => .select (.transaction transactionId) fun database =>
      database.transactions.find? transactionId
  | none => pure none

/-- The lookup by the transaction the delivery names, then by its reference. -/
def webhookTransaction (provider : PaymentProvider) (dto : PaymentWebhookDto) :
    Procedure (Option PaymentTransaction) := do
  let named ← namedTransaction dto
  match named, truthy dto.providerReference with
  | some transaction, _ => pure (some transaction)
  | none, some reference =>
      .select (.transactionReference provider reference) fun database =>
        database.transactions.findFirst? fun transaction =>
          transaction.provider = provider && transaction.providerReference = some reference
  | none, none => pure none

/-- The event after the delivery was handled. -/
def closedEvent (processed : Bool) (transaction : Option PaymentTransaction) (now : Time)
    (event : PaymentEvent) : PaymentEvent :=
  { event with
    processed := processed
    processedAt := some now
    transactionId := (transaction.map PaymentTransaction.id).or event.transactionId
    paymentIntentId :=
      (transaction.bind PaymentTransaction.paymentIntentId).or event.paymentIntentId }

def closeEvent (eventId : Nat) (processed : Bool)
    (transaction : Option PaymentTransaction) (now : Time) : Procedure PaymentEvent :=
  .transaction (updateEvent eventId (closedEvent processed transaction now))

/-- The event which a delivery reports. -/
def deliveredEvent (provider : PaymentProvider) (dto : PaymentWebhookDto) :
    Option (PaymentProvider × String) :=
  (dto.externalEventId.map trim).map fun externalEventId => (provider, externalEventId)

/-- The database transaction of a delivery. -/
def applyWebhook (provider : PaymentProvider) (dto : PaymentWebhookDto)
    (transactionId : TransactionId) (status : String) (now : Time) :
    Procedure PaymentTransaction := do
  let transactionRecord ← .consult (.transaction transactionId) fun database =>
    orThrow (database.transactions.find? transactionId)
      (.notFound "Payment transaction not found")
  applyGatewayStatus (deliveredEvent provider dto) transactionRecord
    (parseGatewayStatus status) dto.payload none now

/-- What follows once the event is stored. -/
def handleEvent (provider : PaymentProvider) (dto : PaymentWebhookDto) (eventId : Nat)
    (now : Time) : Procedure WebhookReply := do
  let transaction ← webhookTransaction provider dto
  match transaction, truthy dto.status with
  | some transaction, some status => do
      let updated ← .transaction (applyWebhook provider dto transaction.id status now)
      let _ ← closeEvent eventId true (some updated) now
      pure (.processed eventId updated.id)
  | _, _ => do
      let _ ← closeEvent eventId false transaction now
      pure (.unprocessed eventId)

def handleWebhook (environment : WebhookEnvironment) (provider : PaymentProvider)
    (dto : PaymentWebhookDto) (headers : WebhookHeaders) (eventId : Nat) (now : Time) :
    Procedure WebhookReply := do
  let gate ← .consult (.eventKey provider (dto.externalEventId.map trim)) fun database =>
    webhookGate environment provider dto headers now database.toStore
  match gate with
  | .deduplicated event => pure (.deduplicated event.id)
  | .accepted signatureValid => do
      createEvent (webhookEvent provider dto signatureValid eventId)
      handleEvent provider dto eventId now

/-! ## Reconciliation -/

def reconcileTransaction (transactionId : TransactionId) (answer : GatewayResult)
    (now : Time) : Procedure PaymentTransaction := do
  let transaction ← .consult (.transaction transactionId) fun database =>
    orThrow (database.transactions.find? transactionId)
      (.notFound "Payment transaction not found")
  .transaction
    (applyGatewayStatus none transaction answer.status answer.rawPayload answer.reason now)

end Procedure

/-! ## Calls -/

/-- A call of one of the three operations with all its inputs. -/
inductive ChargeCall where
  | payIntent (intentId : IntentId) (actorUserId : UserId) (dto : PayPaymentIntentDto)
      (answer : GatewayResult) (transactionId : TransactionId) (now : Time)
  | handleWebhook (environment : WebhookEnvironment) (provider : PaymentProvider)
      (dto : PaymentWebhookDto) (headers : WebhookHeaders) (eventId : Nat) (now : Time)
  | reconcileTransaction (transactionId : TransactionId) (answer : GatewayResult)
      (now : Time)

/-- What a call may return. -/
inductive ChargeReply where
  | intent (reply : IntentWithTransactions)
  | webhook (reply : WebhookReply)
  | transaction (reply : PaymentTransaction)

def ChargeCall.procedure : ChargeCall → Procedure ChargeReply
  | .payIntent intentId actorUserId dto answer transactionId now => do
      let reply ← Procedure.payIntent intentId actorUserId dto answer transactionId now
      pure (.intent reply)
  | .handleWebhook environment provider dto headers eventId now => do
      let reply ← Procedure.handleWebhook environment provider dto headers eventId now
      pure (.webhook reply)
  | .reconcileTransaction transactionId answer now => do
      let reply ← Procedure.reconcileTransaction transactionId answer now
      pure (.transaction reply)

end Tchuno.Payments
