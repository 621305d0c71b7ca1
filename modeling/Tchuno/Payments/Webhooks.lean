import Tchuno.Payments.Charges

/-!
# Webhook deliveries

`handleWebhook` with the signature check in front of it.  The environment holds
the secrets and tolerances of the process, and the two library functions whose
code is not part of the repository.
-/

namespace Tchuno.Payments

open Tchuno.Library Tchuno.Library.Ecma

structure PaymentWebhookDto where
  externalEventId : Option String
  providerReference : Option String
  transactionId : Option TransactionId
  status : Option String
  payload : Option Json

/-- The signature and timestamp headers of the request. -/
structure WebhookHeaders where
  signature : Option String
  timestamp : Option String

/-- Process environment of the webhook route. -/
structure WebhookEnvironment where
  /-- `PAYMENT_WEBHOOK_SECRET_<provider>` -/
  providerSecret : PaymentProvider → Option String
  /-- `PAYMENT_WEBHOOK_SECRET` -/
  fallbackSecret : Option String
  toleranceSeconds : EnvNumber
  futureSkewSeconds : EnvNumber
  /-- `createHmac('sha256', secret).update(payload).digest('hex')` -/
  hmacSha256Hex : String → String → String
  /-- `Date.parse`, `none` for `NaN` -/
  parseDate : String → Option Int

namespace WebhookEnvironment

variable (environment : WebhookEnvironment)

def resolveWebhookSecret (provider : PaymentProvider) : Option String :=
  match truthy ((environment.providerSecret provider).map trim) with
  | some secret => some secret
  | none => truthy (environment.fallbackSecret.map trim)

def resolveWebhookToleranceSeconds : Int :=
  match environment.toleranceSeconds with
  | none => 300
  | some parsed => min 3600 (max 30 (mathTrunc parsed))

def resolveWebhookFutureSkewSeconds : Int :=
  match environment.futureSkewSeconds with
  | none => 60
  | some parsed => min 600 (max 0 (mathTrunc parsed))

/-- Ten digits at most are seconds, more are milliseconds; anything else is
left to `Date.parse`. -/
def parseWebhookTimestampMs (timestamp : String) : Option Int :=
  let normalized := trim timestamp
  if normalized ≠ "" ∧ normalized.toList.all Char.isDigit then
    let asNumber : Int := normalized.toNat?.getD 0
    if normalized.length ≤ 10 then some (asNumber * 1000) else some asNumber
  else
    environment.parseDate normalized

def isWebhookTimestampFresh (timestamp : String) (now : Time) : Bool :=
  match environment.parseWebhookTimestampMs timestamp with
  | none => false
  | some parsedMs =>
      let ageMs := now - parsedMs
      ageMs ≤ environment.resolveWebhookToleranceSeconds * 1000 &&
        -(environment.resolveWebhookFutureSkewSeconds * 1000) ≤ ageMs

end WebhookEnvironment

private def orNull (text : Option String) : Json :=
  match text with
  | some content => .string content
  | none => .null

/-- The text that is signed: the transaction identifier is not part of it. -/
def buildWebhookSignaturePayload (provider : PaymentProvider) (dto : PaymentWebhookDto)
    (timestamp : String) : String :=
  let body : Json := .object
    [("provider", .string provider.name),
     ("externalEventId", orNull dto.externalEventId),
     ("providerReference", orNull dto.providerReference),
     ("status", orNull dto.status),
     ("payload", dto.payload.getD (.object []))]
  timestamp ++ "." ++ body.stringify

/-- Remove a leading `sha256=`. -/
def normalizeSignature (provided : String) : String :=
  if provided.toList.take 7 = "sha256=".toList then
    String.ofList (provided.toList.drop 7)
  else
    provided

def verifyWebhookSignature (environment : WebhookEnvironment)
    (provider : PaymentProvider) (dto : PaymentWebhookDto) (headers : WebhookHeaders)
    (now : Time) : Bool :=
  if provider = .internal then
    true
  else
    match environment.resolveWebhookSecret provider,
        truthy (headers.signature.map trim), truthy (headers.timestamp.map trim) with
    | some secret, some provided, some timestamp =>
        environment.isWebhookTimestampFresh timestamp now &&
          normalizeSignature provided ==
            environment.hmacSha256Hex secret
              (buildWebhookSignaturePayload provider dto timestamp)
    | _, _, _ => false

/-- What `handleWebhook` decides before it stores the event. -/
inductive WebhookGate where
  | deduplicated (event : PaymentEvent)
  | accepted (signatureValid : Bool)

def webhookGate (environment : WebhookEnvironment) (provider : PaymentProvider)
    (dto : PaymentWebhookDto) (headers : WebhookHeaders) (now : Time) (store : Store) :
    Except ApiError WebhookGate := do
  let externalEventId := dto.externalEventId.map trim
  let signatureValid := verifyWebhookSignature environment provider dto headers now
  if provider ≠ .internal then
    guardThat ((truthy externalEventId).isSome)
      (.badRequest "externalEventId is required for external payment providers")
    guardThat (signatureValid = true) (.forbidden "Invalid webhook signature")
  let existing :=
    if (truthy externalEventId).isSome then
      store.events.findFirst? fun event =>
        event.provider = provider && event.externalEventId = externalEventId
    else
      none
  match existing with
  | some event => pure (.deduplicated event)
  | none => pure (.accepted signatureValid)

/-- The unique constraint `[provider, externalEventId]`. -/
def Store.admitsEvent (store : Store) (provider : PaymentProvider)
    (externalEventId : Option String) : Bool :=
  externalEventId.isNone ||
    (store.events.findFirst? fun event =>
      event.provider = provider && event.externalEventId = externalEventId).isNone

def webhookEvent (provider : PaymentProvider) (dto : PaymentWebhookDto)
    (signatureValid : Bool) (id : Nat) : PaymentEvent where
  id := id
  provider := provider
  eventType := dto.status.getD "provider.webhook"
  externalEventId := dto.externalEventId.map trim
  providerReference := dto.providerReference
  paymentIntentId := none
  transactionId := none
  payload := dto.payload.getD (.object [])
  signatureValid := signatureValid
  processed := false
  processedAt := none

/-- The transaction a delivery is about: the one it names, else the newest one
of the route's provider with the reference it carries. -/
def Store.webhookTransaction? (store : Store) (provider : PaymentProvider)
    (dto : PaymentWebhookDto) : Option PaymentTransaction :=
  match dto.transactionId.bind store.transactions.find? with
  | some transaction => some transaction
  | none =>
      match truthy dto.providerReference with
      | some reference =>
          store.transactions.findFirst? fun transaction =>
            transaction.provider = provider &&
              transaction.providerReference = some reference
      | none => none

inductive WebhookReply where
  | deduplicated (eventId : Nat)
  | unprocessed (eventId : Nat)
  | processed (eventId : Nat) (transactionId : TransactionId)

/-- `paymentEvent.update` after the delivery was handled. -/
def closeEvent (eventId : Nat) (processed : Bool)
    (transaction : Option PaymentTransaction) (now : Time) : Service Unit :=
  .alter fun store =>
    { store with
      events := store.events.update eventId fun event =>
        { event with
          processed := processed
          processedAt := some now
          transactionId := (transaction.map PaymentTransaction.id).or event.transactionId
          paymentIntentId :=
            (transaction.bind PaymentTransaction.paymentIntentId).or
              event.paymentIntentId } }

/-- The database transaction of a delivery. -/
def applyWebhook (transactionId : TransactionId) (dto : PaymentWebhookDto)
    (status : String) (now : Time) : Service PaymentTransaction := do
  let transactionRecord ← .consult fun store =>
    orThrow (store.transactions.find? transactionId)
      (.notFound "Payment transaction not found")
  applyGatewayStatus transactionRecord (parseGatewayStatus status) dto.payload none now

def handleWebhook (environment : WebhookEnvironment) (provider : PaymentProvider)
    (dto : PaymentWebhookDto) (headers : WebhookHeaders) (now : Time) :
    Service WebhookReply := do
  let gate ← .consult (webhookGate environment provider dto headers now)
  match gate with
  | .deduplicated event => pure (.deduplicated event.id)
  | .accepted signatureValid =>
      let admitted ← .inspect fun store =>
        store.admitsEvent provider (dto.externalEventId.map trim)
      .require (admitted = true) (.database "P2002")
      let eventId ← .inspect fun store => store.events.nextId
      .alter fun store =>
        { store with
          events := store.events.insert (webhookEvent provider dto signatureValid) }
      let transaction ← .inspect fun store => store.webhookTransaction? provider dto
      match transaction, truthy dto.status with
      | some transaction, some status =>
          let updated ← .transaction (applyWebhook transaction.id dto status now)
          closeEvent eventId true (some updated) now
          pure (.processed eventId updated.id)
      | _, _ =>
          closeEvent eventId false transaction now
          pure (.unprocessed eventId)

end Tchuno.Payments
