import Tchuno.Payments.LiveCharges
import Tchuno.Payments.StatusReports

/-!
# What the signature of a delivery covers

The signed text holds every field of a delivery but the transaction identifier,
and the transaction identifier is looked up first.
-/

namespace Tchuno.Payments

open Tchuno.Library Tchuno.Library.Ecma

/-- Two deliveries agree on every signed field. -/
structure SameSigned (first second : PaymentWebhookDto) : Prop where
  externalEventId : first.externalEventId = second.externalEventId
  providerReference : first.providerReference = second.providerReference
  status : first.status = second.status
  payload : first.payload.getD (.object []) = second.payload.getD (.object [])

/-- One signature fits both. -/
theorem SameSigned.signature_eq {first second : PaymentWebhookDto}
    (signed : SameSigned first second) (provider : PaymentProvider) (timestamp : String) :
    buildWebhookSignaturePayload provider first timestamp =
      buildWebhookSignaturePayload provider second timestamp := by
  unfold buildWebhookSignaturePayload
  rw [signed.externalEventId, signed.providerReference, signed.status, signed.payload]

/-- The delivery passes the checks and is not known yet. -/
def WebhookAccepted (environment : WebhookEnvironment) (provider : PaymentProvider)
    (dto : PaymentWebhookDto) (headers : WebhookHeaders) (now : Time) (store : Store) : Prop :=
  match webhookGate environment provider dto headers now store with
  | .ok (.accepted _) => True
  | _ => False

instance (environment : WebhookEnvironment) (provider : PaymentProvider)
    (dto : PaymentWebhookDto) (headers : WebhookHeaders) (now : Time) (store : Store) :
    Decidable (WebhookAccepted environment provider dto headers now store) := by
  unfold WebhookAccepted
  split <;> infer_instance

/-- Acceptance depends on the signed fields only. -/
theorem SameSigned.accepted_iff {first second : PaymentWebhookDto}
    (signed : SameSigned first second) {environment : WebhookEnvironment}
    {provider : PaymentProvider} {headers : WebhookHeaders} {now : Time} {store : Store} :
    WebhookAccepted environment provider first headers now store ↔
      WebhookAccepted environment provider second headers now store := by
  have sameSignature : verifyWebhookSignature environment provider first headers now =
      verifyWebhookSignature environment provider second headers now := by
    simp only [verifyWebhookSignature, signed.signature_eq]
  have sameGate : webhookGate environment provider first headers now store =
      webhookGate environment provider second headers now store := by
    unfold webhookGate
    rw [sameSignature, signed.externalEventId]
  unfold WebhookAccepted
  rw [sameGate]

/-- The transaction an accepted delivery was stored for, with the status it is left
in. -/
def webhookEffect (before after : Store) : Option (TransactionId × TransactionStatus) :=
  (after.events.find? before.events.nextId).bind fun event =>
    event.transactionId.bind fun transactionId =>
      (after.transactions.find? transactionId).map fun transaction =>
        (transaction.id, transaction.status)

/-- The status in which a delivery leaves its transaction. -/
def PaymentWebhookDto.leaves (dto : PaymentWebhookDto) (transaction : PaymentTransaction) :
    TransactionStatus :=
  match truthy dto.status with
  | some status => mapGatewayToTransactionStatus (parseGatewayStatus status)
  | none => transaction.status

/-- An event identifier which is not known yet can be stored. -/
theorem webhookGate_admitsEvent {environment : WebhookEnvironment}
    {provider : PaymentProvider} {dto : PaymentWebhookDto} {headers : WebhookHeaders}
    {now : Time} {store : Store} (external : provider ≠ .internal) {signatureValid : Bool}
    (passed : webhookGate environment provider dto headers now store =
      .ok (.accepted signatureValid)) :
    store.admitsEvent provider (dto.externalEventId.map trim) = true := by
  simp only [webhookGate, if_pos external, gate_bind_eq_ok, guardThat_eq_ok] at passed
  obtain ⟨_, identified, _, _, decided⟩ := passed
  rw [if_pos identified] at decided
  split at decided
  · simp at decided
  · rename_i unknown
    rw [Store.admitsEvent, unknown]
    simp

/-- Closing the new event records the transaction it was about. -/
theorem webhookEffect_closeEvent {before middle : Store} {event : Nat → PaymentEvent}
    (keyed : ∀ id, Keyed.key (event id) = id)
    (stored : middle.events = before.events.insert event keyed)
    (unlinked : (event before.events.nextId).transactionId = none) (processed : Bool)
    (transaction : Option PaymentTransaction) (now : Time) :
    webhookEffect before
        (closeEvent before.events.nextId processed transaction now middle).state =
      transaction.bind fun transaction =>
        (middle.transactions.find? transaction.id).map fun row => (row.id, row.status) := by
  simp only [webhookEffect, closeEvent, Action.alter_apply, stored, Table.find?_update,
    Table.find?_insert_nextId, if_true, Option.map_some, Option.bind_some, unlinked,
    Option.or_none]
  cases transaction <;> rfl

theorem webhookEffect_eq {store : Store} (foreignKeys : store.ForeignKeys)
    {environment : WebhookEnvironment} {provider : PaymentProvider}
    (external : provider ≠ .internal) {dto : PaymentWebhookDto} {headers : WebhookHeaders}
    {now : Time} (accepted : WebhookAccepted environment provider dto headers now store) :
    webhookEffect store (handleWebhook environment provider dto headers now store).state =
      (store.webhookTransaction? provider dto).map fun transaction =>
        (transaction.id, dto.leaves transaction) := by
  unfold WebhookAccepted at accepted
  split at accepted
  swap
  · exact accepted.elim
  rename_i signatureValid gate
  have admitted := webhookGate_admitsEvent external gate
  unfold handleWebhook
  rw [Action.consult_bind_apply, gate]
  simp only [Action.inspect_bind_apply, Action.require_bind_apply, admitted, if_true,
    Action.alter_bind_apply]
  have sameTarget : Store.webhookTransaction?
      { store with
        events := store.events.insert (webhookEvent provider dto signatureValid) }
      provider dto = store.webhookTransaction? provider dto := rfl
  rw [sameTarget]
  rcases target : store.webhookTransaction? provider dto with _ | transaction
  · exact webhookEffect_closeEvent (fun _ => rfl) rfl rfl false none now
  have stored := webhookTransaction?_stored target
  rcases reported : truthy dto.status with _ | status
  · refine (webhookEffect_closeEvent (fun _ => rfl) rfl rfl false (some transaction) now).trans ?_
    simp [stored, PaymentWebhookDto.leaves, reported]
  · have applied := @applyWebhook_apply
      { store with
        events := store.events.insert (webhookEvent provider dto signatureValid) }
      foreignKeys transaction stored dto status now
    have leaves : dto.leaves transaction =
        mapGatewayToTransactionStatus (parseGatewayStatus status) := by
      rw [PaymentWebhookDto.leaves, reported]
    dsimp only
    rw [Action.bind_of_ok (Action.transaction_of_ok applied), Option.map_some, leaves]
    -- the reported status stays a variable: computing it from the text is costly
    generalize parseGatewayStatus status = parsed
    have settled := @Report.find?_transactions store.toBooks
      ⟨transaction, parsed, dto.payload, none, now⟩ stored
    refine (webhookEffect_closeEvent (fun _ => rfl) rfl rfl true _ now).trans ?_
    exact congrArg (Option.map fun row => (row.id, row.status)) settled

/-! ## Two deliveries under one signature -/

/-- The stored transaction the unsigned identifier names. -/
def Store.namedTransaction? (store : Store) (dto : PaymentWebhookDto) :
    Option PaymentTransaction :=
  dto.transactionId.bind store.transactions.find?

/-- The newest transaction of the provider with the signed reference. -/
def Store.referencedTransaction? (store : Store) (provider : PaymentProvider)
    (dto : PaymentWebhookDto) : Option PaymentTransaction :=
  (truthy dto.providerReference).bind fun reference =>
    store.transactions.findFirst? fun transaction =>
      transaction.provider = provider && transaction.providerReference = some reference

/-- The unsigned identifiers name the same transaction, or one of them names none
and the other the one the signed reference finds anyway. -/
def SameNaming (store : Store) (provider : PaymentProvider)
    (first second : PaymentWebhookDto) : Prop :=
  let named (dto : PaymentWebhookDto) :=
    (store.namedTransaction? dto).map PaymentTransaction.id
  let referenced := (store.referencedTransaction? provider first).map PaymentTransaction.id
  named first = named second ∨ (named first = none ∧ named second = referenced) ∨
    (named second = none ∧ named first = referenced)

theorem webhookTransaction?_eq_or (store : Store) (provider : PaymentProvider)
    (dto : PaymentWebhookDto) :
    store.webhookTransaction? provider dto =
      (store.namedTransaction? dto).or (store.referencedTransaction? provider dto) := by
  unfold Store.webhookTransaction? Store.namedTransaction? Store.referencedTransaction?
  cases dto.transactionId.bind store.transactions.find? with
  | some transaction =>
      rfl
  | none =>
      cases truthy dto.providerReference <;> rfl

/-- Two accepted deliveries under one signature have the same effect exactly when
their unsigned identifiers name the same transaction. -/
theorem signed_effect_iff {store : Store} (foreignKeys : store.ForeignKeys)
    (environment : WebhookEnvironment) {provider : PaymentProvider}
    (external : provider ≠ .internal) {first second : PaymentWebhookDto}
    (signed : SameSigned first second) (headers : WebhookHeaders) {firstNow secondNow : Time}
    (firstAccepted : WebhookAccepted environment provider first headers firstNow store)
    (secondAccepted : WebhookAccepted environment provider second headers secondNow store) :
    webhookEffect store
          (handleWebhook environment provider first headers firstNow store).state =
        webhookEffect store
          (handleWebhook environment provider second headers secondNow store).state ↔
      SameNaming store provider first second := by
  rw [webhookEffect_eq foreignKeys external firstAccepted,
    webhookEffect_eq foreignKeys external secondAccepted]
  have sameReference : store.referencedTransaction? provider second =
      store.referencedTransaction? provider first := by
    unfold Store.referencedTransaction?
    rw [signed.providerReference]
  have sameStatus : second.leaves = first.leaves := by
    funext transaction
    unfold PaymentWebhookDto.leaves
    rw [signed.status]
  have member : ∀ {dto : PaymentWebhookDto} {transaction : PaymentTransaction},
      store.webhookTransaction? provider dto = some transaction →
        transaction ∈ store.transactions := fun target =>
    store.transactions.mem_of_find? (webhookTransaction?_stored target)
  have sameEffect : (store.webhookTransaction? provider first).map
          (fun transaction => (transaction.id, first.leaves transaction)) =
        (store.webhookTransaction? provider second).map
          (fun transaction => (transaction.id, second.leaves transaction)) ↔
      (store.webhookTransaction? provider first).map PaymentTransaction.id =
        (store.webhookTransaction? provider second).map PaymentTransaction.id := by
    rw [sameStatus]
    cases firstTarget : store.webhookTransaction? provider first with
    | none =>
        cases store.webhookTransaction? provider second <;> simp
    | some one =>
        cases secondTarget : store.webhookTransaction? provider second with
        | none =>
            simp
        | some other =>
            simp only [Option.map_some, Option.some.injEq, Prod.mk.injEq, and_iff_left_iff_imp]
            intro sameId
            rw [store.transactions.eq_of_key_eq (member firstTarget) (member secondTarget)
              sameId]
  rw [sameEffect, webhookTransaction?_eq_or, webhookTransaction?_eq_or, sameReference]
  simp only [SameNaming]
  cases store.namedTransaction? first <;> cases store.namedTransaction? second <;>
    cases store.referencedTransaction? provider first <;> simp [eq_comm]

/-! ## One signature, two targets -/

section Sample

/-- A delivery about the pending charge, with or without a named transaction. -/
def signedDelivery (transactionId : Option TransactionId) : PaymentWebhookDto :=
  ⟨some "event", some "mpesa", transactionId, some "SUCCEEDED", none⟩

/-- `HMAC-SHA256` of the one text signed here, in hexadecimal. -/
def sampleDigest : String :=
  "1136eb55240dfdcddda34bcda579929fd4353ffe24651efbacec5a13109674a2"

def sampleTimestamp : String :=
  "1970-01-01T00:00:01Z"

/-- A process with a secret; on the one text and the one timestamp used here both
functions answer as the real ones do. -/
def signingEnvironment : WebhookEnvironment :=
  { sampleWebhookEnvironment with
    fallbackSecret := some "secret"
    hmacSha256Hex := fun secret text =>
      if secret = "secret" ∧
          text = buildWebhookSignaturePayload .mpesa (signedDelivery none) sampleTimestamp then
        sampleDigest
      else
        ""
    parseDate := fun text => if text = sampleTimestamp then some 1000 else none }

/-- The store after the delivery, signed at second 1. -/
def afterDelivery (transactionId : Option TransactionId) : Store :=
  (handleWebhook signingEnvironment .mpesa (signedDelivery transactionId)
    ⟨some sampleDigest, some sampleTimestamp⟩ 1000 pendingMpesaStore).state

theorem signedDelivery_signed (transactionId : Option TransactionId) :
    SameSigned (signedDelivery none) (signedDelivery transactionId) :=
  ⟨rfl, rfl, rfl, rfl⟩

theorem signedDelivery_accepted (transactionId : Option TransactionId) :
    WebhookAccepted signingEnvironment .mpesa (signedDelivery transactionId)
      ⟨some sampleDigest, some sampleTimestamp⟩ 1000 pendingMpesaStore := by
  rw [← (signedDelivery_signed transactionId).accepted_iff]
  decide +kernel

-- nobody has to compute the acceptance again
seal WebhookAccepted

theorem named_delivery_same_effect :
    webhookEffect pendingMpesaStore (afterDelivery none) =
      webhookEffect pendingMpesaStore (afterDelivery (some 1)) := by
  have consistent : pendingMpesaStore.Consistent :=
    reachable_consistent (reachable_run sampleMarketplace _)
  refine (signed_effect_iff consistent.toForeignKeys signingEnvironment (by decide)
    (signedDelivery_signed (some 1)) _ (signedDelivery_accepted none)
    (signedDelivery_accepted (some 1))).mpr ?_
  refine .inr (.inl ⟨rfl, ?_⟩)
  decide +kernel

/-- The same signature settles the pending charge or the failed deposit. -/
theorem named_delivery_other_effect :
    SameSigned (signedDelivery none) (signedDelivery (some 0)) ∧
      (∀ transactionId, WebhookAccepted signingEnvironment .mpesa
        (signedDelivery transactionId) ⟨some sampleDigest, some sampleTimestamp⟩ 1000
        pendingMpesaStore) ∧
      webhookEffect pendingMpesaStore (afterDelivery none) = some (1, .succeeded) ∧
      webhookEffect pendingMpesaStore (afterDelivery (some 0)) = some (0, .succeeded) := by
  refine ⟨signedDelivery_signed (some 0), signedDelivery_accepted, ?_⟩
  decide +kernel

end Sample

end Tchuno.Payments
