import Mathlib
import Tchuno.Library.Ecma
import Tchuno.Payments.Schema

/-!
# Gateway answers and statements on the payment tables

The adapters may answer anything; an operation takes the answer as an input and
records the call.  The statements reproduce what Prisma does on these tables:
`create` checks the unique constraints, `update` requires the row.
-/

namespace Tchuno.Payments

open Tchuno.Library Tchuno.Library.Ecma

/-! ## The gateway -/

inductive GatewayOperationStatus where
  | pending | succeeded | failed | reversed
  deriving DecidableEq, Repr

/-- The answer of `requestCharge`, `requestRefund`, `requestPayout` and
`queryTransactionStatus`. -/
structure GatewayResult where
  status : GatewayOperationStatus
  providerReference : String
  processedAt : Option Time
  rawPayload : Option Json
  reason : Option String

/-- `PaymentGatewayRegistryService.getAdapter`: providers without an adapter
fall back to the internal one. -/
def getAdapter : PaymentProvider → PaymentProvider
  | .internal => .internal
  | .mpesa => .mpesa
  | .emola => .emola
  | _ => .internal

def mapGatewayToTransactionStatus : GatewayOperationStatus → TransactionStatus
  | .succeeded => .succeeded
  | .failed => .failed
  | .reversed => .reversed
  | .pending => .processing

/-- `metadata.kind === 'deposit'` on an object. -/
def isDepositIntent (metadata : Option Json) : Bool :=
  match metadata.bind fun value => value.member? "kind" with
  | some kind => kind.isString "deposit"
  | none => false

def mapGatewayToIntentStatus (status : GatewayOperationStatus)
    (metadata : Option Json) : PaymentIntentStatus :=
  match status with
  | .succeeded => if isDepositIntent metadata then .paidPartial else .succeeded
  | .failed => .failed
  | _ => .pendingConfirmation

/-- `parseGatewayStatus`: the status named by a webhook. -/
def parseGatewayStatus (status : String) : GatewayOperationStatus :=
  let normalized := toUpperCase (trim status)
  if normalized = "SUCCEEDED" ∨ normalized = "SUCCESS" then .succeeded
  else if normalized = "FAILED" ∨ normalized = "FAILURE" then .failed
  else if normalized = "REVERSED" then .reversed
  else .pending

/-- An intent the customer has paid. -/
def PaymentIntentStatus.isPaid (status : PaymentIntentStatus) : Bool :=
  status = .paidPartial || status = .succeeded

@[simp]
theorem mapGatewayToTransactionStatus_eq_succeeded {status : GatewayOperationStatus} :
    mapGatewayToTransactionStatus status = .succeeded ↔ status = .succeeded := by
  cases status <;> simp [mapGatewayToTransactionStatus]

@[simp]
theorem isPaid_mapGatewayToIntentStatus (status : GatewayOperationStatus)
    (metadata : Option Json) :
    (mapGatewayToIntentStatus status metadata).isPaid = true ↔ status = .succeeded := by
  cases status <;> simp [mapGatewayToIntentStatus, PaymentIntentStatus.isPaid]

/-! ## Idempotency keys -/

/-- Identifiers inside texts. -/
def renderId (id : Nat) : String :=
  toString id

def refundIdempotencyKey (refundRequestId : RefundId) : String :=
  "refund-" ++ renderId refundRequestId

def payoutIdempotencyKey (payoutId : PayoutId) : String :=
  "payout-" ++ renderId payoutId

def chargeIdempotencyKey (intentId : IntentId) (now : Time) : String :=
  "charge-" ++ renderId intentId ++ "-" ++ toString now

private theorem renderId_injective {left right : Nat}
    (same : renderId left = renderId right) : left = right :=
  Nat.repr_inj.mp same

theorem refundIdempotencyKey_inj {left right : RefundId} :
    refundIdempotencyKey left = refundIdempotencyKey right ↔ left = right := by
  refine ⟨fun same => renderId_injective ?_, fun same => same ▸ rfl⟩
  exact (String.append_right_inj _).mp same

theorem payoutIdempotencyKey_inj {left right : PayoutId} :
    payoutIdempotencyKey left = payoutIdempotencyKey right ↔ left = right := by
  refine ⟨fun same => renderId_injective ?_, fun same => same ▸ rfl⟩
  exact (String.append_right_inj _).mp same

/-! ## Statements -/

/-- The unique constraints on `PaymentTransaction`: `idempotencyKey`, and
`[provider, providerReference]` where the reference is not null. -/
def Books.admitsTransaction (books : Books) (idempotencyKey : String)
    (provider : PaymentProvider) (providerReference : Option String) : Bool :=
  (books.transactions.findFirst? fun row =>
    row.idempotencyKey == idempotencyKey ||
      (row.provider == provider && providerReference.isSome &&
        row.providerReference == providerReference)).isNone

theorem Books.admitsTransaction_iff {books : Books} {idempotencyKey : String}
    {provider : PaymentProvider} {providerReference : Option String} :
    books.admitsTransaction idempotencyKey provider providerReference = true ↔
      ∀ row ∈ books.transactions, row.idempotencyKey ≠ idempotencyKey ∧
        ¬ (row.provider = provider ∧ providerReference.isSome ∧
          row.providerReference = providerReference) := by
  rw [Books.admitsTransaction, Option.isNone_iff_eq_none,
    Table.findFirst?_eq_none_iff]
  refine forall₂_congr fun row _ => ?_
  simp only [Bool.or_eq_true, beq_iff_eq, Bool.and_eq_true, and_assoc, not_or]

/-- `paymentTransaction.create`. -/
def createTransaction (make : TransactionId → PaymentTransaction)
    (keyed : ∀ id, Keyed.key (make id) = id := by intro _; exact id rfl) :
    Service PaymentTransaction := do
  let row ← Action.inspect fun store => make store.transactions.nextId
  let admitted ← Action.inspect fun store =>
    store.admitsTransaction row.idempotencyKey row.provider row.providerReference
  Action.require (admitted = true) (.database "P2002")
  Action.alter fun store =>
    { store with transactions := store.transactions.insert make keyed }
  pure row

/-- The result of a lookup, or the exception. -/
def orThrow {α : Type} (found : Option α) (error : ApiError) : Except ApiError α :=
  match found with
  | some row => .ok row
  | none => .error error

/-- Guard in a read-only prefix of a service. -/
def guardThat (condition : Prop) [Decidable condition] (error : ApiError) :
    Except ApiError Unit :=
  if condition then .ok () else .error error

@[simp]
theorem orThrow_eq_ok {α : Type} {found : Option α} {error : ApiError} {row : α} :
    orThrow found error = .ok row ↔ found = some row := by
  cases found <;> simp [orThrow]

@[simp]
theorem guardThat_eq_ok {condition : Prop} [Decidable condition] {error : ApiError}
    {value : Unit} : guardThat condition error = .ok value ↔ condition := by
  by_cases holds : condition <;> simp [guardThat, holds]

/-- A gate which passes has passed its first check. -/
theorem gate_bind_eq_ok {α β : Type} {first : Except ApiError α}
    {next : α → Except ApiError β} {value : β} :
    (first >>= next) = .ok value ↔ ∃ middle, first = .ok middle ∧ next middle = .ok value := by
  cases first <;> simp [Bind.bind, Except.bind]

@[simp]
theorem gate_pure_eq_ok {α : Type} {returned value : α} :
    (pure returned : Except ApiError α) = .ok value ↔ returned = value := by
  simp [pure, Except.pure]

section CreateTransaction

variable {make : TransactionId → PaymentTransaction}
  {keyed : ∀ id, Keyed.key (make id) = id} {store : Store}

theorem createTransaction_of_admitted
    (admitted : store.admitsTransaction (make store.transactions.nextId).idempotencyKey
      (make store.transactions.nextId).provider
      (make store.transactions.nextId).providerReference = true) :
    createTransaction make keyed store =
      ⟨.ok (make store.transactions.nextId),
        { store with transactions := store.transactions.insert make keyed }, []⟩ := by
  unfold createTransaction
  simp only [Action.inspect_bind_apply, Action.require_bind_apply]
  rw [if_pos admitted]
  rfl

theorem createTransaction_of_refused
    (refused : ¬ store.admitsTransaction (make store.transactions.nextId).idempotencyKey
      (make store.transactions.nextId).provider
      (make store.transactions.nextId).providerReference = true) :
    createTransaction make keyed store = ⟨.error (.database "P2002"), store, []⟩ := by
  unfold createTransaction
  simp only [Action.inspect_bind_apply, Action.require_bind_apply]
  rw [if_neg refused]

end CreateTransaction

end Tchuno.Payments
