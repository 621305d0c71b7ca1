import Tchuno.Payments.Conservation
import Tchuno.Payments.Reports

/-!
# Late reports and foreign reports

`applyGatewayStatus` writes whatever status it is handed: it does not ask
whether the transaction was settled before, and `handleWebhook` does not ask
whether a transaction it finds by its identifier belongs to the provider whose
signature was checked.
-/

namespace Tchuno.Payments

open Tchuno.Library

/-! ## A paid intent stays paid -/

/-- A charge of the intent has been applied as a success: its entries exist. -/
def Books.isCharged (books : Books) (intentId : IntentId) : Bool :=
  (books.transactions.findFirst? fun transaction =>
    transaction.type = .charge && transaction.paymentIntentId = some intentId &&
      hasCustomerCharge books.ledger transaction.id).isSome

/-- The charge transactions of the intent which were applied as a success and
have succeeded still. -/
def Books.IsSettledCharge (books : Books) (intentId : IntentId)
    (transaction : PaymentTransaction) : Prop :=
  transaction.type = .charge ∧ transaction.paymentIntentId = some intentId ∧
    transaction.status = .succeeded ∧
    hasCustomerCharge books.ledger transaction.id = true

instance (books : Books) (intentId : IntentId) (transaction : PaymentTransaction) :
    Decidable (books.IsSettledCharge intentId transaction) :=
  inferInstanceAs (Decidable (_ ∧ _))

/-- A failure or a delay is reported for a charge. -/
def Report.IsSetback (report : Report) : Prop :=
  (report.status = .failed ∨ report.status = .pending) ∧ report.transaction.type = .charge

instance (report : Report) : Decidable report.IsSetback :=
  inferInstanceAs (Decidable (_ ∧ _))

/-- A setback for a charged intent leaves its settled charges settled and, if it
was paid, leaves it paid. -/
def Operation.KeepsPaid (store : Store) (operation : Operation) : Prop :=
  ∀ report ∈ operation.reports store, report.IsSetback →
    ∀ intent ∈ report.intent? store.toBooks, store.isCharged intent.id = true →
      (∀ transaction ∈ store.transactions, store.IsSettledCharge intent.id transaction →
        ((operation.perform store).transactions.find? transaction.id).map
          PaymentTransaction.status = some .succeeded) ∧
      (intent.status.isPaid = true →
        ((operation.perform store).intents.find? intent.id).map
          (fun later => later.status.isPaid) = some true)

instance (store : Store) (operation : Operation) : Decidable (operation.KeepsPaid store) :=
  inferInstanceAs (Decidable (∀ report ∈ operation.reports store, _ →
    ∀ intent ∈ report.intent? store.toBooks, _ →
      (∀ transaction ∈ store.transactions, _ → _) ∧ _))

/-- A setback for a charged intent comes while it is not paid, and not for a
settled charge. -/
def Operation.SetbacksUnpaid (store : Store) (operation : Operation) : Prop :=
  ∀ report ∈ operation.reports store, report.IsSetback →
    ∀ intent ∈ report.intent? store.toBooks, store.isCharged intent.id = true →
      ¬ store.IsSettledCharge intent.id report.transaction ∧ intent.status.isPaid = false

theorem Report.IsSetback.not_succeeded {report : Report} (setback : report.IsSetback) :
    report.status ≠ .succeeded := by
  rcases setback.1 with failed | pending
  · simp [failed]
  · simp [pending]

/-- Recording and reporting an attempt leaves the older transactions alone. -/
theorem OfAttempt.find?_transactions {store : Store} {report : Report} {operation : Operation}
    (attempt : OfAttempt store report) (foreignKeys : store.ForeignKeys)
    (movements : operation.movements store = [attempt.movement, .applyReport report])
    {transaction : PaymentTransaction} (present : transaction ∈ store.transactions) :
    (operation.perform store).transactions.find? transaction.id = some transaction := by
  have stored : store.transactions.find? transaction.id = some transaction :=
    store.transactions.find?_eq_some_iff.mpr ⟨present, rfl⟩
  have attemptId : report.transaction.id = store.transactions.nextId :=
    congrArg (fun made => made.transaction.id) attempt.made
  have newer : transaction.id ≠ report.transaction.id :=
    attemptId ▸ Nat.ne_of_lt (store.transactions.key_lt_nextId present)
  have performed : (operation.perform store).toBooks =
      Movement.apply (attempt.movement.apply store.toBooks) (.applyReport report) := by
    rw [perform_books foreignKeys, movements]
    rfl
  have recorded : (attempt.movement.apply store.toBooks).transactions.find? transaction.id =
      some transaction :=
    store.transactions.find?_insert_of_some _ (fun _ => rfl) stored
  rw [performed]
  exact (Report.find?_transactions_of_ne newer).trans recorded

theorem OfAttempt.intent?_eq {store : Store} {report : Report}
    (attempt : OfAttempt store report) :
    report.intent? store.toBooks = some attempt.intent :=
  (congrArg (fun made => Report.intent? made store.toBooks) attempt.made).trans attempt.found

theorem keepsPaid_iff {store : Store} (consistent : store.Consistent)
    (operation : Operation) :
    operation.KeepsPaid store ↔ operation.SetbacksUnpaid store := by
  refine forall₂_congr fun report reported => forall_congr' fun setback =>
    forall₂_congr fun intent opened => forall_congr' fun charged => ?_
  have failing := setback.not_succeeded
  rcases movements_of_report (mem_reports.mp reported) with
    ⟨stored, only⟩ | ⟨attempt, movements⟩
  · -- a delivery or a reconciliation: the report is all that happens
    have performed := perform_of_movements consistent.toForeignKeys only
    have settledAfter : (operation.perform store).transactions.find? report.transaction.id =
        some (settledRow report.transaction report.status report.rawPayload report.reason
          report.now report.transaction) := by
      rw [performed]
      exact Report.find?_transactions stored
    have intentAfter : (operation.perform store).intents.find? intent.id =
        some { intent with
          status := mapGatewayToIntentStatus report.status intent.metadata } := by
      rw [performed]
      exact Report.find?_intents opened
    rw [intentAfter, Option.map_some, Option.some.injEq, isPaid_mapGatewayToIntentStatus]
    constructor
    · rintro ⟨settledKept, paidKept⟩
      constructor
      · intro settled
        have kept := settledKept report.transaction (store.transactions.mem_of_find? stored)
          settled
        rw [settledAfter, Option.map_some, Option.some.injEq] at kept
        exact failing (mapGatewayToTransactionStatus_eq_succeeded.mp kept)
      · by_contra paid
        exact failing (paidKept (by simpa using paid))
    · rintro ⟨unsettled, unpaid⟩
      constructor
      · intro transaction present settled
        have other : transaction.id ≠ report.transaction.id := by
          intro same
          have sameRow : transaction = report.transaction := store.transactions.eq_of_key_eq
            present (store.transactions.mem_of_find? stored) same
          exact unsettled (sameRow ▸ settled)
        have kept : (operation.perform store).transactions.find? transaction.id =
            some transaction := by
          rw [performed]
          exact (Report.find?_transactions_of_ne other).trans
            (store.transactions.find?_eq_some_iff.mpr ⟨present, rfl⟩)
        rw [kept, Option.map_some, settled.2.2.1]
      · intro paid
        rw [unpaid] at paid
        cases paid
  · -- a payment: the intent was not paid, and the attempt is a new transaction
    obtain rfl : attempt.intent = intent :=
      Option.some.inj (attempt.intent?_eq.symm.trans opened)
    constructor
    · intro _
      refine ⟨fun settled => failing ?_, attempt.unpaid⟩
      have succeeded := settled.2.2.1
      rw [attempt.made] at succeeded ⊢
      exact mapGatewayToTransactionStatus_eq_succeeded.mp succeeded
    · intro _
      constructor
      · intro transaction present settled
        rw [attempt.find?_transactions consistent.toForeignKeys movements present, Option.map_some,
          settled.2.2.1]
      · intro paid
        rw [attempt.unpaid] at paid
        cases paid

/-- Along every run a charged intent is never downgraded exactly as long as no
failure and no delay is reported for its settled charges or while it is paid. -/
theorem paid_never_downgraded_iff (market : Marketplace) (operations : List Operation) :
    payments.Along (fun store operation => operation.KeepsPaid store)
        (Store.initial market) operations ↔
      payments.Along (fun store operation => operation.SetbacksUnpaid store)
        (Store.initial market) operations := by
  refine @Machine.along_iff_along _ _ payments (fun store => store.Consistent) _ _ ?_ ?_ _
    Books.initial_consistent operations
  · exact fun store operation consistent => keepsPaid_iff consistent operation
  · exact fun store operation consistent _ => perform_consistent consistent operation

/-- The first of two attempts fails after the second has paid the intent. -/
theorem paid_intent_downgraded :
    ¬ payments.Along (fun store operation => operation.KeepsPaid store)
      (Store.initial sampleMarketplace)
      [sampleSelection, .payIntent 0 0 ⟨some "first"⟩ (sampleAnswer .pending "first") 2,
        .payIntent 0 0 ⟨some "second"⟩ (sampleAnswer .succeeded "second") 3,
        .reconcileTransaction 0 (sampleAnswer .failed "first") 4] := by
  decide +kernel

/-! ## A delivery stays with its provider -/

/-- The transaction has its status, confirmed amount and payload still, and no
entry was posted for it. -/
def PaymentTransaction.Untouched (store after : Store) (transaction : PaymentTransaction) :
    Prop :=
  (∃ later, after.transactions.find? transaction.id = some later ∧
    later.status = transaction.status ∧
    later.confirmedAmount = transaction.confirmedAmount ∧
    later.providerPayload = transaction.providerPayload) ∧
  ∀ entry ∈ after.ledger.drop store.ledger.length, entry.transactionId ≠ some transaction.id

/-- A delivery on the route of the provider touched transactions of that
provider only. -/
def ConfinedTo (provider : PaymentProvider) (store after : Store) : Prop :=
  ∀ transaction ∈ store.transactions,
    transaction.Untouched store after ∨ transaction.provider = provider

/-- The report says what is stored already and books no charge. -/
def Report.Repeats (report : Report) (books : Books) : Prop :=
  mapGatewayToTransactionStatus report.status = report.transaction.status ∧
    (report.status = .succeeded →
      report.transaction.confirmedAmount = some report.transaction.requestedAmount) ∧
    (∀ payload ∈ report.rawPayload, report.transaction.providerPayload = some payload) ∧
    ¬ (report.posts books ∧ (report.intent? books).isSome)

/-- A report leaves its own transaction untouched exactly if it repeats what is
stored. -/
theorem untouched_iff_repeats {store after : Store} {report : Report}
    (stored : store.transactions.find? report.transaction.id = some report.transaction)
    (applied : after.toBooks = Movement.apply store.toBooks (.applyReport report)) :
    report.transaction.Untouched store after ↔ report.Repeats store.toBooks := by
  have settledAfter : after.transactions.find? report.transaction.id =
      some (settledRow report.transaction report.status report.rawPayload report.reason
        report.now report.transaction) := by
    rw [applied]
    exact Report.find?_transactions stored
  have posted : after.ledger.drop store.ledger.length =
      Movement.entries store.toBooks (.applyReport report) := by
    rw [applied]
    exact List.drop_left
  have sameAmount : (settledRow report.transaction report.status report.rawPayload
      report.reason report.now report.transaction).confirmedAmount =
        report.transaction.confirmedAmount ↔
      (report.status = .succeeded →
        report.transaction.confirmedAmount = some report.transaction.requestedAmount) := by
    by_cases succeeded : report.status = .succeeded
    · simp [settledRow, succeeded, mapGatewayToTransactionStatus, eq_comm]
    · simp [settledRow, succeeded]
  have samePayload : (settledRow report.transaction report.status report.rawPayload
      report.reason report.now report.transaction).providerPayload =
        report.transaction.providerPayload ↔
      ∀ payload ∈ report.rawPayload,
        report.transaction.providerPayload = some payload := by
    cases payload : report.rawPayload <;> simp [settledRow, eq_comm]
  have silent : (∀ entry ∈ after.ledger.drop store.ledger.length,
      entry.transactionId ≠ some report.transaction.id) ↔
      ¬ (report.posts store.toBooks ∧ (report.intent? store.toBooks).isSome) := by
    rw [posted]
    cases opened : report.intent? store.toBooks with
    | none =>
        simp [Movement.entries, opened]
    | some intent =>
        by_cases posts : report.posts store.toBooks
        · simp [Movement.entries, opened, posts, chargeEntries]
        · simp [Movement.entries, opened, posts]
  rw [PaymentTransaction.Untouched, silent, Report.Repeats, ← sameAmount, ← samePayload]
  simp only [settledAfter, Option.some.injEq, exists_eq_left', and_assoc]
  rfl

/-- A report touches no other transaction. -/
theorem untouched_of_ne {store after : Store} {report : Report}
    (applied : after.toBooks = Movement.apply store.toBooks (.applyReport report))
    {transaction : PaymentTransaction} (present : transaction ∈ store.transactions)
    (other : transaction.id ≠ report.transaction.id) :
    transaction.Untouched store after := by
  constructor
  · refine ⟨transaction, ?_, rfl, rfl, rfl⟩
    rw [applied]
    exact (Report.find?_transactions_of_ne other).trans
      (store.transactions.find?_eq_some_iff.mpr ⟨present, rfl⟩)
  · rw [applied]
    intro entry member linked
    rw [show (Movement.apply store.toBooks (.applyReport report)).ledger = store.ledger ++ _
      from rfl, List.drop_left] at member
    obtain ⟨_, forTransaction, _⟩ := Movement.entries_booked _ _ entry member
    rw [linked] at forTransaction
    exact other (Option.some.inj forTransaction)

/-- A webhook delivery touches transactions of its own provider only, exactly if
the transaction it resolves to is one of them or the delivery repeats what is
stored. -/
theorem webhook_confined_iff {store : Store} (foreignKeys : store.ForeignKeys)
    (environment : WebhookEnvironment) (provider : PaymentProvider)
    (dto : PaymentWebhookDto) (headers : WebhookHeaders) (now : Time) :
    ConfinedTo provider store (handleWebhook environment provider dto headers now store).state ↔
      ∀ report ∈ webhookReport? store environment provider dto headers now,
        report.transaction.provider = provider ∨ report.Repeats store.toBooks := by
  have books := handleWebhook_books foreignKeys environment provider dto headers now
  have admitted := movements_admitted store (.handleWebhook environment provider dto headers now)
  rw [Operation.movements] at admitted
  generalize (handleWebhook environment provider dto headers now store).state = after at books ⊢
  cases delivered : webhookReport? store environment provider dto headers now with
  | none =>
      simp only [delivered, Option.map_none, Option.toList_none, Machine.run_nil] at books
      refine iff_of_true (fun transaction present => .inl ?_) (by simp)
      rw [PaymentTransaction.Untouched, books, List.drop_length]
      exact ⟨⟨transaction, store.transactions.find?_eq_some_iff.mpr ⟨present, rfl⟩, rfl, rfl,
        rfl⟩, by simp⟩
  | some report =>
      simp only [delivered, Option.map_some, Option.toList_some] at books admitted
      have applied : after.toBooks = Movement.apply store.toBooks (.applyReport report) := books
      have stored : store.transactions.find? report.transaction.id = some report.transaction :=
        admitted.1
      simp only [Option.mem_some_iff, forall_eq']
      constructor
      · intro confined
        rcases confined report.transaction (store.transactions.mem_of_find? stored) with
          untouched | own
        · exact .inr ((untouched_iff_repeats stored applied).mp untouched)
        · exact .inl own
      · intro met transaction present
        by_cases same : transaction.id = report.transaction.id
        · obtain rfl : transaction = report.transaction := store.transactions.eq_of_key_eq
            present (store.transactions.mem_of_find? stored) same
          rcases met with own | repeats
          · exact .inr own
          · exact .inl ((untouched_iff_repeats stored applied).mpr repeats)
        · exact .inl (untouched_of_ne applied present same)

/-- The deposit has failed, and a charge of an external provider is pending. -/
def pendingMpesaStore : Store :=
  payments.run (Store.initial sampleMarketplace)
    [sampleSelection, .payIntent 0 0 ⟨none⟩ (sampleAnswer .failed "deposit") 2,
      .createIntent samplePolicy 0 ⟨0, some .mpesa⟩ 3,
      .payIntent 1 0 ⟨none⟩ (sampleAnswer .pending "mpesa") 4]

/-- A process without webhook secrets; nothing is ever signed there. -/
def sampleWebhookEnvironment : WebhookEnvironment where
  providerSecret := fun _ => none
  fallbackSecret := none
  toleranceSeconds := none
  futureSkewSeconds := none
  hmacSha256Hex := fun _ _ => ""
  parseDate := fun _ => none

/-- An unsigned delivery which names a transaction. -/
def sampleDelivery (transactionId : TransactionId) (store : Store) : Store :=
  (handleWebhook sampleWebhookEnvironment .internal
    ⟨none, none, some transactionId, some "SUCCEEDED", none⟩ ⟨none, none⟩ 5 store).state

theorem own_charge_settled :
    ConfinedTo .internal pendingMpesaStore (sampleDelivery 0 pendingMpesaStore) := by
  refine (webhook_confined_iff
    (reachable_consistent (reachable_run sampleMarketplace _)).toForeignKeys _ _ _ _ _).mpr ?_
  have own : ∀ report ∈ webhookReport? pendingMpesaStore sampleWebhookEnvironment .internal
      ⟨none, none, some 0, some "SUCCEEDED", none⟩ ⟨none, none⟩ 5,
        report.transaction.provider = .internal := by
    decide +kernel
  exact fun report delivered => .inl (own report delivered)

/-- The internal route needs no signature, and settles a charge of an external
provider. -/
theorem foreign_charge_settled :
    ¬ ConfinedTo .internal pendingMpesaStore (sampleDelivery 1 pendingMpesaStore) := by
  intro confined
  have stored : (pendingMpesaStore.transactions.find? 1).map
      (fun transaction => (transaction.provider, transaction.status)) =
        some (.mpesa, .processing) := by
    decide +kernel
  have settled : ((sampleDelivery 1 pendingMpesaStore).transactions.find? 1).map
      PaymentTransaction.status = some .succeeded := by
    decide +kernel
  obtain ⟨transaction, found, data⟩ := Option.map_eq_some_iff.mp stored
  have named : transaction.id = 1 := pendingMpesaStore.transactions.key_of_find? found
  simp only [Prod.mk.injEq] at data
  rcases confined transaction (pendingMpesaStore.transactions.mem_of_find? found) with
    ⟨⟨later, foundLater, sameStatus, _⟩, _⟩ | own
  · rw [named] at foundLater
    rw [foundLater, Option.map_some, sameStatus, data.2] at settled
    cases settled
  · rw [data.1] at own
    cases own

end Tchuno.Payments
