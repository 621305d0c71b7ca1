import Tchuno.Payments.Runs

/-!
# The reports an operation applies

Three operations hand a gateway status to `applyGatewayStatus`: a payment for the
attempt it has just recorded, a webhook delivery and a reconciliation for a
transaction that is already stored.
-/

namespace Tchuno.Payments

open Tchuno.Library

def Movement.report? : Movement → Option Report
  | .applyReport report => some report
  | _ => none

/-- The reports applied by an operation, read off the store before it. -/
def Operation.reports (store : Store) (operation : Operation) : List Report :=
  (operation.movements store).filterMap Movement.report?

theorem mem_reports {store : Store} {operation : Operation} {report : Report} :
    report ∈ operation.reports store ↔
      .applyReport report ∈ operation.movements store := by
  rw [Operation.reports, List.mem_filterMap]
  constructor
  · rintro ⟨movement, member, same⟩
    cases movement with
    | applyReport found =>
        obtain rfl : found = report := Option.some.inj same
        exact member
    | _ =>
        cases same
  · exact fun member => ⟨_, member, rfl⟩

/-- The report of a recorded attempt. -/
structure OfAttempt (store : Store) (report : Report) where
  intent : PaymentIntent
  idempotencyKey : String
  answer : GatewayResult
  now : Time
  made : report = attemptReport store.toBooks intent idempotencyKey answer now
  found : store.intents.find? intent.id = some intent
  unpaid : intent.status.isPaid = false

/-- The movement which recorded the attempt. -/
def OfAttempt.movement {store : Store} {report : Report}
    (attempt : OfAttempt store report) : Movement :=
  .attemptCharge attempt.intent attempt.idempotencyKey attempt.answer attempt.now

theorem movements_of_report {store : Store} {operation : Operation} {report : Report}
    (member : .applyReport report ∈ operation.movements store) :
    (store.transactions.find? report.transaction.id = some report.transaction ∧
        operation.movements store = [.applyReport report]) ∨
      ∃ attempt : OfAttempt store report,
        operation.movements store = [attempt.movement, .applyReport report] := by
  have admitted := movements_admitted store operation
  cases operation with
  | payIntent intentId actorUserId dto answer now =>
      right
      simp only [Operation.movements, chargeMovements] at member ⊢
      split at member
      · rename_i intent idempotencyKey gate
        split_ifs at member ⊢ with unused
        · simp only [List.mem_cons, Movement.applyReport.injEq, List.not_mem_nil, or_false]
            at member
          rcases member with attempted | rfl
          · cases attempted
          · obtain ⟨found, unpaid⟩ := payIntentGate_charge gate
            exact ⟨⟨intent, idempotencyKey, answer, now, rfl, found, unpaid⟩, rfl⟩
        · simp at member
      · simp at member
  | handleWebhook environment provider dto headers now =>
      left
      simp only [Operation.movements] at member admitted ⊢
      cases delivered : webhookReport? store environment provider dto headers now with
      | none =>
          simp [delivered] at member
      | some found =>
          simp only [delivered, Option.map_some, Option.toList_some] at member admitted ⊢
          obtain ⟨rfl⟩ := List.mem_singleton.mp member
          exact ⟨admitted.1, rfl⟩
  | reconcileTransaction transactionId answer now =>
      left
      simp only [Operation.movements] at member admitted ⊢
      cases queried : reconciliationReport? store transactionId answer now with
      | none =>
          simp [queried] at member
      | some found =>
          simp only [queried, Option.map_some, Option.toList_some] at member admitted ⊢
          obtain ⟨rfl⟩ := List.mem_singleton.mp member
          exact ⟨admitted.1, rfl⟩
  | _ =>
      exfalso
      simp only [Operation.movements, selectionMovements, intentMovements, refundMovements,
        payoutMovements] at member
      repeat' split at member
      all_goals simp at member

/-- An attempt has just been recorded as a charge. -/
theorem OfAttempt.type_eq {store : Store} {report : Report}
    (attempt : OfAttempt store report) : report.transaction.type = .charge := by
  rw [attempt.made]
  rfl

/-! ## Refunds and payouts -/

/-- A transaction of a refund or a payout. -/
def PaymentTransaction.isOutgoing (transaction : PaymentTransaction) : Bool :=
  transaction.type = .refund || transaction.type = .payout

theorem isOutgoing_of_fixed {present old : PaymentTransaction}
    (same : present.fixed = old.fixed) : present.isOutgoing = old.isOutgoing :=
  field_eq same PaymentTransaction.isOutgoing fun _ => rfl

/-- A report on a refund or a payout is all its operation does. -/
theorem movements_of_outgoing {store : Store} {operation : Operation} {report : Report}
    (reported : report ∈ operation.reports store)
    (outgoing : report.transaction.isOutgoing = true) :
    store.transactions.find? report.transaction.id = some report.transaction ∧
      operation.movements store = [.applyReport report] := by
  rcases movements_of_report (mem_reports.mp reported) with stored | ⟨attempt, _⟩
  · exact stored
  · rw [PaymentTransaction.isOutgoing, attempt.type_eq] at outgoing
    cases outgoing

theorem perform_of_movements {store : Store} (foreignKeys : store.ForeignKeys)
    {operation : Operation} {movement : Movement}
    (only : operation.movements store = [movement]) :
    (operation.perform store).toBooks = movement.apply store.toBooks := by
  rw [perform_books foreignKeys, only]
  rfl

/-! ## What a report leaves behind -/

section Applied

variable {books : Books} {report : Report}

/-- The intent of the report gets the status the report maps to. -/
theorem Report.find?_intents {intent : PaymentIntent}
    (opened : report.intent? books = some intent) :
    (Movement.intents books (.applyReport report)).find? intent.id =
      some { intent with
        status := mapGatewayToIntentStatus report.status intent.metadata } := by
  obtain ⟨linked, _, found⟩ := Option.bind_eq_some_iff.mp opened
  have stored : books.intents.find? intent.id = some intent := books.intents.find?_key found
  simp only [Movement.intents, opened, Table.find?_update, stored]
  rfl

/-- The transaction of the report gets the status the report maps to. -/
theorem Report.find?_transactions
    (stored : books.transactions.find? report.transaction.id = some report.transaction) :
    (Movement.transactions books (.applyReport report)).find? report.transaction.id =
      some (settledRow report.transaction report.status report.rawPayload report.reason
        report.now report.transaction) := by
  simp only [Movement.transactions, Table.find?_update, stored]
  rfl

/-- No other transaction is touched. -/
theorem Report.find?_transactions_of_ne {transactionId : TransactionId}
    (other : transactionId ≠ report.transaction.id) :
    (Movement.transactions books (.applyReport report)).find? transactionId =
      books.transactions.find? transactionId := by
  simp only [Movement.transactions, Table.find?_update, if_neg other]

end Applied

end Tchuno.Payments
