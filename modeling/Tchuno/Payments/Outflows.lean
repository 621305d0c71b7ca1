import Tchuno.Payments.ChargeAccounting
import Tchuno.Payments.Reconciliation
import Tchuno.Payments.Runs

/-!
# Who moves money out

Charges are booked on the word of the gateway.  Any other entry of the ledger bears the
name of the administrator whose operation has written it, and only such operations record
transactions which are not charges.
-/

namespace Tchuno.Payments

open Tchuno.Library

/-! ## Payers -/

/-- Who settles a refund or a payout, or releases what is held. -/
def Movement.payer? : Movement → Option UserId
  | .settleRefund _ actorUserId .. => some actorUserId
  | .settlePayout _ actorUserId .. => some actorUserId
  | .releaseFunds _ actorUserId => some actorUserId
  | _ => none

def Operation.payer? : Operation → Option UserId
  | .adminApproveRefund actorUserId .. => some actorUserId
  | .adminCreateRefund actorUserId .. => some actorUserId
  | .adminProcessPayout actorUserId .. => some actorUserId
  | .adminReleaseProviderFunds _ actorUserId .. => some actorUserId
  | _ => none

/-- What is new in the later books are charges, and what the payer has written. -/
structure Books.PaidBy (payer : Option UserId) (before after : Books) : Prop where
  ledger : ∃ added, after.ledger = before.ledger ++ added ∧ ∀ entry ∈ added,
    entry.entryType.isCharge = true ∨ ∃ userId ∈ payer, entry.createdByUserId = some userId
  transactions : ∀ row ∈ after.transactions, row.type = .charge ∨ payer.isSome ∨
    ∃ old ∈ before.transactions, old.id = row.id ∧ old.type = row.type

namespace Books.PaidBy

variable {payer : Option UserId} {first second third : Books}

theorem refl (books : Books) : books.PaidBy payer books where
  ledger := ⟨[], (List.append_nil _).symm, fun _ member => absurd member List.not_mem_nil⟩
  transactions := fun row member => .inr (.inr ⟨row, member, rfl, rfl⟩)

theorem trans (early : first.PaidBy payer second) (late : second.PaidBy payer third) :
    first.PaidBy payer third where
  ledger := by
    obtain ⟨added, extends_, allowed⟩ := early.ledger
    obtain ⟨more, extendsMore, allowedMore⟩ := late.ledger
    refine ⟨added ++ more, by rw [extendsMore, extends_, List.append_assoc], ?_⟩
    intro entry member
    exact (List.mem_append.mp member).elim (allowed entry) (allowedMore entry)
  transactions := by
    intro row member
    rcases late.transactions row member with charge | paid | ⟨middle, inside, sameId, sameType⟩
    · exact .inl charge
    · exact .inr (.inl paid)
    · rcases early.transactions middle inside with charge | paid | ⟨old, older, oldId, oldType⟩
      · exact .inl (sameType.symm.trans charge)
      · exact .inr (.inl paid)
      · exact .inr (.inr ⟨old, older, oldId.trans sameId, oldType.trans sameType⟩)

/-- Where nobody pays, anybody may. -/
theorem of_none (unpaid : first.PaidBy none second) : first.PaidBy payer second where
  ledger := by
    obtain ⟨added, same, allowed⟩ := unpaid.ledger
    refine ⟨added, same, fun entry member => .inl ?_⟩
    exact (allowed entry member).resolve_right fun ⟨_, nobody, _⟩ => by cases nobody
  transactions := by
    intro row member
    rcases unpaid.transactions row member with charge | nobody | older
    · exact .inl charge
    · cases nobody
    · exact .inr (.inr older)

theorem posted (paid : first.PaidBy payer second) {index : Nat} {entry : LedgerEntry}
    (posted : second.ledger[index]? = some entry) :
    first.ledger[index]? = some entry ∨ entry.entryType.isCharge = true ∨
      ∃ userId ∈ payer, entry.createdByUserId = some userId := by
  obtain ⟨added, same, allowed⟩ := paid.ledger
  rw [same] at posted
  by_cases old : index < first.ledger.length
  · rw [List.getElem?_append_left old] at posted
    exact .inl posted
  · rw [List.getElem?_append_right (Nat.le_of_not_lt old)] at posted
    exact .inr (allowed entry (List.mem_of_getElem? posted))

end Books.PaidBy

/-! ## Movements -/

namespace Movement

variable (books : Books) (movement : Movement)

theorem mem_reversalEntry {intent : PaymentIntent} {transactionId : TransactionId}
    {actorUserId : UserId} {actorType : PaymentActorType} {bucket : LedgerBalanceBucket}
    {amount : Int} {description : String} {entry : LedgerEntry}
    (member : entry ∈ reversalEntry intent transactionId actorUserId actorType bucket amount
      description) : entry.createdByUserId = some actorUserId := by
  unfold reversalEntry at member
  split_ifs at member
  · obtain rfl := List.mem_singleton.mp member
    rfl
  · cases member

/-- The entries of a payer bear its name, and all others are of charges. -/
theorem entries_paidBy {entry : LedgerEntry} (member : entry ∈ movement.entries books) :
    entry.entryType.isCharge = true ∨
      ∃ userId ∈ movement.payer?, entry.createdByUserId = some userId := by
  cases movement with
  | applyReport report =>
      left
      simp only [entries] at member
      split at member
      · split_ifs at member
        · simp only [chargeEntries, List.mem_cons, List.not_mem_nil, or_false] at member
          rcases member with rfl | rfl | rfl <;> rfl
        · cases member
      · cases member
  | settleRefund order actorUserId decisionNote answer now =>
      refine .inr ⟨actorUserId, rfl, ?_⟩
      simp only [entries] at member
      split_ifs at member
      · simp only [refundEntries, List.mem_append, List.mem_singleton] at member
        rcases member with ((platform | held) | available) | rfl
        · exact mem_reversalEntry platform
        · exact mem_reversalEntry held
        · exact mem_reversalEntry available
        · rfl
      · cases member
  | settlePayout payout actorUserId dto answer now =>
      refine .inr ⟨actorUserId, rfl, ?_⟩
      simp only [entries] at member
      split_ifs at member
      · simp only [payoutEntries, providerTransfer, List.mem_cons, List.not_mem_nil,
          or_false] at member
        rcases member with rfl | rfl <;> rfl
      · cases member
  | releaseFunds intent actorUserId =>
      refine .inr ⟨actorUserId, rfl, ?_⟩
      simp only [entries, releaseEntries, providerTransfer, List.mem_cons, List.not_mem_nil,
        or_false] at member
      rcases member with rfl | rfl <;> rfl
  | _ =>
      cases member

theorem apply_paidBy : books.PaidBy movement.payer? (movement.apply books) where
  ledger := ⟨movement.entries books, rfl, fun _ => entries_paidBy books movement⟩
  transactions := by
    intro row member
    cases movement with
    | attemptCharge intent idempotencyKey answer now =>
        rcases (Table.mem_insert _ _ fun _ => rfl).mp member with rfl | older
        · exact .inl rfl
        · exact .inr (.inr ⟨row, older, rfl, rfl⟩)
    | applyReport report =>
        change row ∈ books.transactions.update report.transaction.id (settledRow
          report.transaction report.status report.rawPayload report.reason report.now) at member
        obtain ⟨old, older, same⟩ := Table.Evolves.origin_update PaymentTransaction.fixed member
          fun _ => rfl
        exact .inr (.inr ⟨old, older, (field_eq same PaymentTransaction.id fun _ => rfl).symm,
          (field_eq same PaymentTransaction.type fun _ => rfl).symm⟩)
    | settleRefund order actorUserId decisionNote answer now =>
        exact .inr (.inl rfl)
    | settlePayout payout actorUserId dto answer now =>
        exact .inr (.inl rfl)
    | _ =>
        exact .inr (.inr ⟨row, member, rfl, rfl⟩)

end Movement

/-! ## Operations -/

theorem payer?_of_makes {store : Store} {operation : Operation} {movement : Movement}
    (makes : operation.Makes store movement) :
    movement.payer? = none ∨ movement.payer? = operation.payer? := by
  cases makes <;> first | exact .inl rfl | exact .inr rfl

theorem movements_paidBy {payer : Option UserId} (movements : List Movement) (books : Books)
    (each : ∀ movement ∈ movements, movement.payer? = none ∨ movement.payer? = payer) :
    books.PaidBy payer (bookkeeping.run books movements) := by
  induction movements generalizing books with
  | nil =>
      exact .refl books
  | cons movement rest inductionHypothesis =>
      have first : books.PaidBy payer (movement.apply books) := by
        have applied := Movement.apply_paidBy books movement
        rcases each movement List.mem_cons_self with nobody | same
        · rw [nobody] at applied
          exact applied.of_none
        · rwa [same] at applied
      exact first.trans (inductionHypothesis (movement.apply books) fun later member =>
        each later (List.mem_cons_of_mem movement member))

theorem perform_paidBy {store : Store} (foreignKeys : store.ForeignKeys)
    (operation : Operation) :
    store.PaidBy operation.payer? (operation.perform store).toBooks := by
  rw [perform_books foreignKeys operation]
  exact movements_paidBy _ _ fun movement member => payer?_of_makes (makes_of_mem member)

/-- A run in which one pays at most. -/
theorem run_paidBy {payer : Option UserId} {store : Store} (consistent : store.Consistent)
    {operations : List Operation}
    (each : ∀ operation ∈ operations, operation.payer? = none ∨ operation.payer? = payer) :
    store.PaidBy payer (payments.run store operations).toBooks := by
  induction operations generalizing store with
  | nil =>
      exact .refl _
  | cons operation rest inductionHypothesis =>
      have first : store.PaidBy payer (operation.perform store).toBooks := by
        have performed := perform_paidBy consistent.toForeignKeys operation
        rcases each operation List.mem_cons_self with nobody | same
        · rw [nobody] at performed
          exact performed.of_none
        · rwa [same] at performed
      exact first.trans (inductionHypothesis (perform_consistent consistent operation)
        fun later member => each later (List.mem_cons_of_mem operation member))

/-! ## Reconciliation -/

/-- The queries of a batch which are answered, as operations. -/
def answeredQueries : List TransactionId → (Nat → QueryTurn) → List Operation
  | [], _ => []
  | transactionId :: rest, turns =>
      let later := answeredQueries rest fun index => turns (index + 1)
      match (turns 0).reply with
      | .answered answer =>
          .reconcileTransaction transactionId answer (turns 0).appliedAt :: later
      | .threw _ => later

theorem payer?_answeredQueries (transactionIds : List TransactionId) (turns : Nat → QueryTurn) :
    ∀ operation ∈ answeredQueries transactionIds turns, operation.payer? = none := by
  induction transactionIds generalizing turns with
  | nil =>
      simp [answeredQueries]
  | cons transactionId rest inductionHypothesis =>
      intro operation member
      simp only [answeredQueries] at member
      split at member
      · rcases List.mem_cons.mp member with rfl | later
        · rfl
        · exact inductionHypothesis _ operation later
      · exact inductionHypothesis _ operation member

/-- A batch leaves what its answered queries leave. -/
theorem reconcileEach_run (transactionIds : List TransactionId) (turns : Nat → QueryTurn)
    (summary : PendingReconciliationSummary) (store : Store) :
    (reconcileEach transactionIds turns summary store).state =
      payments.run store (answeredQueries transactionIds turns) := by
  induction transactionIds generalizing turns summary store with
  | nil =>
      rfl
  | cons transactionId rest inductionHypothesis =>
      rw [reconcileEach, Action.attempt_bind_apply, Outcome.after_state, inductionHypothesis,
        answeredQueries]
      cases replied : (turns 0).reply with
      | answered answer =>
          simp only [reconcileTransactionTurn, replied, Action.mapError_state]
          rfl
      | threw message =>
          simp only [reconcileTransactionTurn, replied, reconcileTransactionUnanswered_state]

theorem reconcilePending_run (environment : ReconciliationEnvironment)
    (input : PendingReconciliationInput) (now : Time) (turns : Nat → QueryTurn)
    (store : Store) :
    ∃ operations,
      (reconcilePendingChargeTransactions environment input now turns store).state =
          payments.run store operations ∧
        ∀ operation ∈ operations, operation.payer? = none := by
  unfold reconcilePendingChargeTransactions
  rw [Action.inspect_bind_apply]
  exact ⟨_, reconcileEach_run _ _ _ store, payer?_answeredQueries _ _⟩

end Tchuno.Payments
