import Tchuno.Payments.ChargeAccounting

/-!
# Refunds and payouts against their transactions

A refund or a payout leaves three traces: the status of the request, the status
of its transaction and a group of ledger entries.  `processRefundRequest` and
`adminProcessPayout` write all three when the gateway answers; a webhook or a
reconciliation which settles the transaction later writes the second alone.
-/

namespace Tchuno.Payments

open Tchuno.Library

/-! ## Entry groups -/

/-- The entries of one type which reference the transaction. -/
def entriesFor (ledger : List LedgerEntry) (transactionId : TransactionId)
    (entryType : LedgerEntryType) : List LedgerEntry :=
  ledger.filter fun entry =>
    entry.transactionId = some transactionId && entry.entryType = entryType

/-- Exactly one refund group references the transaction: one entry for the
customer, with reversals that add up to it. -/
def OneRefundGroup (ledger : List LedgerEntry) (transactionId : TransactionId) : Prop :=
  (entriesFor ledger transactionId .customerRefund).length = 1 ∧
    sumAmounts (entriesFor ledger transactionId .reversal) =
      sumAmounts (entriesFor ledger transactionId .customerRefund)

/-- Exactly one payout pair references the transaction. -/
def OnePayoutPair (ledger : List LedgerEntry) (transactionId : TransactionId) : Prop :=
  (entriesFor ledger transactionId .providerPayout).map LedgerEntry.direction =
    [.debit, .credit]

instance (ledger : List LedgerEntry) (transactionId : TransactionId) :
    Decidable (OneRefundGroup ledger transactionId) :=
  inferInstanceAs (Decidable (_ ∧ _))

instance (ledger : List LedgerEntry) (transactionId : TransactionId) :
    Decidable (OnePayoutPair ledger transactionId) :=
  inferInstanceAs (Decidable (_ = _))

theorem entriesFor_append (first second : List LedgerEntry) (transactionId : TransactionId)
    (entryType : LedgerEntryType) :
    entriesFor (first ++ second) transactionId entryType =
      entriesFor first transactionId entryType ++
        entriesFor second transactionId entryType := by
  simp [entriesFor]

/-- The types of the entries which settle a refund or a payout. -/
def LedgerEntryType.isSettlement : LedgerEntryType → Bool
  | .customerRefund => true
  | .reversal => true
  | .providerPayout => true
  | _ => false

/-- No movement settles a transaction that existed before. -/
theorem Movement.entriesFor_of_older (books : Books) (movement : Movement)
    {transactionId : TransactionId} (older : transactionId ≠ books.transactions.nextId)
    {entryType : LedgerEntryType} (settlement : entryType.isSettlement = true) :
    entriesFor (movement.entries books) transactionId entryType = [] := by
  rw [entriesFor, List.filter_eq_nil_iff]
  intro entry member both
  simp only [Bool.and_eq_true, decide_eq_true_eq] at both
  obtain ⟨linked, rfl⟩ := both
  have forTransaction := (entries_booked books movement entry member).2.1
  rw [linked] at forTransaction
  cases movement with
  | applyReport report =>
      simp only [entries] at member
      split at member
      · split_ifs at member
        · simp only [chargeEntries, List.mem_cons, List.not_mem_nil, or_false] at member
          rcases member with rfl | rfl | rfl <;> cases settlement
        · simp at member
      · simp at member
  | settleRefund order actorUserId decisionNote answer now =>
      exact older (Option.some.inj forTransaction)
  | settlePayout payout actorUserId dto answer now =>
      exact older (Option.some.inj forTransaction)
  | _ =>
      cases forTransaction

/-- Nothing references a transaction that does not exist yet. -/
theorem entriesFor_nextId {books : Books} (foreignKeys : books.ForeignKeys)
    (entryType : LedgerEntryType) :
    entriesFor books.ledger books.transactions.nextId entryType = [] := by
  rw [entriesFor, List.filter_eq_nil_iff]
  intro entry member both
  simp only [Bool.and_eq_true, decide_eq_true_eq] at both
  obtain ⟨transaction, found⟩ := Option.isSome_iff_exists.mp
    (foreignKeys.entry_transaction entry member _ both.1)
  have bound := books.transactions.key_lt_nextId (books.transactions.mem_of_find? found)
  rw [books.transactions.key_of_find? found] at bound
  exact lt_irrefl _ bound

theorem entriesFor_apply_of_older {books : Books} (movement : Movement)
    {transactionId : TransactionId} (older : transactionId ≠ books.transactions.nextId)
    {entryType : LedgerEntryType} (settlement : entryType.isSettlement = true) :
    entriesFor (movement.apply books).ledger transactionId entryType =
      entriesFor books.ledger transactionId entryType := by
  rw [Movement.apply, entriesFor_append, Movement.entriesFor_of_older books movement older
    settlement, List.append_nil]

theorem entriesFor_apply_nextId {books : Books} (foreignKeys : books.ForeignKeys)
    (movement : Movement) (entryType : LedgerEntryType) :
    entriesFor (movement.apply books).ledger books.transactions.nextId entryType =
      entriesFor (movement.entries books) books.transactions.nextId entryType := by
  rw [Movement.apply, entriesFor_append, entriesFor_nextId foreignKeys, List.nil_append]

theorem entriesFor_reversalEntry (intent : PaymentIntent) (transactionId : TransactionId)
    (actorUserId : UserId) (actorType : PaymentActorType) (bucket : LedgerBalanceBucket)
    (amount : Int) (description : String) (entryType : LedgerEntryType) :
    entriesFor (reversalEntry intent transactionId actorUserId actorType bucket amount
        description) transactionId entryType =
      if entryType = .reversal then
        reversalEntry intent transactionId actorUserId actorType bucket amount description
      else
        [] := by
  unfold reversalEntry entriesFor
  split_ifs with positive reversal reversal <;> simp [reversal, eq_comm]

theorem sumAmounts_reversalEntry (intent : PaymentIntent) (transactionId : TransactionId)
    (actorUserId : UserId) (actorType : PaymentActorType) (bucket : LedgerBalanceBucket)
    {amount : Int} (nonneg : 0 ≤ amount) (description : String) :
    sumAmounts (reversalEntry intent transactionId actorUserId actorType bucket amount
      description) = amount := by
  unfold reversalEntry
  split_ifs with positive
  · simp [sumAmounts]
  · have nothing : amount = 0 := by omega
    simp [sumAmounts, nothing]

/-- A settled refund posts one group, whatever its shares. -/
theorem oneRefundGroup_refundEntries (intent : PaymentIntent)
    (transactionId : TransactionId) {amount : Int} {shares : RefundShares}
    {balances : RefundableBalances} (actorUserId : UserId)
    (platform_nonneg : 0 ≤ shares.platformPart) (provider_nonneg : 0 ≤ shares.providerPart)
    (adds : shares.platformPart + shares.providerPart = amount)
    (held_nonneg : 0 ≤ balances.providerHeld) :
    OneRefundGroup
      (refundEntries intent transactionId amount shares balances actorUserId)
      transactionId := by
  have heldDebit_nonneg : 0 ≤ min balances.providerHeld shares.providerPart :=
    le_min held_nonneg provider_nonneg
  have availableDebit_nonneg :
      0 ≤ shares.providerPart - min balances.providerHeld shares.providerPart := by
    have := min_le_right balances.providerHeld shares.providerPart
    omega
  have customer : entriesFor
      (refundEntries intent transactionId amount shares balances actorUserId)
      transactionId .customerRefund =
        [{ jobId := some intent.jobId
           paymentIntentId := some intent.id
           transactionId := some transactionId
           actorType := .customer
           entryType := .customerRefund
           amount := amount
           currency := intent.currency
           direction := .credit
           balanceBucket := .customerExternal
           description := "Customer refund settled"
           createdByUserId := some actorUserId }] := by
    simp only [refundEntries, entriesFor_append, entriesFor_reversalEntry]
    simp [entriesFor]
  have reversals : sumAmounts (entriesFor
      (refundEntries intent transactionId amount shares balances actorUserId)
      transactionId .reversal) = amount := by
    simp only [refundEntries, entriesFor_append, entriesFor_reversalEntry, if_true]
    rw [sumAmounts, List.map_append, List.map_append, List.map_append, List.sum_append,
      List.sum_append, List.sum_append]
    have platform := sumAmounts_reversalEntry intent transactionId actorUserId .platform
      .platformReserved platform_nonneg "Refund reversal on platform reserved fee"
    have held := sumAmounts_reversalEntry intent transactionId actorUserId .provider
      .providerHeld heldDebit_nonneg "Refund reversal debited from provider held balance"
    have available := sumAmounts_reversalEntry intent transactionId actorUserId .provider
      .providerAvailable availableDebit_nonneg
      "Refund reversal debited from provider available balance"
    rw [sumAmounts] at platform held available
    rw [platform, held, available]
    simp only [entriesFor, List.filter_cons, List.filter_nil]
    simp
    omega
  rw [OneRefundGroup, customer, reversals]
  exact ⟨rfl, by simp [sumAmounts]⟩

/-- The ledger gets the group of a refund exactly if the gateway confirmed it. -/
theorem oneRefundGroup_settled {books : Books} (consistent : books.Consistent)
    {order : RefundOrder} {actorUserId : UserId} {decisionNote : Option String}
    {answer : GatewayResult} {now : Time}
    (admitted : Movement.Admitted books
      (.settleRefund order actorUserId decisionNote answer now))
    {account : Escrow Int} (holds : books.Holds order.intent.id account) :
    OneRefundGroup
        (Movement.apply books
          (.settleRefund order actorUserId decisionNote answer now)).ledger
        books.transactions.nextId ↔
      answer.status = .succeeded := by
  have fresh := entriesFor_apply_nextId consistent.toForeignKeys
    (.settleRefund order actorUserId decisionNote answer now)
  obtain ⟨stored, _, foundIntent, _⟩ := admitted
  obtain ⟨platform_nonneg, provider_nonneg, adds⟩ :=
    order.shares_bounds consistent stored foundIntent
  have balances := refundableBalances_of_holds consistent holds
  rw [OneRefundGroup, fresh, fresh]
  by_cases succeeded : answer.status = .succeeded
  · refine iff_of_true ?_ succeeded
    have group := oneRefundGroup_refundEntries order.intent books.transactions.nextId
      actorUserId platform_nonneg provider_nonneg adds
      (show 0 ≤ (refundableBalances books.ledger order.intent.id).providerHeld by
        rw [balances]
        exact account.held_nonneg)
    simp only [Movement.entries, succeeded, if_true]
    exact group
  · refine iff_of_false ?_ succeeded
    simp [Movement.entries, succeeded, entriesFor]

/-- The ledger gets the pair of a payout exactly if the gateway confirmed it. -/
theorem onePayoutPair_settled {books : Books} (foreignKeys : books.ForeignKeys)
    (payout : Payout) (actorUserId : UserId) (dto : ProcessPayoutDto)
    (answer : GatewayResult) (now : Time) :
    OnePayoutPair
        (Movement.apply books (.settlePayout payout actorUserId dto answer now)).ledger
        books.transactions.nextId ↔
      answer.status = .succeeded := by
  rw [OnePayoutPair, entriesFor_apply_nextId foreignKeys]
  by_cases succeeded : answer.status = .succeeded
  · refine iff_of_true ?_ succeeded
    simp [Movement.entries, succeeded, entriesFor, payoutEntries, providerTransfer]
  · refine iff_of_false ?_ succeeded
    simp [Movement.entries, succeeded, entriesFor]

/-! ## What a movement does to a row -/

namespace Movement

variable {books : Books} {movement : Movement}

/-- A transaction is an old one, with its status unless the movement reports on
it, or it is the new one of a charge, a refund or a payout. -/
theorem transaction_step (admitted : movement.Admitted books)
    {transaction : PaymentTransaction}
    (member : transaction ∈ movement.transactions books) :
    (∃ old ∈ books.transactions, transaction.fixed = old.fixed ∧
        (transaction.status = old.status ∨
          ∃ report, movement = .applyReport report ∧ report.transaction = old ∧
            transaction.status = mapGatewayToTransactionStatus report.status)) ∨
      (transaction.id = books.transactions.nextId ∧
        (transaction.type = .charge ∨
          (∃ order actorUserId decisionNote answer now,
            movement = .settleRefund order actorUserId decisionNote answer now ∧
              transaction = refundRow order.refund answer now books.transactions.nextId) ∨
          ∃ payout actorUserId dto answer now,
            movement = .settlePayout payout actorUserId dto answer now ∧
              transaction = payoutRow payout dto answer now books.transactions.nextId)) := by
  cases movement with
  | attemptCharge intent idempotencyKey answer now =>
      simp only [transactions] at member
      rcases Table.eq_or_mem_of_insert member with rfl | older
      · exact .inr ⟨rfl, .inl rfl⟩
      · exact .inl ⟨transaction, older, rfl, .inl rfl⟩
  | settleRefund order actorUserId decisionNote answer now =>
      simp only [transactions] at member
      rcases Table.eq_or_mem_of_insert member with rfl | older
      · exact .inr ⟨rfl, .inr (.inl ⟨_, _, _, _, _, rfl, rfl⟩)⟩
      · exact .inl ⟨transaction, older, rfl, .inl rfl⟩
  | settlePayout payout actorUserId dto answer now =>
      simp only [transactions] at member
      rcases Table.eq_or_mem_of_insert member with rfl | older
      · exact .inr ⟨rfl, .inr (.inr ⟨_, _, _, _, _, rfl, rfl⟩)⟩
      · exact .inl ⟨transaction, older, rfl, .inl rfl⟩
  | applyReport report =>
      obtain ⟨old, older, rfl⟩ := Table.exists_of_update member
      by_cases target : Keyed.key old = report.transaction.id
      · have reported : report.transaction = old := books.transactions.eq_of_key_eq
          (books.transactions.mem_of_find? admitted) older target.symm
        refine .inl ⟨old, older, ?_, .inr ⟨report, rfl, reported, ?_⟩⟩ <;>
          rw [if_pos target] <;> rfl
      · exact .inl ⟨old, older, by rw [if_neg target], .inl (by rw [if_neg target])⟩
  | _ =>
      exact .inl ⟨transaction, member, rfl, .inl rfl⟩

/-- A refund request keeps its transaction, and leaves the pending status only
for a final one, unless it is new or the movement settles it. -/
theorem refund_step (admitted : movement.Admitted books) {refund : RefundRequest}
    (member : refund ∈ movement.refunds books) :
    (∃ old ∈ books.refunds, refund.id = old.id ∧
        refund.transactionId = old.transactionId ∧
        (refund.status = old.status ∨
          old.status = .pending ∧ refund.status ≠ .pending ∧ refund.status ≠ .succeeded)) ∨
      (refund.id = books.refunds.nextId ∧ refund.transactionId = none) ∨
      ∃ order actorUserId decisionNote answer now,
        movement = .settleRefund order actorUserId decisionNote answer now ∧
          refund.id = order.refund.id ∧
          refund.transactionId = some books.transactions.nextId ∧
          refund.status = nextRefundStatus answer.status := by
  cases movement with
  | openRefund intent requestedByUserId amount reason evidenceItems =>
      simp only [refunds] at member
      rcases Table.eq_or_mem_of_insert member with rfl | older
      · exact .inr (.inl ⟨rfl, rfl⟩)
      · exact .inl ⟨refund, older, rfl, rfl, .inl rfl⟩
  | cancelRefund target now =>
      obtain ⟨old, older, rfl⟩ := Table.exists_of_update member
      by_cases same : Keyed.key old = target.id
      · obtain rfl : target = old := books.refunds.eq_of_key_eq
          (books.refunds.mem_of_find? admitted.1) older same.symm
        rw [if_pos same]
        exact .inl ⟨target, older, rfl, rfl,
          .inr ⟨admitted.2, by simp [canceledRefund], by simp [canceledRefund]⟩⟩
      · rw [if_neg same]
        exact .inl ⟨old, older, rfl, rfl, .inl rfl⟩
  | rejectRefund target actorUserId dto now =>
      obtain ⟨old, older, rfl⟩ := Table.exists_of_update member
      by_cases same : Keyed.key old = target.id
      · obtain rfl : target = old := books.refunds.eq_of_key_eq
          (books.refunds.mem_of_find? admitted.1) older same.symm
        rw [if_pos same]
        exact .inl ⟨target, older, rfl, rfl,
          .inr ⟨admitted.2, by simp [rejectedRefund], by simp [rejectedRefund]⟩⟩
      · rw [if_neg same]
        exact .inl ⟨old, older, rfl, rfl, .inl rfl⟩
  | settleRefund order actorUserId decisionNote answer now =>
      obtain ⟨between, betweenMember, rfl⟩ := Table.exists_of_update member
      obtain ⟨old, older, rfl⟩ := Table.exists_of_update betweenMember
      by_cases same : Keyed.key old = order.refund.id
      · refine .inr (.inr ⟨order, actorUserId, decisionNote, answer, now, rfl, ?_⟩)
        have approvedKey : Keyed.key
            (approvedRefund order.refund actorUserId decisionNote old) = order.refund.id := same
        rw [if_pos same, if_pos approvedKey]
        exact ⟨same, rfl, rfl⟩
      · rw [if_neg same, if_neg same]
        exact .inl ⟨old, older, rfl, rfl, .inl rfl⟩
  | _ =>
      exact .inl ⟨refund, member, rfl, rfl, .inl rfl⟩

/-- A payout is paid as it was, unless it is new or the movement settles it. -/
theorem payout_step (admitted : movement.Admitted books) {payout : Payout}
    (member : payout ∈ movement.payouts books) :
    (∃ old ∈ books.payouts, payout.id = old.id ∧
        (payout.status = .paid ↔ old.status = .paid) ∧
        ∀ settled actorUserId dto answer now,
          movement = .settlePayout settled actorUserId dto answer now →
            payout.id ≠ settled.id) ∨
      payout.id = books.payouts.nextId ∨
      ∃ settled actorUserId dto answer now,
        movement = .settlePayout settled actorUserId dto answer now ∧
          payout.id = settled.id ∧ payout.status = nextPayoutStatus answer.status := by
  cases movement with
  | openPayout intent actorUserId dto =>
      simp only [payouts] at member
      rcases Table.eq_or_mem_of_insert member with rfl | older
      · exact .inr (.inl rfl)
      · exact .inl ⟨payout, older, rfl, Iff.rfl, by simp⟩
  | approvePayout target actorUserId =>
      obtain ⟨old, older, rfl⟩ := Table.exists_of_update member
      by_cases same : Keyed.key old = target.id
      · obtain rfl : target = old := books.payouts.eq_of_key_eq
          (books.payouts.mem_of_find? admitted.1) older same.symm
        rw [if_pos same]
        exact .inl ⟨target, older, rfl, by simp [approvedPayout, admitted.2], by simp⟩
      · rw [if_neg same]
        exact .inl ⟨old, older, rfl, Iff.rfl, by simp⟩
  | settlePayout target actorUserId dto answer now =>
      obtain ⟨old, older, rfl⟩ := Table.exists_of_update member
      by_cases same : Keyed.key old = target.id
      · rw [if_pos same]
        exact .inr (.inr ⟨target, actorUserId, dto, answer, now, rfl, same, rfl⟩)
      · rw [if_neg same]
        refine .inl ⟨old, older, rfl, Iff.rfl, ?_⟩
        rintro settled _ _ _ _ ⟨rfl⟩
        exact same
  | _ =>
      exact .inl ⟨payout, member, rfl, Iff.rfl, by simp⟩

end Movement

/-! ## Every transaction has its owner -/

/-- Transactions of refunds and payouts belong to a request, a request points to
refunds only, and a pending one to nothing. -/
structure Books.Owned (books : Books) : Prop where
  refund_owner : ∀ transaction ∈ books.transactions, transaction.type = .refund →
    ∃ refund ∈ books.refunds, refund.transactionId = some transaction.id
  payout_owner : ∀ transaction ∈ books.transactions, transaction.type = .payout →
    ∃ payout ∈ books.payouts, transaction.idempotencyKey = payoutIdempotencyKey payout.id
  refund_type : ∀ refund ∈ books.refunds, ∀ transaction ∈ books.transactions,
    refund.transactionId = some transaction.id → transaction.type = .refund
  pending_unlinked : ∀ refund ∈ books.refunds, refund.status = .pending →
    refund.transactionId = none

theorem Books.initial_owned : Books.initial.Owned where
  refund_owner := by simp [Books.initial]
  payout_owner := by simp [Books.initial]
  refund_type := by simp [Books.initial]
  pending_unlinked := by simp [Books.initial]

section Owned

variable {books : Books} {movement : Movement}

/-- The transaction a request points to was there before, if it is not new. -/
theorem linked_before (foreignKeys : books.ForeignKeys) {refund : RefundRequest}
    (present : refund ∈ books.refunds) {transaction : PaymentTransaction}
    (linked : refund.transactionId = some transaction.id) :
    ∃ old, books.transactions.find? transaction.id = some old :=
  Option.isSome_iff_exists.mp
    (foreignKeys.refund_transaction refund present transaction.id linked)

/-- A request keeps pointing to its transaction. -/
theorem refund_link_kept (admitted : movement.Admitted books) (owned : books.Owned)
    {refund : RefundRequest} (present : refund ∈ books.refunds)
    {transactionId : TransactionId} (linked : refund.transactionId = some transactionId) :
    ∃ later ∈ movement.refunds books, later.id = refund.id ∧
      later.transactionId = some transactionId := by
  have found : books.refunds.find? refund.id = some refund :=
    books.refunds.find?_eq_some_iff.mpr ⟨present, rfl⟩
  obtain ⟨later, foundLater, _⟩ := Movement.refunds_evolve books movement _ _ found
  have member := (movement.refunds books).mem_of_find? foundLater
  have sameId : later.id = refund.id := (movement.refunds books).key_of_find? foundLater
  refine ⟨later, member, sameId, ?_⟩
  rcases Movement.refund_step admitted member with
    ⟨old, older, oldId, sameLink, _⟩ | ⟨newId, _⟩ | ⟨order, _, _, _, _, rfl, settledId, _⟩
  · have sameRow : old = refund :=
      books.refunds.eq_of_key_eq older present (oldId.symm.trans sameId)
    rw [sameLink, sameRow, linked]
  · have bound : refund.id < books.refunds.nextId := books.refunds.key_lt_nextId present
    rw [← sameId, newId] at bound
    exact absurd bound (lt_irrefl _)
  · have sameRow : order.refund = refund := books.refunds.eq_of_key_eq
      (books.refunds.mem_of_find? admitted.1) present (settledId.symm.trans sameId)
    have unlinked := owned.pending_unlinked refund present (sameRow ▸ admitted.2.1)
    rw [linked] at unlinked
    cases unlinked

theorem Movement.owned_apply (consistent : books.Consistent)
    (admitted : movement.Admitted books) (owned : books.Owned) :
    (movement.apply books).Owned where
  refund_owner := by
    intro transaction member isRefund
    rcases transaction_step admitted member with
      ⟨old, older, same, _⟩ |
        ⟨newId, charge |
          ⟨order, actorUserId, decisionNote, answer, now, rfl, rfl⟩ | ⟨_, _, _, _, _, _, rfl⟩⟩
    · have sameType : transaction.type = old.type :=
        field_eq same PaymentTransaction.type fun _ => rfl
      have sameId : transaction.id = old.id := field_eq same PaymentTransaction.id fun _ => rfl
      obtain ⟨refund, present, linked⟩ :=
        owned.refund_owner old older (sameType.symm.trans isRefund)
      obtain ⟨later, memberLater, _, linkedLater⟩ :=
        refund_link_kept admitted owned present linked
      exact ⟨later, memberLater, sameId ▸ linkedLater⟩
    · rw [charge] at isRefund
      cases isRefund
    · have settled : (refunds books
          (.settleRefund order actorUserId decisionNote answer now)).find? order.refund.id =
          some (settledRefund (refundRow order.refund answer now books.transactions.nextId)
            answer.status (approvedRefund order.refund actorUserId decisionNote order.refund)) := by
        simp only [refunds, Table.find?_update, admitted.1, if_true, Option.map_some]
      exact ⟨_, Table.mem_of_find? _ settled, rfl⟩
    · cases isRefund
  payout_owner := by
    intro transaction member isPayout
    rcases transaction_step admitted member with
      ⟨old, older, same, _⟩ |
        ⟨newId, charge | ⟨_, _, _, _, _, _, rfl⟩ | ⟨payout, _, dto, answer, now, rfl, rfl⟩⟩
    · have sameType : transaction.type = old.type :=
        field_eq same PaymentTransaction.type fun _ => rfl
      have sameKey : transaction.idempotencyKey = old.idempotencyKey :=
        field_eq same PaymentTransaction.idempotencyKey fun _ => rfl
      obtain ⟨payout, present, owns⟩ :=
        owned.payout_owner old older (sameType.symm.trans isPayout)
      have found : books.payouts.find? payout.id = some payout :=
        books.payouts.find?_eq_some_iff.mpr ⟨present, rfl⟩
      obtain ⟨later, foundLater, _⟩ := payouts_evolve books movement _ _ found
      have laterId : later.id = payout.id := (movement.payouts books).key_of_find? foundLater
      refine ⟨later, (movement.payouts books).mem_of_find? foundLater, ?_⟩
      rw [sameKey, owns, laterId]
    · rw [charge] at isPayout
      cases isPayout
    · cases isPayout
    · obtain ⟨later, foundLater, _⟩ := payouts_evolve books
        (.settlePayout payout _ dto answer now) _ _ admitted.1
      have laterId : later.id = payout.id := Table.key_of_find? _ foundLater
      refine ⟨later, Table.mem_of_find? _ foundLater, ?_⟩
      rw [laterId]
      rfl
  refund_type := by
    intro refund present transaction member linked
    rcases refund_step admitted present with
      ⟨old, older, _, sameLink, _⟩ | ⟨_, unlinked⟩ | ⟨order, _, _, _, _, rfl, _, newLink, _⟩
    · have oldLinked := sameLink.symm.trans linked
      obtain ⟨before, found⟩ := linked_before consistent.toForeignKeys older oldLinked
      have same := (transactions_evolve books movement).fixed_eq found member
      have sameId : transaction.id = before.id := field_eq same PaymentTransaction.id fun _ => rfl
      rw [field_eq same PaymentTransaction.type fun _ => rfl]
      exact owned.refund_type old older before (books.transactions.mem_of_find? found)
        (sameId ▸ oldLinked)
    · rw [unlinked] at linked
      cases linked
    · have newId : books.transactions.nextId = transaction.id :=
        Option.some.inj (newLink.symm.trans linked)
      simp only [apply, transactions] at member
      rcases Table.eq_or_mem_of_insert member with rfl | older
      · rfl
      · have bound : transaction.id < books.transactions.nextId :=
          books.transactions.key_lt_nextId older
        exact absurd newId.symm (Nat.ne_of_lt bound)
  pending_unlinked := by
    intro refund present pending
    rcases refund_step admitted present with
      ⟨old, older, _, sameLink, same | ⟨_, left, _⟩⟩ | ⟨_, unlinked⟩ |
        ⟨_, _, _, answer, _, _, _, _, status⟩
    · rw [sameLink]
      exact owned.pending_unlinked old older (same.symm.trans pending)
    · exact absurd pending left
    · exact unlinked
    · rw [status] at pending
      cases answered : answer.status <;>
        simp [nextRefundStatus, mapGatewayToTransactionStatus, answered] at pending

end Owned

/-! ## The three traces agree -/

def Books.RefundsAgree (books : Books) : Prop :=
  ∀ refund ∈ books.refunds, ∀ transaction ∈ books.transactions,
    refund.transactionId = some transaction.id →
      (refund.status = .succeeded ↔ transaction.status = .succeeded) ∧
        (transaction.status = .succeeded ↔ OneRefundGroup books.ledger transaction.id)

def Books.PayoutsAgree (books : Books) : Prop :=
  ∀ payout ∈ books.payouts, ∀ transaction ∈ books.transactions,
    transaction.type = .payout ∧
        transaction.idempotencyKey = payoutIdempotencyKey payout.id →
      (payout.status = .paid ↔ transaction.status = .succeeded) ∧
        (transaction.status = .succeeded ↔ OnePayoutPair books.ledger transaction.id)

/-- Requests, transactions and ledger tell the same about refunds and payouts. -/
def Books.RecordsAgree (books : Books) : Prop :=
  books.RefundsAgree ∧ books.PayoutsAgree

instance (books : Books) : Decidable books.RefundsAgree :=
  inferInstanceAs (Decidable (∀ refund ∈ books.refunds,
    ∀ transaction ∈ books.transactions, _ → _ ∧ _))

instance (books : Books) : Decidable books.PayoutsAgree :=
  inferInstanceAs (Decidable (∀ payout ∈ books.payouts,
    ∀ transaction ∈ books.transactions, _ → _ ∧ _))

instance (books : Books) : Decidable books.RecordsAgree :=
  inferInstanceAs (Decidable (_ ∧ _))

/-- A report on a refund or a payout is a success exactly if its transaction has
succeeded before. -/
def Movement.Confirms (_books : Books) : Movement → Prop
  | .applyReport report =>
      report.transaction.isOutgoing = true →
        (report.status = .succeeded ↔ report.transaction.status = .succeeded)
  | _ => True

section Agreement

variable {books : Books} {movement : Movement}

/-- A confirming movement does not settle an old refund or payout transaction. -/
theorem Movement.Confirms.succeeded_iff (confirms : movement.Confirms books)
    (admitted : movement.Admitted books) {transaction old : PaymentTransaction}
    (member : transaction ∈ movement.transactions books)
    (found : books.transactions.find? transaction.id = some old)
    (outgoing : old.isOutgoing = true) :
    transaction.status = .succeeded ↔ old.status = .succeeded := by
  rcases transaction_step admitted member with ⟨before, older, same, status⟩ | ⟨newId, _⟩
  · have sameId : transaction.id = before.id := field_eq same PaymentTransaction.id fun _ => rfl
    obtain rfl : before = old := books.transactions.eq_of_key_eq older
      (books.transactions.mem_of_find? found)
      (sameId.symm.trans (books.transactions.key_of_find? found).symm)
    rcases status with kept | ⟨report, rfl, rfl, reported⟩
    · rw [kept]
    · rw [reported, mapGatewayToTransactionStatus_eq_succeeded]
      exact confirms outgoing
  · have bound := books.transactions.key_lt_nextId (books.transactions.mem_of_find? found)
    rw [books.transactions.key_of_find? found, newId] at bound
    exact absurd bound (lt_irrefl _)

theorem id_ne_nextId {old : PaymentTransaction} {transactionId : TransactionId}
    (found : books.transactions.find? transactionId = some old) :
    transactionId ≠ books.transactions.nextId := by
  have bound := books.transactions.key_lt_nextId (books.transactions.mem_of_find? found)
  rw [books.transactions.key_of_find? found] at bound
  exact Nat.ne_of_lt bound

theorem oneRefundGroup_apply {transactionId : TransactionId}
    (older : transactionId ≠ books.transactions.nextId) :
    OneRefundGroup (movement.apply books).ledger transactionId ↔
      OneRefundGroup books.ledger transactionId := by
  rw [OneRefundGroup, entriesFor_apply_of_older movement older rfl,
    entriesFor_apply_of_older movement older rfl, OneRefundGroup]

theorem onePayoutPair_apply {transactionId : TransactionId}
    (older : transactionId ≠ books.transactions.nextId) :
    OnePayoutPair (movement.apply books).ledger transactionId ↔
      OnePayoutPair books.ledger transactionId := by
  rw [OnePayoutPair, entriesFor_apply_of_older movement older rfl, OnePayoutPair]

theorem Movement.refundsAgree_apply (consistent : books.Consistent)
    (admitted : movement.Admitted books) (owned : books.Owned)
    (holds : ∀ intentId, ∃ account, books.Holds intentId account)
    (agree : books.RefundsAgree) (confirms : movement.Confirms books) :
    (movement.apply books).RefundsAgree := by
  intro refund present transaction member linked
  rcases refund_step admitted present with
    ⟨old, older, _, sameLink, status⟩ | ⟨_, unlinked⟩ |
      ⟨order, actorUserId, decisionNote, answer, now, rfl, _, newLink, status⟩
  · have oldLinked := sameLink.symm.trans linked
    obtain ⟨before, found⟩ := linked_before consistent.toForeignKeys older oldLinked
    have beforeId : before.id = transaction.id := books.transactions.key_of_find? found
    have beforePresent := books.transactions.mem_of_find? found
    obtain ⟨statusAgrees, groupAgrees⟩ :=
      agree old older before beforePresent (beforeId.symm ▸ oldLinked)
    have isRefund := owned.refund_type old older before beforePresent
      (beforeId.symm ▸ oldLinked)
    have kept := confirms.succeeded_iff admitted member found
      (by simp [PaymentTransaction.isOutgoing, isRefund])
    have sameStatus : refund.status = .succeeded ↔ old.status = .succeeded := by
      rcases status with same | ⟨pending, _, unsettled⟩
      · rw [same]
      · simp [pending, unsettled]
    rw [oneRefundGroup_apply (id_ne_nextId found), kept, sameStatus, ← beforeId]
    exact ⟨statusAgrees, groupAgrees⟩
  · rw [unlinked] at linked
    cases linked
  · have newId : books.transactions.nextId = transaction.id :=
      Option.some.inj (newLink.symm.trans linked)
    obtain ⟨account, holdsIntent⟩ := holds order.intent.id
    have group := oneRefundGroup_settled consistent admitted holdsIntent
    simp only [apply, transactions] at member
    rcases Table.eq_or_mem_of_insert member with rfl | older
    · have reported : (refundRow order.refund answer now books.transactions.nextId).status =
          .succeeded ↔ answer.status = .succeeded := mapGatewayToTransactionStatus_eq_succeeded
      rw [status, nextRefundStatus_eq_succeeded, reported]
      exact ⟨Iff.rfl, group.symm⟩
    · have bound : transaction.id < books.transactions.nextId :=
        books.transactions.key_lt_nextId older
      exact absurd newId.symm (Nat.ne_of_lt bound)

theorem Movement.payoutsAgree_apply (consistent : books.Consistent)
    (admitted : movement.Admitted books) (owned : books.Owned)
    (agree : books.PayoutsAgree) (confirms : movement.Confirms books) :
    (movement.apply books).PayoutsAgree := by
  rintro payout present transaction member ⟨isPayout, carries⟩
  rcases transaction_step admitted member with
    ⟨before, beforePresent, same, _⟩ |
      ⟨newId, charge | ⟨_, _, _, _, _, _, rfl⟩ |
        ⟨settled, actorUserId, dto, answer, now, rfl, rfl⟩⟩
  · -- an old transaction: the payout is old too, and both keep their status
    have sameId : before.id = transaction.id :=
      (field_eq same PaymentTransaction.id fun _ => rfl).symm
    have found : books.transactions.find? transaction.id = some before :=
      books.transactions.find?_eq_some_iff.mpr ⟨beforePresent, sameId⟩
    have beforePayout : before.type = .payout :=
      (field_eq same PaymentTransaction.type fun _ => rfl).symm.trans isPayout
    have beforeKey : before.idempotencyKey = payoutIdempotencyKey payout.id :=
      (field_eq same PaymentTransaction.idempotencyKey fun _ => rfl).symm.trans carries
    have kept := confirms.succeeded_iff admitted member found
      (by simp [PaymentTransaction.isOutgoing, beforePayout])
    rcases payout_step admitted present with
      ⟨old, older, sameOld, status, _⟩ | newPayout | ⟨settled, _, dto, answer, _, rfl, settledId, _⟩
    · obtain ⟨statusAgrees, pairAgrees⟩ :=
        agree old older before beforePresent ⟨beforePayout, sameOld ▸ beforeKey⟩
      rw [onePayoutPair_apply (id_ne_nextId found), kept, status, ← sameId]
      exact ⟨statusAgrees, pairAgrees⟩
    · obtain ⟨owner, ownerPresent, owns⟩ :=
        owned.payout_owner before beforePresent beforePayout
      have ownerId : owner.id = payout.id :=
        payoutIdempotencyKey_inj.mp (owns.symm.trans beforeKey)
      have bound : owner.id < books.payouts.nextId := books.payouts.key_lt_nextId ownerPresent
      rw [ownerId, newPayout] at bound
      exact absurd bound (lt_irrefl _)
    · have unused := (Books.admitsTransaction_iff.mp admitted.2.2.1 before beforePresent).1
      exact absurd (settledId ▸ beforeKey) unused
  · rw [charge] at isPayout
    cases isPayout
  · cases isPayout
  · have settledId : settled.id = payout.id := payoutIdempotencyKey_inj.mp carries
    have pair := onePayoutPair_settled consistent.toForeignKeys settled actorUserId dto answer
      now
    have reported : (payoutRow settled dto answer now books.transactions.nextId).status =
        .succeeded ↔ answer.status = .succeeded := mapGatewayToTransactionStatus_eq_succeeded
    rcases payout_step admitted present with
      ⟨_, _, _, _, apart⟩ | newPayout | ⟨_, _, _, _, _, ⟨rfl⟩, _, status⟩
    · exact absurd settledId.symm (apart _ _ _ _ _ rfl)
    · have bound : settled.id < books.payouts.nextId :=
        books.payouts.key_lt_nextId (books.payouts.mem_of_find? admitted.1)
      rw [settledId, newPayout] at bound
      exact absurd bound (lt_irrefl _)
    · rw [status, nextPayoutStatus_eq_paid, reported]
      exact ⟨Iff.rfl, pair.symm⟩

theorem Movement.recordsAgree_apply_iff (consistent : books.Consistent)
    (admitted : movement.Admitted books) (owned : books.Owned)
    (holds : ∀ intentId, ∃ account, books.Holds intentId account)
    (agree : books.RecordsAgree) :
    (movement.apply books).RecordsAgree ↔ movement.Confirms books := by
  constructor
  · rintro ⟨refundsAfter, payoutsAfter⟩
    cases movement with
    | applyReport report =>
        intro outgoing
        have stored : report.transaction ∈ books.transactions :=
          books.transactions.mem_of_find? admitted
        have settled := Table.mem_of_find? _ (Report.find?_transactions admitted)
        have types := outgoing
        simp only [PaymentTransaction.isOutgoing, Bool.or_eq_true, decide_eq_true_eq] at types
        rcases types with isRefund | isPayout
        · obtain ⟨refund, present, linked⟩ := owned.refund_owner _ stored isRefund
          have before := (agree.1 refund present _ stored linked).1
          have after := (refundsAfter refund present _ settled linked).1
          rw [← mapGatewayToTransactionStatus_eq_succeeded, ← before]
          exact after.symm
        · obtain ⟨payout, present, owns⟩ := owned.payout_owner _ stored isPayout
          have before := (agree.2 payout present _ stored ⟨isPayout, owns⟩).1
          have after := (payoutsAfter payout present _ settled ⟨isPayout, owns⟩).1
          rw [← mapGatewayToTransactionStatus_eq_succeeded, ← before]
          exact after.symm
    | _ =>
        trivial
  · intro confirms
    exact ⟨refundsAgree_apply consistent admitted owned holds agree.1 confirms,
      payoutsAgree_apply consistent admitted owned agree.2 confirms⟩

end Agreement

/-- Along every run, refunds and payouts agree with their transactions and the
ledger exactly as long as webhooks and reconciliations report for them only what
the transaction says already. -/
theorem records_agree_iff (market : Marketplace) (operations : List Operation) :
    payments.Along (fun store operation => (operation.perform store).RecordsAgree)
        (Store.initial market) operations ↔
      payments.Along (fun store operation => operation.Meets Movement.Confirms store)
        (Store.initial market) operations := by
  refine @along_iff_meets
    (fun books => books.Owned ∧ ∀ intentId, ∃ account, books.Holds intentId account)
    Books.RecordsAgree _ ?_ ?_ ?_ ?_ ?_ market operations
  · rintro books movement consistent admitted ⟨owned, holds⟩
    refine ⟨Movement.owned_apply consistent admitted owned, fun intentId => ?_⟩
    obtain ⟨account, holdsIntent⟩ := holds intentId
    exact holds_apply consistent admitted holdsIntent
  · rintro books movement consistent admitted ⟨owned, holds⟩ agree
    exact Movement.recordsAgree_apply_iff consistent admitted owned holds agree
  · intro books movement preparatory
    cases movement <;> trivial
  · exact ⟨Books.initial_owned, Books.initial_holds⟩
  · constructor <;> simp [Books.initial, Books.RefundsAgree, Books.PayoutsAgree]

/-- A refund which the gateway leaves pending and a reconciliation settles. -/
theorem refund_left_processing :
    ¬ payments.Along (fun store operation => (operation.perform store).RecordsAgree)
      (Store.initial sampleMarketplace)
      [sampleSelection, .payIntent 0 0 ⟨none⟩ (sampleAnswer .succeeded "charge") 2,
        .adminCreateRefund 2 ⟨0, some ⟨100, by decide⟩, "Late", []⟩
          (sampleAnswer .pending "refund") 3,
        .reconcileTransaction 1 (sampleAnswer .succeeded "refund") 4] := by
  decide +kernel

end Tchuno.Payments
