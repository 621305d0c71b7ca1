import Tchuno.Payments.Settlement
import Tchuno.Payments.Uniqueness

/-!
# Settled at most once

The idempotency key of a refund or a payout is made of the identifier of its
request, so that the unique constraint leaves room for one transaction of each.  The
entries which settle it are appended together with that transaction and never later.
-/

namespace Tchuno.Payments

open Tchuno.Library

/-! ## Transactions and entries of a request -/

def PaymentTransaction.IsRefundOf (transaction : PaymentTransaction)
    (refundRequestId : RefundId) : Prop :=
  transaction.type = .refund ∧
    transaction.idempotencyKey = refundIdempotencyKey refundRequestId

def PaymentTransaction.IsPayoutOf (transaction : PaymentTransaction) (payoutId : PayoutId) :
    Prop :=
  transaction.type = .payout ∧ transaction.idempotencyKey = payoutIdempotencyKey payoutId

/-- The entries of refunds and payouts which reference the transaction. -/
def settlementGroup (ledger : List LedgerEntry) (transactionId : TransactionId) :
    List LedgerEntry :=
  ledger.filter fun entry =>
    entry.transactionId = some transactionId && entry.entryType.isSettlement

/-- The entries are what one refund appends for the transaction. -/
def PaymentTransaction.RefundGroup (transaction : PaymentTransaction)
    (group : List LedgerEntry) : Prop :=
  ∃ intent shares balances actorUserId,
    group = refundEntries intent transaction.id transaction.requestedAmount shares balances
      actorUserId

/-- The entries are the pair which pays the payout, with its amount. -/
def Payout.Pair (payout : Payout) (transactionId : TransactionId)
    (group : List LedgerEntry) : Prop :=
  ∃ actorUserId, group = payoutEntries payout transactionId actorUserId

/-- No transaction is settled twice, and what is paid was settled. -/
structure Books.SettledOnce (books : Books) : Prop where
  refund_group : ∀ transaction ∈ books.transactions, transaction.type = .refund →
    settlementGroup books.ledger transaction.id = [] ∨
      transaction.RefundGroup (settlementGroup books.ledger transaction.id)
  payout_pair : ∀ payout ∈ books.payouts, ∀ transaction ∈ books.transactions,
    transaction.IsPayoutOf payout.id →
      settlementGroup books.ledger transaction.id = [] ∨
        payout.Pair transaction.id (settlementGroup books.ledger transaction.id)
  paid_pair : ∀ payout ∈ books.payouts, payout.status = .paid →
    ∃ transaction ∈ books.transactions, transaction.IsPayoutOf payout.id ∧
      payout.Pair transaction.id (settlementGroup books.ledger transaction.id)

theorem Books.initial_settledOnce : Books.initial.SettledOnce where
  refund_group := by simp [Books.initial]
  payout_pair := by simp [Books.initial]
  paid_pair := by simp [Books.initial]

/-! ## Groups -/

theorem settlementGroup_append (first second : List LedgerEntry)
    (transactionId : TransactionId) :
    settlementGroup (first ++ second) transactionId =
      settlementGroup first transactionId ++ settlementGroup second transactionId := by
  simp [settlementGroup]

/-- Entries which all settle the transaction are its group. -/
theorem settlementGroup_eq_self {entries : List LedgerEntry} {transactionId : TransactionId}
    (settle : ∀ entry ∈ entries,
      entry.transactionId = some transactionId ∧ entry.entryType.isSettlement = true) :
    settlementGroup entries transactionId = entries := by
  refine List.filter_eq_self.mpr fun entry member => ?_
  simp [settle entry member]

theorem settlementGroup_eq_nil {entries : List LedgerEntry} {transactionId : TransactionId}
    (apart : ∀ entry ∈ entries, entry.entryType.isSettlement = true →
      entry.transactionId ≠ some transactionId) :
    settlementGroup entries transactionId = [] := by
  refine List.filter_eq_nil_iff.mpr fun entry member both => ?_
  simp only [Bool.and_eq_true, decide_eq_true_eq] at both
  exact apart entry member both.2 both.1

theorem refundEntries_settle (intent : PaymentIntent) (transactionId : TransactionId)
    (amount : Int) (shares : RefundShares) (balances : RefundableBalances)
    (actorUserId : UserId) :
    ∀ entry ∈ refundEntries intent transactionId amount shares balances actorUserId,
      entry.transactionId = some transactionId ∧ entry.entryType.isSettlement = true := by
  have reversal : ∀ actorType bucket share description,
      ∀ entry ∈ reversalEntry intent transactionId actorUserId actorType bucket share
        description,
        entry.transactionId = some transactionId ∧ entry.entryType.isSettlement = true := by
    intro actorType bucket share description entry member
    unfold reversalEntry at member
    split_ifs at member
    · obtain rfl := List.mem_singleton.mp member
      exact ⟨rfl, rfl⟩
    · cases member
  intro entry member
  simp only [refundEntries, List.mem_append, List.mem_singleton] at member
  rcases member with ((platform | held) | available) | rfl
  · exact reversal _ _ _ _ entry platform
  · exact reversal _ _ _ _ entry held
  · exact reversal _ _ _ _ entry available
  · exact ⟨rfl, rfl⟩

theorem payoutEntries_settle (payout : Payout) (transactionId : TransactionId)
    (actorUserId : UserId) :
    ∀ entry ∈ payoutEntries payout transactionId actorUserId,
      entry.transactionId = some transactionId ∧ entry.entryType.isSettlement = true := by
  intro entry member
  simp only [payoutEntries, providerTransfer, List.mem_cons, List.not_mem_nil,
    or_false] at member
  rcases member with rfl | rfl <;> exact ⟨rfl, rfl⟩

theorem refundEntries_ne_nil (intent : PaymentIntent) (transactionId : TransactionId)
    (amount : Int) (shares : RefundShares) (balances : RefundableBalances)
    (actorUserId : UserId) :
    refundEntries intent transactionId amount shares balances actorUserId ≠ [] := by
  simp [refundEntries]

/-! ## What the groups depend on -/

section Fixed

variable {transaction old : PaymentTransaction} (same : transaction.fixed = old.fixed)

include same

theorem id_of_fixed : transaction.id = old.id :=
  field_eq same PaymentTransaction.id fun _ => rfl

theorem isRefundOf_of_fixed (refundRequestId : RefundId) :
    transaction.IsRefundOf refundRequestId ↔ old.IsRefundOf refundRequestId := by
  rw [PaymentTransaction.IsRefundOf, field_eq same PaymentTransaction.type fun _ => rfl,
    field_eq same PaymentTransaction.idempotencyKey fun _ => rfl]
  rfl

theorem isPayoutOf_of_fixed (payoutId : PayoutId) :
    transaction.IsPayoutOf payoutId ↔ old.IsPayoutOf payoutId := by
  rw [PaymentTransaction.IsPayoutOf, field_eq same PaymentTransaction.type fun _ => rfl,
    field_eq same PaymentTransaction.idempotencyKey fun _ => rfl]
  rfl

theorem refundGroup_of_fixed (group : List LedgerEntry) :
    transaction.RefundGroup group ↔ old.RefundGroup group := by
  rw [PaymentTransaction.RefundGroup, id_of_fixed same,
    field_eq same PaymentTransaction.requestedAmount fun _ => rfl]
  rfl

end Fixed

theorem pair_of_fixed {payout old : Payout} (same : payout.fixed = old.fixed)
    (transactionId : TransactionId) (group : List LedgerEntry) :
    payout.Pair transactionId group ↔ old.Pair transactionId group := by
  have entries : ∀ actorUserId, payoutEntries payout transactionId actorUserId =
      payoutEntries old transactionId actorUserId := by
    intro actorUserId
    change payoutEntries payout.fixed transactionId actorUserId =
      payoutEntries old.fixed transactionId actorUserId
    rw [same]
  simp only [Payout.Pair, entries]

/-! ## Steps -/

/-- Every transaction is an old one with its group, or is settled for its request;
every payout is an old one, paid as it was or with this step, or a new one. -/
theorem Books.SettledOnce.step {before after : Books} (settled : before.SettledOnce)
    (evolve : Table.Evolves PaymentTransaction.fixed before.transactions after.transactions)
    (groups : ∀ old ∈ before.transactions,
      settlementGroup after.ledger old.id = settlementGroup before.ledger old.id)
    (transactions : ∀ transaction ∈ after.transactions,
      (∃ old ∈ before.transactions, transaction.fixed = old.fixed) ∨
      ((transaction.type = .refund →
          settlementGroup after.ledger transaction.id = [] ∨
            transaction.RefundGroup (settlementGroup after.ledger transaction.id)) ∧
        ∀ payout ∈ after.payouts, transaction.IsPayoutOf payout.id →
          settlementGroup after.ledger transaction.id = [] ∨
            payout.Pair transaction.id (settlementGroup after.ledger transaction.id)))
    (payouts : ∀ payout ∈ after.payouts,
      (∃ old ∈ before.payouts, payout.fixed = old.fixed ∧
        (payout.status = .paid → old.status = .paid ∨
          ∃ transaction ∈ after.transactions, transaction.IsPayoutOf payout.id ∧
            payout.Pair transaction.id (settlementGroup after.ledger transaction.id))) ∨
      (payout.status ≠ .paid ∧
        ∀ transaction ∈ before.transactions, ¬ transaction.IsPayoutOf payout.id)) :
    after.SettledOnce where
  refund_group := by
    intro transaction member isRefund
    rcases transactions transaction member with ⟨old, older, same⟩ | ⟨refund, _⟩
    · rw [refundGroup_of_fixed same, id_of_fixed same, groups old older]
      refine settled.refund_group old older ?_
      rw [← isRefund]
      exact (field_eq same PaymentTransaction.type fun _ => rfl).symm
    · exact refund isRefund
  payout_pair := by
    intro payout present transaction member isPayout
    rcases transactions transaction member with ⟨old, older, same⟩ | ⟨_, payoutPair⟩
    · rw [isPayoutOf_of_fixed same] at isPayout
      rcases payouts payout present with ⟨earlier, presentBefore, samePayout, _⟩ | ⟨_, unpaid⟩
      · rw [pair_of_fixed samePayout, id_of_fixed same, groups old older]
        refine settled.payout_pair earlier presentBefore old older ?_
        rwa [← field_eq samePayout Payout.id fun _ => rfl]
      · exact absurd isPayout (unpaid old older)
    · exact payoutPair payout present isPayout
  paid_pair := by
    intro payout present paid
    rcases payouts payout present with
      ⟨earlier, presentBefore, samePayout, paidSince⟩ | ⟨unpaid, _⟩
    · rcases paidSince paid with paidBefore | now
      · obtain ⟨old, older, isPayout, pair⟩ :=
          settled.paid_pair earlier presentBefore paidBefore
        obtain ⟨transaction, found, same⟩ := evolve old.id old
          (before.transactions.find?_eq_some_iff.mpr ⟨older, rfl⟩)
        refine ⟨transaction, after.transactions.mem_of_find? found, ?_, ?_⟩
        · rw [isPayoutOf_of_fixed same, field_eq samePayout Payout.id fun _ => rfl]
          exact isPayout
        · rw [pair_of_fixed samePayout, id_of_fixed same, groups old older]
          exact pair
      · exact now
    · exact absurd paid unpaid

/-- Nothing references a transaction which is not stored. -/
theorem settlementGroup_of_unused {books : Books}
    (known : ∀ entry ∈ books.ledger, ∀ transactionId,
      entry.transactionId = some transactionId →
        (books.transactions.find? transactionId).isSome)
    {transactionId : TransactionId}
    (unused : books.transactions.find? transactionId = none) :
    settlementGroup books.ledger transactionId = [] := by
  refine settlementGroup_eq_nil fun entry member _ linked => ?_
  have stored := known entry member transactionId linked
  rw [unused] at stored
  cases stored

/-! ## Operations one after the other -/

namespace Movement

variable {books : Books} {movement : Movement}

theorem settlementGroup_of_stored (books : Books) (movement : Movement)
    {old : PaymentTransaction} (older : old ∈ books.transactions) :
    settlementGroup (movement.apply books).ledger old.id =
      settlementGroup books.ledger old.id := by
  have different : old.id ≠ books.transactions.nextId :=
    Nat.ne_of_lt (books.transactions.key_lt_nextId older)
  have silent : settlementGroup (movement.entries books) old.id = [] := by
    refine settlementGroup_eq_nil fun entry member settlement linked => ?_
    have none := entriesFor_of_older books movement different settlement
    exact List.filter_eq_nil_iff.mp none entry member (by simp [linked])
  rw [apply, settlementGroup_append, silent, List.append_nil]

theorem settlementGroup_apply_nextId (foreignKeys : books.ForeignKeys) (movement : Movement)
    (settle : ∀ entry ∈ movement.entries books,
      entry.transactionId = some books.transactions.nextId ∧
        entry.entryType.isSettlement = true) :
    settlementGroup (movement.apply books).ledger books.transactions.nextId =
      movement.entries books := by
  rw [apply, settlementGroup_append,
    settlementGroup_of_unused foreignKeys.entry_transaction books.transactions.find?_nextId,
    settlementGroup_eq_self settle, List.nil_append]

theorem settleRefund_group (foreignKeys : books.ForeignKeys) (order : RefundOrder)
    (actorUserId : UserId) (decisionNote : Option String) (answer : GatewayResult)
    (now : Time) :
    settlementGroup (apply books (.settleRefund order actorUserId decisionNote answer
        now)).ledger books.transactions.nextId =
      entries books (.settleRefund order actorUserId decisionNote answer now) := by
  refine settlementGroup_apply_nextId foreignKeys _ fun entry member => ?_
  simp only [entries] at member
  split_ifs at member
  · exact refundEntries_settle _ _ _ _ _ _ entry member
  · cases member

theorem settlePayout_group (foreignKeys : books.ForeignKeys) (payout : Payout)
    (actorUserId : UserId) (dto : ProcessPayoutDto) (answer : GatewayResult) (now : Time) :
    settlementGroup (apply books (.settlePayout payout actorUserId dto answer now)).ledger
        books.transactions.nextId =
      entries books (.settlePayout payout actorUserId dto answer now) := by
  refine settlementGroup_apply_nextId foreignKeys _ fun entry member => ?_
  simp only [entries] at member
  split_ifs at member
  · exact payoutEntries_settle _ _ _ entry member
  · cases member

/-- A payout is an old one, paid as it was or settled by the movement, or new. -/
theorem payout_settled (foreignKeys : books.ForeignKeys)
    (admitted : movement.Admitted books) (owned : books.Owned) {payout : Payout}
    (member : payout ∈ movement.payouts books) :
    (∃ old ∈ books.payouts, payout.fixed = old.fixed ∧
      (payout.status = .paid → old.status = .paid ∨
        ∃ transaction ∈ movement.transactions books, transaction.IsPayoutOf payout.id ∧
          payout.Pair transaction.id
            (settlementGroup (apply books movement).ledger transaction.id))) ∨
    (payout.status ≠ .paid ∧
      ∀ transaction ∈ books.transactions, ¬ transaction.IsPayoutOf payout.id) := by
  cases movement with
  | openPayout intent actorUserId dto =>
      simp only [payouts] at member
      rcases Table.eq_or_mem_of_insert member with rfl | older
      · refine .inr ⟨by simp [pendingPayout], fun transaction stored isPayout => ?_⟩
        obtain ⟨owner, present, owns⟩ := owned.payout_owner transaction stored isPayout.1
        have sameId : owner.id = books.payouts.nextId :=
          payoutIdempotencyKey_inj.mp (owns.symm.trans isPayout.2)
        exact Nat.ne_of_lt (books.payouts.key_lt_nextId present) sameId
      · exact .inl ⟨payout, older, rfl, .inl⟩
  | approvePayout target actorUserId =>
      obtain ⟨old, older, rfl⟩ := Table.exists_of_update member
      split_ifs
      · exact .inl ⟨old, older, rfl, by simp [approvedPayout]⟩
      · exact .inl ⟨old, older, rfl, .inl⟩
  | settlePayout target actorUserId dto answer now =>
      obtain ⟨old, older, rfl⟩ := Table.exists_of_update member
      by_cases same : Keyed.key old = target.id
      · obtain rfl : target = old := books.payouts.eq_of_key_eq
          (books.payouts.mem_of_find? admitted.1) older same.symm
        rw [if_pos same]
        refine .inl ⟨target, older, rfl, fun paid => .inr ?_⟩
        have succeeded : answer.status = .succeeded := nextPayoutStatus_eq_paid.mp paid
        refine ⟨_, Table.mem_of_find? _ (books.transactions.find?_insert_nextId
          (payoutRow target dto answer now) fun _ => rfl), ⟨rfl, rfl⟩, actorUserId, ?_⟩
        refine (settlePayout_group foreignKeys target actorUserId dto answer now).trans ?_
        rw [entries, if_pos succeeded]
        rfl
      · rw [if_neg same]
        exact .inl ⟨old, older, rfl, .inl⟩
  | _ =>
      exact .inl ⟨payout, member, rfl, .inl⟩

theorem settledOnce_apply (foreignKeys : books.ForeignKeys)
    (admitted : movement.Admitted books) (owned : books.Owned)
    (settled : books.SettledOnce) : (movement.apply books).SettledOnce := by
  refine settled.step (transactions_evolve books movement)
    (fun old older => settlementGroup_of_stored books movement older)
    (fun transaction member => ?_)
    fun payout member => payout_settled foreignKeys admitted owned member
  rcases transaction_step admitted member with ⟨old, older, same, _⟩ |
    ⟨_, charge | ⟨order, actorUserId, decisionNote, answer, now, rfl, rfl⟩ |
      ⟨target, actorUserId, dto, answer, now, rfl, rfl⟩⟩
  · exact .inl ⟨old, older, same⟩
  · refine .inr ⟨fun isRefund => ?_, fun _ _ isPayout => ?_⟩
    · rw [charge] at isRefund
      cases isRefund
    · have isPayout := isPayout.1
      rw [charge] at isPayout
      cases isPayout
  · refine .inr ⟨fun _ => ?_, fun _ _ isPayout => by cases isPayout.1⟩
    have group := settleRefund_group foreignKeys order actorUserId decisionNote answer now
    rw [entries] at group
    split_ifs at group
    · exact .inr ⟨_, _, _, _, group⟩
    · exact .inl group
  · refine .inr ⟨fun isRefund => (by cases isRefund), fun payout present isPayout => ?_⟩
    have sameId : target.id = payout.id := payoutIdempotencyKey_inj.mp isPayout.2
    have group := settlePayout_group foreignKeys target actorUserId dto answer now
    rw [entries] at group
    split_ifs at group
    · refine .inr ⟨actorUserId, group.trans ?_⟩
      have found := admitted.1
      rw [sameId] at found
      change payoutEntries target.fixed _ _ = payoutEntries payout.fixed _ _
      rw [(payouts_evolve books _).fixed_eq found present]
      rfl
    · exact .inl group

end Movement

theorem reachable_settledOnce {store : Store}
    (reachable : payments.Reachable Store.IsInitial store) : store.SettledOnce := by
  refine (@reachable_invariant (fun books => books.Owned ∧ books.SettledOnce) ?_
    ⟨Books.initial_owned, Books.initial_settledOnce⟩ store reachable).2.2
  rintro books movement consistent admitted ⟨owned, settled⟩
  exact ⟨Movement.owned_apply consistent admitted owned,
    Movement.settledOnce_apply consistent.toForeignKeys admitted owned settled⟩

/-! ## Requests and their transactions -/

/-- Every transaction of a refund carries the key of the request which points to it, and
what a request points to carries the request's key; every transaction of a payout carries
the key of its payout. -/
structure Books.SettlementKeys (books : Books) : Prop where
  refund_key : ∀ transaction ∈ books.transactions, transaction.type = .refund →
    ∃ refund ∈ books.refunds, transaction.IsRefundOf refund.id ∧
      refund.transactionId = some transaction.id
  link_key : ∀ refund ∈ books.refunds, ∀ transactionId,
    refund.transactionId = some transactionId →
      ∃ transaction ∈ books.transactions, transaction.id = transactionId ∧
        transaction.IsRefundOf refund.id
  payout_key : ∀ transaction ∈ books.transactions, transaction.type = .payout →
    ∃ payout ∈ books.payouts, transaction.IsPayoutOf payout.id

theorem Books.initial_settlementKeys : Books.initial.SettlementKeys where
  refund_key := by simp [Books.initial]
  link_key := by simp [Books.initial]
  payout_key := by simp [Books.initial]

/-- A new transaction belongs to a request or a payout, and a request which points to a
transaction has done so before or points to its own. -/
theorem Books.SettlementKeys.step {before after : Books} (keys : before.SettlementKeys)
    (evolve : Table.Evolves PaymentTransaction.fixed before.transactions after.transactions)
    (payouts : Table.Evolves Payout.fixed before.payouts after.payouts)
    (kept : ∀ transaction ∈ before.transactions, transaction.type = .refund →
      ∀ refund ∈ before.refunds, transaction.IsRefundOf refund.id →
        refund.transactionId = some transaction.id →
          ∃ later ∈ after.refunds, later.id = refund.id ∧
            later.transactionId = some transaction.id)
    (transactions : ∀ transaction ∈ after.transactions,
      (∃ old ∈ before.transactions, transaction.fixed = old.fixed) ∨
      ((transaction.type = .refund → ∃ refund ∈ after.refunds,
          transaction.IsRefundOf refund.id ∧ refund.transactionId = some transaction.id) ∧
        (transaction.type = .payout → ∃ payout ∈ after.payouts,
          transaction.IsPayoutOf payout.id)))
    (refunds : ∀ refund ∈ after.refunds, ∀ transactionId,
      refund.transactionId = some transactionId →
        (∃ old ∈ before.refunds, refund.id = old.id ∧
          old.transactionId = some transactionId) ∨
        ∃ transaction ∈ after.transactions, transaction.id = transactionId ∧
          transaction.IsRefundOf refund.id) :
    after.SettlementKeys where
  refund_key := by
    intro transaction member isRefund
    rcases transactions transaction member with ⟨old, older, same⟩ | ⟨refund, _⟩
    · have sameType : transaction.type = old.type :=
        field_eq same PaymentTransaction.type fun _ => rfl
      have oldRefund := sameType.symm.trans isRefund
      obtain ⟨refund, present, isOf, linked⟩ := keys.refund_key old older oldRefund
      obtain ⟨later, laterPresent, sameId, laterLinked⟩ :=
        kept old older oldRefund refund present isOf linked
      refine ⟨later, laterPresent, ?_, ?_⟩
      · rw [isRefundOf_of_fixed same, sameId]
        exact isOf
      · rw [id_of_fixed same]
        exact laterLinked
    · exact refund isRefund
  link_key := by
    intro refund present transactionId linked
    rcases refunds refund present transactionId linked with
      ⟨old, older, sameId, linkedBefore⟩ | found
    · obtain ⟨transaction, member, rfl, isOf⟩ :=
        keys.link_key old older transactionId linkedBefore
      obtain ⟨later, found, same⟩ := evolve transaction.id transaction
        (before.transactions.find?_eq_some_iff.mpr ⟨member, rfl⟩)
      refine ⟨later, after.transactions.mem_of_find? found, id_of_fixed same, ?_⟩
      rw [isRefundOf_of_fixed same, sameId]
      exact isOf
    · exact found
  payout_key := by
    intro transaction member isPayout
    rcases transactions transaction member with ⟨old, older, same⟩ | ⟨_, payout⟩
    · have sameType : transaction.type = old.type :=
        field_eq same PaymentTransaction.type fun _ => rfl
      obtain ⟨payout, present, isOf⟩ :=
        keys.payout_key old older (sameType.symm.trans isPayout)
      obtain ⟨later, found, samePayout⟩ := payouts payout.id payout
        (before.payouts.find?_eq_some_iff.mpr ⟨present, rfl⟩)
      refine ⟨later, after.payouts.mem_of_find? found, ?_⟩
      rw [isPayoutOf_of_fixed same, field_eq samePayout Payout.id fun _ => rfl]
      exact isOf
    · exact payout isPayout

theorem Movement.settlementKeys_apply {books : Books} {movement : Movement}
    (admitted : movement.Admitted books) (owned : books.Owned)
    (keys : books.SettlementKeys) : (movement.apply books).SettlementKeys := by
  refine keys.step (transactions_evolve books movement) (payouts_evolve books movement)
    (fun _ _ _ refund present _ linked => refund_link_kept admitted owned present linked)
    (fun transaction member => ?_) fun refund member transactionId linked => ?_
  · rcases transaction_step admitted member with ⟨old, older, same, _⟩ |
      ⟨_, charge | ⟨order, actorUserId, decisionNote, answer, now, rfl, rfl⟩ |
        ⟨payout, actorUserId, dto, answer, now, rfl, rfl⟩⟩
    · exact .inl ⟨old, older, same⟩
    · rw [charge]
      exact .inr ⟨fun isRefund => (by cases isRefund), fun isPayout => (by cases isPayout)⟩
    · refine .inr ⟨fun _ => ?_, fun isPayout => (by cases isPayout)⟩
      have settled : (refunds books
          (.settleRefund order actorUserId decisionNote answer now)).find? order.refund.id =
          some (settledRefund (refundRow order.refund answer now books.transactions.nextId)
            answer.status (approvedRefund order.refund actorUserId decisionNote order.refund)) := by
        simp only [refunds, Table.find?_update, admitted.1, if_true, Option.map_some]
      exact ⟨_, Table.mem_of_find? _ settled, ⟨rfl, rfl⟩, rfl⟩
    · refine .inr ⟨fun isRefund => (by cases isRefund), fun _ => ?_⟩
      obtain ⟨later, found, same⟩ := payouts_evolve books
        (.settlePayout payout actorUserId dto answer now) payout.id payout admitted.1
      refine ⟨later, Table.mem_of_find? _ found, rfl, ?_⟩
      rw [field_eq same Payout.id fun _ => rfl]
      rfl
  · rcases refund_step admitted member with ⟨old, older, sameId, sameLink, _⟩ |
      ⟨_, unlinked⟩ | ⟨order, actorUserId, decisionNote, answer, now, rfl, sameId, newLink, _⟩
    · exact .inl ⟨old, older, sameId, sameLink.symm.trans linked⟩
    · rw [unlinked] at linked
      cases linked
    · obtain rfl := Option.some.inj (newLink.symm.trans linked)
      refine .inr ⟨_, Table.mem_of_find? _ (books.transactions.find?_insert_nextId
        (refundRow order.refund answer now) fun _ => rfl), rfl, rfl, ?_⟩
      rw [sameId]
      rfl

/-- Every request has its job. -/
def Books.RefundJobs (books : Books) : Prop :=
  ∀ refund ∈ books.refunds, (books.jobs.find? refund.jobId).isSome

theorem Movement.refundJobs_apply {books : Books} {movement : Movement}
    (consistent : books.Consistent) (admitted : movement.Admitted books)
    (jobs : books.RefundJobs) : (movement.apply books).RefundJobs := by
  intro refund member
  have kept : ∀ jobId, (books.jobs.find? jobId).isSome →
      ((movement.apply books).jobs.find? jobId).isSome := fun _ =>
    (jobs_evolve books movement).isSome_find?
  rcases refund_origin admitted member with
    ⟨old, older, same, _⟩ | ⟨_, _, _, intent, present, sameJob, _⟩
  · rw [field_eq same RefundRequest.jobId fun _ => rfl]
    exact kept _ (jobs old older)
  · rw [sameJob]
    exact kept _ (consistent.intent_job intent (books.intents.mem_of_find? present))

theorem reachable_owned {store : Store}
    (reachable : payments.Reachable Store.IsInitial store) : store.Owned :=
  (reachable_invariant (fun _ _ => Movement.owned_apply) Books.initial_owned reachable).2

theorem reachable_settlementKeys {store : Store}
    (reachable : payments.Reachable Store.IsInitial store) : store.SettlementKeys := by
  refine (@reachable_invariant (fun books => books.Owned ∧ books.SettlementKeys) ?_
    ⟨Books.initial_owned, Books.initial_settlementKeys⟩ store reachable).2.2
  rintro books movement consistent admitted ⟨owned, keys⟩
  exact ⟨Movement.owned_apply consistent admitted owned,
    Movement.settlementKeys_apply admitted owned keys⟩

theorem reachable_refundJobs {store : Store}
    (reachable : payments.Reachable Store.IsInitial store) : store.RefundJobs :=
  (reachable_invariant (fun _ _ => Movement.refundJobs_apply)
    (by simp [Books.RefundJobs, Books.initial]) reachable).2

/-- Nothing was paid back for a pending request. -/
theorem Books.SettlementKeys.unposted {books : Books} (keys : books.SettlementKeys)
    (owned : books.Owned) {refund : RefundRequest} (present : refund ∈ books.refunds)
    (pending : refund.status = .pending) :
    ∀ transaction ∈ books.transactions, ¬ transaction.IsRefundOf refund.id := by
  intro transaction member isRefund
  obtain ⟨other, otherPresent, isOther, linked⟩ := keys.refund_key transaction member isRefund.1
  have sameId : other.id = refund.id :=
    refundIdempotencyKey_inj.mp (isOther.2.symm.trans isRefund.2)
  obtain rfl : other = refund := books.refunds.eq_of_key_eq otherPresent present sameId
  rw [owned.pending_unlinked other present pending] at linked
  cases linked

end Tchuno.Payments
