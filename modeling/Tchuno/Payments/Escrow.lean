import Tchuno.Library.Escrow
import Tchuno.Payments.Runs

/-!
# The ledger of an intent is an escrow account

Read bucket by bucket, the entries of one payment intent are the balances of an
escrow account: a charge, a release, a payout and a refund of the ledger are the
movements of the account of the same name, and the checks the services make are
the bounds those movements ask for.  Conservation and non-negative balances are
then facts about escrow accounts.
-/

namespace Tchuno.Payments

open Tchuno.Library

/-- The balance of a bucket in an escrow account; what the customer paid is owed
to the customer's side. -/
def bucketBalance (account : Escrow Int) : LedgerBalanceBucket → Int
  | .customerExternal => -account.paid
  | .platformReserved => account.reserved
  | .platformAvailable => 0
  | .providerHeld => account.held
  | .providerAvailable => account.available
  | .providerPaidOut => account.paidOut

/-- The entries of the intent have the balances of the account. -/
def Books.Holds (books : Books) (intentId : IntentId) (account : Escrow Int) : Prop :=
  ∀ bucket, Journal.balance (intentJournal books.ledger intentId) bucket =
    bucketBalance account bucket

theorem computeBucketNet_of_holds {books : Books} (consistent : books.Consistent)
    {intentId : IntentId} {account : Escrow Int} (holds : books.Holds intentId account)
    (bucket : LedgerBalanceBucket) :
    computeBucketNet books.ledger bucket (ofIntent bucket.actorType (some intentId)) =
      bucketBalance account bucket := by
  rw [computeBucketNet_ofIntent consistent.entry_actor, holds]

/-! ## Balances of the entry groups -/

theorem intentJournal_of_booked {entries : List LedgerEntry} {intentId : IntentId}
    {transactionId : Option TransactionId}
    (booked : ∀ entry ∈ entries, entry.BookedFor (some intentId) transactionId) :
    intentJournal entries intentId = entries.map LedgerEntry.posting := by
  rw [intentJournal, List.filter_eq_self.mpr]
  intro entry member
  simpa using (booked entry member).1

theorem intentJournal_of_other {entries : List LedgerEntry} {intentId : IntentId}
    {target : Option IntentId} {transactionId : Option TransactionId}
    (booked : ∀ entry ∈ entries, entry.BookedFor target transactionId)
    (other : target ≠ some intentId) : intentJournal entries intentId = [] := by
  rw [intentJournal, List.filter_eq_nil_iff.mpr, List.map_nil]
  intro entry member
  rw [(booked entry member).1]
  simpa using other

theorem balance_chargeEntries (intent : PaymentIntent) (transactionId : TransactionId)
    (bucket : LedgerBalanceBucket) :
    Journal.balance (intentJournal (chargeEntries intent transactionId) intent.id) bucket =
      match bucket with
      | .customerExternal => -intent.amount
      | .platformReserved => intent.platformFeeAmount
      | .providerHeld => intent.providerNetAmount
      | _ => 0 := by
  rw [intentJournal_of_booked (chargeEntries_booked intent transactionId)]
  cases bucket <;>
    simp [chargeEntries, Journal.balance_cons, LedgerEntry.posting, LedgerEntry.signedAmount]

theorem balance_providerTransfer {jobId : Option JobId} {intentId : IntentId}
    {transactionId : Option TransactionId} {entryType : LedgerEntryType} {amount : Int}
    {currency sourceText targetText : String} {source target : LedgerBalanceBucket}
    {actorUserId : UserId} (bucket : LedgerBalanceBucket) :
    Journal.balance
        (intentJournal
          (providerTransfer jobId (some intentId) transactionId entryType amount currency
            source target sourceText targetText actorUserId) intentId) bucket =
      (if source = bucket then -amount else 0) + if target = bucket then amount else 0 := by
  simp [intentJournal, providerTransfer, Journal.balance_cons, LedgerEntry.posting,
    LedgerEntry.signedAmount]

theorem balance_reversalEntry (intent : PaymentIntent) (transactionId : TransactionId)
    (actorUserId : UserId) (actorType : PaymentActorType) (target : LedgerBalanceBucket)
    {amount : Int} (nonneg : 0 ≤ amount) (description : String)
    (bucket : LedgerBalanceBucket) :
    Journal.balance
        (intentJournal
          (reversalEntry intent transactionId actorUserId actorType target amount
            description) intent.id) bucket =
      if target = bucket then -amount else 0 := by
  unfold reversalEntry
  split_ifs with positive same same
  · simp [intentJournal, Journal.balance_cons, LedgerEntry.posting,
      LedgerEntry.signedAmount, same]
  · simp [intentJournal, Journal.balance_cons, LedgerEntry.posting,
      LedgerEntry.signedAmount, same]
  · have : amount = 0 := by omega
    simp [intentJournal, this]
  · simp [intentJournal]

/-- Both shares of a refund are between nothing and the whole refund. -/
theorem refundShares_bounds {intent : PaymentIntent} (split : intent.IsSplit)
    {amount : Int} (positive : 1 ≤ amount) (small : amount ≤ columnMax) :
    0 ≤ (refundShares intent amount).platformPart ∧
      0 ≤ (refundShares intent amount).providerPart ∧
      (refundShares intent amount).platformPart +
        (refundShares intent amount).providerPart = amount := by
  obtain ⟨fee_nonneg, fee_le, _⟩ := split
  unfold refundShares
  by_cases free : intent.amount = 0
  · simp only [free, if_true]
    omega
  · have amount_pos : 0 < intent.amount := by omega
    have amount_pos' : (0 : ℚ) < intent.amount := by exact_mod_cast amount_pos
    have refund_pos' : (0 : ℚ) < amount := by exact_mod_cast positive
    have fee_nonneg' : (0 : ℚ) ≤ intent.platformFeeAmount := by exact_mod_cast fee_nonneg
    have fee_le' : (intent.platformFeeAmount : ℚ) ≤ intent.amount := by
      exact_mod_cast fee_le
    have product_nonneg : (0 : ℚ) ≤ amount * intent.platformFeeAmount := by
      positivity
    have share_le :
        (amount * intent.platformFeeAmount : ℚ) / intent.amount ≤ (amount : Int) := by
      rw [div_le_iff₀ amount_pos']
      exact mul_le_mul_of_nonneg_left fee_le' refund_pos'.le
    have low := Ecma.mathRound_nonneg (Ecma.toDouble_nonneg
      (div_nonneg (Ecma.toDouble_nonneg product_nonneg) amount_pos'.le))
    have moderate : amount ≤ 2 ^ 50 := small.trans (by decide)
    have high := Ecma.mathRound_toDouble_div_le amount_pos' product_nonneg share_le moderate
    simp only [free, if_false]
    omega

/-- The shares of a refund which is settled. -/
theorem RefundOrder.shares_bounds {books : Books} (consistent : books.Consistent)
    {order : RefundOrder} (stored : books.refunds.find? order.refund.id = some order.refund)
    (found : books.intents.find? order.refund.paymentIntentId = some order.intent) :
    0 ≤ (refundShares order.intent order.refund.amount).platformPart ∧
      0 ≤ (refundShares order.intent order.refund.amount).providerPart ∧
      (refundShares order.intent order.refund.amount).platformPart +
        (refundShares order.intent order.refund.amount).providerPart = order.refund.amount := by
  have present := books.refunds.mem_of_find? stored
  exact refundShares_bounds (consistent.intent_split _ (books.intents.mem_of_find? found))
    (consistent.refund_amount _ present) (consistent.refund_column _ present)

theorem balance_refundEntries (intent : PaymentIntent) (transactionId : TransactionId)
    (amount : Int) {shares : RefundShares} {balances : RefundableBalances}
    (platform_nonneg : 0 ≤ shares.platformPart) (provider_nonneg : 0 ≤ shares.providerPart)
    (held_nonneg : 0 ≤ balances.providerHeld) (actorUserId : UserId)
    (bucket : LedgerBalanceBucket) :
    Journal.balance
        (intentJournal
          (refundEntries intent transactionId amount shares balances actorUserId)
          intent.id) bucket =
      match bucket with
      | .customerExternal => amount
      | .platformReserved => -shares.platformPart
      | .providerHeld => -min balances.providerHeld shares.providerPart
      | .providerAvailable =>
          -(shares.providerPart - min balances.providerHeld shares.providerPart)
      | _ => 0 := by
  have heldDebit_nonneg : 0 ≤ min balances.providerHeld shares.providerPart :=
    le_min held_nonneg provider_nonneg
  have availableDebit_nonneg :
      0 ≤ shares.providerPart - min balances.providerHeld shares.providerPart := by
    have := min_le_right balances.providerHeld shares.providerPart
    omega
  simp only [refundEntries, intentJournal_append, Journal.balance_append]
  rw [balance_reversalEntry _ _ _ _ _ platform_nonneg,
    balance_reversalEntry _ _ _ _ _ heldDebit_nonneg,
    balance_reversalEntry _ _ _ _ _ availableDebit_nonneg]
  cases bucket <;>
    simp [intentJournal, Journal.balance_cons, LedgerEntry.posting, LedgerEntry.signedAmount]

/-! ## Movements of the account -/

section Steps

variable {books : Books} {intentId : IntentId} {account : Escrow Int}

theorem refundableBalances_of_holds (consistent : books.Consistent)
    (holds : books.Holds intentId account) :
    refundableBalances books.ledger intentId =
      ⟨account.reserved, account.held, account.available⟩ := by
  have reserved := computeBucketNet_of_holds consistent holds .platformReserved
  have held := computeBucketNet_of_holds consistent holds .providerHeld
  have available := computeBucketNet_of_holds consistent holds .providerAvailable
  simp only [LedgerBalanceBucket.actorType, bucketBalance] at reserved held available
  rw [refundableBalances, reserved, held, available]

theorem holds_append (holds : books.Holds intentId account) {movement : Movement}
    {after : Escrow Int}
    (moved : ∀ bucket, bucketBalance account bucket +
      Journal.balance (intentJournal (movement.entries books) intentId) bucket =
        bucketBalance after bucket) :
    (Movement.apply books movement).Holds intentId after := by
  intro bucket
  rw [Movement.apply, intentJournal_append, Journal.balance_append, holds bucket]
  exact moved bucket

theorem holds_of_silent (holds : books.Holds intentId account) {movement : Movement}
    (silent : intentJournal (movement.entries books) intentId = []) :
    (Movement.apply books movement).Holds intentId account := by
  refine holds_append holds fun bucket => ?_
  rw [silent, Journal.balance_nil, add_zero]

/-- Every movement takes the intent's escrow account to an escrow account. -/
theorem holds_apply (consistent : books.Consistent) {movement : Movement}
    (admitted : movement.Admitted books) (holds : books.Holds intentId account) :
    ∃ after, (Movement.apply books movement).Holds intentId after := by
  have booked := Movement.entries_booked books movement
  by_cases target : movement.intentOf books = some intentId
  swap
  · exact ⟨account, holds_of_silent holds (intentJournal_of_other booked target)⟩
  cases movement with
  | applyReport report =>
      obtain ⟨intent, opened, rfl⟩ := Option.map_eq_some_iff.mp target
      by_cases posts : report.posts books
      · have present : intent ∈ books.intents := by
          obtain ⟨_, _, found⟩ := Option.bind_eq_some_iff.mp opened
          exact books.intents.mem_of_find? found
        obtain ⟨fee_nonneg, fee_le, adds⟩ := consistent.intent_split intent present
        refine ⟨account.charge intent.platformFeeAmount intent.providerNetAmount fee_nonneg
          (by omega), holds_append holds fun bucket => ?_⟩
        simp only [Movement.entries, opened, posts, if_true, balance_chargeEntries]
        cases bucket <;> (simp [bucketBalance, Escrow.charge]; try omega)
      · refine ⟨account, holds_of_silent holds ?_⟩
        simp [Movement.entries, opened, posts, intentJournal]
  | settleRefund order actorUserId decisionNote answer now =>
      obtain rfl : order.intent.id = intentId := Option.some.inj target
      obtain ⟨stored, _, foundIntent, settles⟩ := admitted
      by_cases succeeded : answer.status = .succeeded
      · obtain ⟨platform_nonneg, provider_nonneg, adds⟩ :=
          order.shares_bounds consistent stored foundIntent
        have balances := refundableBalances_of_holds consistent holds
        have covered := settles.2 succeeded
        simp only [RefundOrder.Covered, balances] at covered
        refine ⟨account.refund _ _ covered.1 covered.2, holds_append holds fun bucket => ?_⟩
        simp only [Movement.entries, succeeded, if_true, balances]
        rw [balance_refundEntries _ _ _ platform_nonneg provider_nonneg account.held_nonneg]
        cases bucket <;> simp [bucketBalance, Escrow.refund] <;> omega
      · refine ⟨account, holds_of_silent holds ?_⟩
        simp [Movement.entries, succeeded, intentJournal]
  | settlePayout payout actorUserId dto answer now =>
      have linked : payout.paymentIntentId = some intentId := target
      obtain ⟨stored, _, settles⟩ := admitted
      by_cases succeeded : answer.status = .succeeded
      · have positive := consistent.payout_amount _ (books.payouts.mem_of_find? stored)
        have covered := settles.2 succeeded
        have available := computeBucketNet_of_holds consistent holds .providerAvailable
        simp only [LedgerBalanceBucket.actorType, bucketBalance] at available
        rw [providerAvailable, linked, available] at covered
        refine ⟨account.payOut payout.amount (by omega) covered,
          holds_append holds fun bucket => ?_⟩
        simp only [Movement.entries, succeeded, if_true, payoutEntries, linked,
          balance_providerTransfer]
        cases bucket <;> (simp [bucketBalance, Escrow.payOut]; try omega)
      · refine ⟨account, holds_of_silent holds ?_⟩
        simp [Movement.entries, succeeded, intentJournal]
  | releaseFunds intent actorUserId =>
      obtain rfl : intent.id = intentId := Option.some.inj target
      have held := computeBucketNet_of_holds consistent holds .providerHeld
      simp only [LedgerBalanceBucket.actorType, bucketBalance] at held
      refine ⟨account.release, holds_append holds fun bucket => ?_⟩
      simp only [Movement.entries, releaseEntries, held, balance_providerTransfer]
      cases bucket <;> simp [bucketBalance, Escrow.release]
  | _ =>
      simp [Movement.intentOf] at target

end Steps

theorem Books.initial_holds (intentId : IntentId) :
    ∃ account, Books.initial.Holds intentId account := by
  refine ⟨Escrow.empty, fun bucket => ?_⟩
  cases bucket <;> simp [Books.initial, intentJournal, bucketBalance, Escrow.empty]

/-- In every reachable store the entries of an intent are an escrow account. -/
theorem reachable_holds {store : Store}
    (reachable : payments.Reachable Store.IsInitial store) (intentId : IntentId) :
    ∃ account, store.Holds intentId account := by
  refine (@reachable_invariant (fun books => ∃ account, books.Holds intentId account)
    ?_ (Books.initial_holds intentId) store reachable).2
  rintro books movement consistent admitted ⟨account, holds⟩
  exact holds_apply consistent admitted holds

end Tchuno.Payments
