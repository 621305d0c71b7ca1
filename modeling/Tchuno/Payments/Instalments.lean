import Tchuno.Payments.RefundLimit

/-!
# Refunds in instalments

Each refund takes its own rounded share from the platform's reserve and the rest from
the provider.  The balances of an intent are what was charged less the shares of its
succeeded refunds, so the roundings add up against them.
-/

namespace Tchuno.Payments

open Tchuno.Library

/-! ## What was charged and what was taken -/

/-- The fee the charges of an intent have brought into the reserve. -/
def feeCharged (ledger : List LedgerEntry) (intentId : IntentId) : Int :=
  amountOfType ledger intentId .platformFeeReserved

def netCharged (ledger : List LedgerEntry) (intentId : IntentId) : Int :=
  amountOfType ledger intentId .providerBalanceHeld

def reservedLeft (ledger : List LedgerEntry) (intentId : IntentId) : Int :=
  Journal.balance (intentJournal ledger intentId) .platformReserved

/-- The provider's money, also where it is released or paid out. -/
def providerLeft (ledger : List LedgerEntry) (intentId : IntentId) : Int :=
  Journal.balance (intentJournal ledger intentId) .providerHeld +
    Journal.balance (intentJournal ledger intentId) .providerAvailable +
    Journal.balance (intentJournal ledger intentId) .providerPaidOut

/-- One of the two shares, summed over the succeeded refunds of an intent. -/
def Books.sharesTaken (books : Books) (intent : PaymentIntent) (part : RefundShares → Int) :
    Int :=
  books.refunds.total fun refund =>
    if refund.paymentIntentId = intent.id ∧ refund.status = .succeeded then
      part (refundShares intent refund.amount)
    else
      0

/-- Rounded one by one, the shares of the refunds so far and of this one are covered by
what was charged. -/
def Books.InstalmentFits (books : Books) (intent : PaymentIntent) (amount : Int) : Prop :=
  books.sharesTaken intent RefundShares.platformPart +
      (refundShares intent amount).platformPart ≤ feeCharged books.ledger intent.id ∧
    books.sharesTaken intent RefundShares.providerPart +
      (refundShares intent amount).providerPart ≤ netCharged books.ledger intent.id

instance (books : Books) (intent : PaymentIntent) (amount : Int) :
    Decidable (books.InstalmentFits intent amount) :=
  inferInstanceAs (Decidable (_ ∧ _))

/-- The balances are what was charged less the shares taken. -/
def Books.SharesAccounted (books : Books) : Prop :=
  ∀ intent ∈ books.intents,
    feeCharged books.ledger intent.id = reservedLeft books.ledger intent.id +
        books.sharesTaken intent RefundShares.platformPart ∧
      netCharged books.ledger intent.id = providerLeft books.ledger intent.id +
        books.sharesTaken intent RefundShares.providerPart

/-! ## Entries -/

theorem amountOfType_of_none {entries : List LedgerEntry} {intentId : IntentId}
    {entryType : LedgerEntryType}
    (absent : ∀ entry ∈ entries, entry.paymentIntentId = some intentId →
      entry.entryType ≠ entryType) :
    amountOfType entries intentId entryType = 0 := by
  have nothing : (entries.filter fun entry =>
      entry.paymentIntentId = some intentId && entry.entryType = entryType) = [] := by
    apply List.filter_eq_nil_iff.mpr
    intro entry member
    simp only [Bool.and_eq_true, decide_eq_true_eq, not_and]
    exact absent entry member
  rw [amountOfType, nothing]
  rfl

theorem feeCharged_append (first second : List LedgerEntry) (intentId : IntentId) :
    feeCharged (first ++ second) intentId =
      feeCharged first intentId + feeCharged second intentId :=
  amountOfType_append first second intentId .platformFeeReserved

theorem netCharged_append (first second : List LedgerEntry) (intentId : IntentId) :
    netCharged (first ++ second) intentId =
      netCharged first intentId + netCharged second intentId :=
  amountOfType_append first second intentId .providerBalanceHeld

theorem reservedLeft_append (first second : List LedgerEntry) (intentId : IntentId) :
    reservedLeft (first ++ second) intentId =
      reservedLeft first intentId + reservedLeft second intentId := by
  rw [reservedLeft, intentJournal_append, Journal.balance_append]
  rfl

theorem providerLeft_append (first second : List LedgerEntry) (intentId : IntentId) :
    providerLeft (first ++ second) intentId =
      providerLeft first intentId + providerLeft second intentId := by
  simp only [providerLeft, intentJournal_append, Journal.balance_append]
  omega

namespace Movement

variable {books : Books} {movement : Movement}

/-- The intent and the amount of a refund which succeeds. -/
def settled? : Movement → Option (PaymentIntent × Int)
  | .settleRefund order _ _ answer _ =>
      if answer.status = .succeeded then some (order.intent, order.refund.amount) else none
  | _ => none

/-- The share of a movement in what was taken from an intent. -/
def takes (movement : Movement) (intent : PaymentIntent) (part : RefundShares → Int) : Int :=
  match movement.settled? with
  | some (other, amount) =>
      if other.id = intent.id then part (refundShares intent amount) else 0
  | none => 0

theorem sharesTaken_apply (admitted : movement.Admitted books) (intent : PaymentIntent)
    (part : RefundShares → Int) :
    (movement.apply books).sharesTaken intent part =
      books.sharesTaken intent part + movement.takes intent part := by
  cases movement with
  | openRefund other requestedByUserId amount reason evidenceItems =>
      simp [apply, refunds, takes, settled?, Books.sharesTaken, pendingRefund]
  | cancelRefund refund now =>
      simp only [apply, refunds, takes, settled?, Books.sharesTaken]
      rw [Table.total_update _ _ _ admitted.1]
      simp [admitted.2, canceledRefund]
  | rejectRefund refund actorUserId dto now =>
      simp only [apply, refunds, takes, settled?, Books.sharesTaken]
      rw [Table.total_update _ _ _ admitted.1]
      simp [admitted.2, rejectedRefund]
  | settleRefund order actorUserId decisionNote answer now =>
      obtain ⟨stored, pending, foundIntent, _⟩ := admitted
      have linked : order.refund.paymentIntentId = order.intent.id :=
        (books.intents.key_of_find? foundIntent).symm
      have approved : (books.refunds.update order.refund.id
          (approvedRefund order.refund actorUserId decisionNote)).find? order.refund.id =
            some (approvedRefund order.refund actorUserId decisionNote order.refund) := by
        simp only [Table.find?_update, stored, if_true, Option.map_some]
      simp only [apply, refunds, Books.sharesTaken]
      rw [Table.total_update _ _ _ approved, Table.total_update _ _ _ stored]
      by_cases succeeded : answer.status = .succeeded
      · simp [takes, settled?, settledRefund, approvedRefund, pending, succeeded, linked]
      · simp [takes, settled?, settledRefund, approvedRefund, pending, succeeded]
  | _ =>
      exact (add_zero _).symm

/-- A movement for another intent charges, leaves and takes nothing. -/
theorem accounted_of_other {intent : PaymentIntent}
    (other : movement.intentOf books ≠ some intent.id) :
    feeCharged (movement.entries books) intent.id = 0 ∧
      netCharged (movement.entries books) intent.id = 0 ∧
      reservedLeft (movement.entries books) intent.id = 0 ∧
      providerLeft (movement.entries books) intent.id = 0 ∧
      ∀ part, movement.takes intent part = 0 := by
  have booked := Movement.entries_booked books movement
  have silent := intentJournal_of_other booked other
  have uncharged : ∀ entryType,
      amountOfType (movement.entries books) intent.id entryType = 0 := by
    intro entryType
    apply amountOfType_of_none
    intro entry member own
    rw [(booked entry member).1] at own
    exact absurd own other
  refine ⟨uncharged _, uncharged _, by simp [reservedLeft, silent],
    by simp [providerLeft, silent], ?_⟩
  intro part
  cases movement with
  | settleRefund order actorUserId decisionNote answer now =>
      have different : order.intent.id ≠ intent.id := fun same =>
        other (congrArg some same)
      by_cases succeeded : answer.status = .succeeded
      · simp [takes, settled?, succeeded, different]
      · simp [takes, settled?, succeeded]
  | _ =>
      rfl

/-- What the entries of a movement charge is what they leave with what they take. -/
theorem entries_accounted (consistent : books.Consistent) (admitted : movement.Admitted books)
    {account : Escrow Int} {intent : PaymentIntent} (stored : intent ∈ books.intents)
    (holds : books.Holds intent.id account) :
    feeCharged (movement.entries books) intent.id =
        reservedLeft (movement.entries books) intent.id +
          movement.takes intent RefundShares.platformPart ∧
      netCharged (movement.entries books) intent.id =
        providerLeft (movement.entries books) intent.id +
          movement.takes intent RefundShares.providerPart := by
  by_cases target : movement.intentOf books = some intent.id
  swap
  · obtain ⟨fee, net, reserved, provider, untaken⟩ := accounted_of_other target
    simp only [fee, net, reserved, provider, untaken, add_zero, and_self]
  cases movement with
  | applyReport report =>
      obtain ⟨charged, opened, sameId⟩ := Option.map_eq_some_iff.mp target
      have sameId : charged.id = intent.id := sameId
      by_cases posts : report.posts books
      · simp only [Movement.entries, opened, posts, if_true, takes, settled?]
        rw [← sameId]
        simp only [reservedLeft, providerLeft, balance_chargeEntries]
        simp [feeCharged, netCharged, chargeEntries, amountOfType, sumAmounts]
      · simp [Movement.entries, opened, posts, takes, settled?, feeCharged, netCharged,
          reservedLeft, providerLeft, intentJournal, amountOfType, sumAmounts]
  | settleRefund order actorUserId decisionNote answer now =>
      have sameId : order.intent.id = intent.id := Option.some.inj target
      obtain ⟨storedRefund, _, foundIntent, settles⟩ := admitted
      have sameIntent : order.intent = intent := by
        have found := books.intents.find?_key foundIntent
        have other : books.intents.find? intent.id = some intent :=
          books.intents.find?_eq_some_iff.mpr ⟨stored, rfl⟩
        rw [show Keyed.key order.intent = intent.id from sameId, other] at found
        exact (Option.some.inj found).symm
      subst sameIntent
      by_cases succeeded : answer.status = .succeeded
      · obtain ⟨platform_nonneg, provider_nonneg, _⟩ :=
          order.shares_bounds consistent storedRefund foundIntent
        have balances := refundableBalances_of_holds consistent holds
        have uncharged : ∀ entryType, entryType ≠ .reversal → entryType ≠ .customerRefund →
            amountOfType (Movement.entries books
              (.settleRefund order actorUserId decisionNote answer now)) order.intent.id
              entryType = 0 := by
          intro entryType not_reversal not_refund
          apply amountOfType_of_none
          intro entry member _ same
          simp only [Movement.entries, succeeded, if_true] at member
          rcases refundEntries_type _ _ _ _ _ _ entry member with type | type
          · exact not_reversal (same.symm.trans type)
          · exact not_refund (same.symm.trans type)
        rw [feeCharged, netCharged, uncharged _ (by decide) (by decide),
          uncharged _ (by decide) (by decide)]
        have balanced := @balance_refundEntries order.intent books.transactions.nextId
          order.refund.amount _ ⟨account.reserved, account.held, account.available⟩
          platform_nonneg provider_nonneg account.held_nonneg actorUserId
        simp only [reservedLeft, providerLeft, Movement.entries, succeeded, if_true, balances,
          balanced, takes, settled?]
        omega
      · simp [Movement.entries, succeeded, takes, settled?, feeCharged, netCharged,
          reservedLeft, providerLeft, intentJournal, amountOfType, sumAmounts]
  | settlePayout payout actorUserId dto answer now =>
      have linked : payout.paymentIntentId = some intent.id := target
      by_cases succeeded : answer.status = .succeeded
      · simp only [Movement.entries, succeeded, if_true, payoutEntries, linked, reservedLeft,
          providerLeft, balance_providerTransfer, takes, settled?]
        simp [feeCharged, netCharged, providerTransfer, amountOfType, sumAmounts]
      · simp [Movement.entries, succeeded, takes, settled?, feeCharged, netCharged,
          reservedLeft, providerLeft, intentJournal, amountOfType, sumAmounts]
  | releaseFunds released actorUserId =>
      have sameId : released.id = intent.id := Option.some.inj target
      simp only [Movement.entries, releaseEntries, sameId, reservedLeft, providerLeft,
        balance_providerTransfer, takes, settled?]
      simp [feeCharged, netCharged, providerTransfer, amountOfType, sumAmounts]
  | _ =>
      simp [Movement.intentOf] at target

/-- A row which is new has nothing charged, taken or left. -/
theorem accounted_of_absent (foreignKeys : books.ForeignKeys) {intent : PaymentIntent}
    (absent : books.intents.find? intent.id = none) :
    feeCharged books.ledger intent.id = 0 ∧ netCharged books.ledger intent.id = 0 ∧
      reservedLeft books.ledger intent.id = 0 ∧ providerLeft books.ledger intent.id = 0 ∧
      ∀ part, books.sharesTaken intent part = 0 := by
  have no_entry : ∀ entry ∈ books.ledger, entry.paymentIntentId ≠ some intent.id := by
    intro entry member own
    have linked := foreignKeys.entry_intent entry member _ own
    rw [absent] at linked
    cases linked
  have uncharged : ∀ entryType, amountOfType books.ledger intent.id entryType = 0 :=
    fun entryType => amountOfType_of_none fun entry member own =>
      absurd own (no_entry entry member)
  have silent : intentJournal books.ledger intent.id = [] := by
    rw [intentJournal, List.filter_eq_nil_iff.mpr, List.map_nil]
    intro entry member
    simpa using no_entry entry member
  refine ⟨uncharged _, uncharged _, by simp [reservedLeft, silent],
    by simp [providerLeft, silent], ?_⟩
  intro part
  apply List.sum_eq_zero
  intro weight member
  obtain ⟨refund, present, rfl⟩ := List.mem_map.mp member
  apply if_neg
  intro counted
  have linked := foreignKeys.refund_intent refund present
  rw [counted.1, absent] at linked
  cases linked

/-- The shares of an intent depend on what never changes in it. -/
theorem sharesTaken_of_fixed (books : Books) {intent old : PaymentIntent}
    (same : intent.fixed = old.fixed) (part : RefundShares → Int) :
    books.sharesTaken intent part = books.sharesTaken old part := by
  have sameId : intent.id = old.id := field_eq same PaymentIntent.id fun _ => rfl
  have sameAmount : intent.amount = old.amount :=
    field_eq same PaymentIntent.amount fun _ => rfl
  have sameFee : intent.platformFeeAmount = old.platformFeeAmount :=
    field_eq same PaymentIntent.platformFeeAmount fun _ => rfl
  have sameShares : ∀ amount, refundShares intent amount = refundShares old amount := by
    intro amount
    simp only [refundShares, sameAmount, sameFee]
  simp only [Books.sharesTaken, sameId, sameShares]

theorem sharesAccounted_apply (consistent : books.Consistent)
    (admitted : movement.Admitted books)
    (holds : ∀ intentId, ∃ account, books.Holds intentId account)
    (accounted : books.SharesAccounted) : (movement.apply books).SharesAccounted := by
  intro intent member
  rcases intent_origin admitted member with ⟨old, older, same⟩ | ⟨newId, _⟩
  · have sameId : intent.id = old.id := field_eq same PaymentIntent.id fun _ => rfl
    obtain ⟨account, has⟩ := holds old.id
    have before := accounted old older
    have added := entries_accounted consistent admitted older has
    have grown : (movement.apply books).ledger = books.ledger ++ movement.entries books := rfl
    simp only [sharesTaken_of_fixed _ same, sharesTaken_apply admitted, sameId, grown,
      feeCharged_append, netCharged_append, reservedLeft_append, providerLeft_append]
    omega
  · have absent : books.intents.find? intent.id = none := by
      rw [newId]
      exact books.intents.find?_nextId
    obtain ⟨fee, net, reserved, provider, taken⟩ :=
      accounted_of_absent consistent.toForeignKeys absent
    have untargeted : movement.intentOf books ≠ some intent.id := by
      intro target
      have present := intentOf_present consistent.toForeignKeys admitted target
      rw [absent] at present
      cases present
    obtain ⟨new_fee, new_net, new_reserved, new_provider, untaken⟩ :=
      accounted_of_other untargeted
    have grown : (movement.apply books).ledger = books.ledger ++ movement.entries books := rfl
    simp only [sharesTaken_apply admitted, grown, feeCharged_append, netCharged_append,
      reservedLeft_append, providerLeft_append, fee, net, reserved, provider, taken, untaken,
      new_fee, new_net, new_reserved, new_provider, add_zero, and_self]

end Movement

/-! ## Reachable stores -/

theorem reachable_accounted {store : Store}
    (reachable : payments.Reachable Store.IsInitial store) : store.SharesAccounted := by
  have base : (∀ intentId, ∃ account, Books.initial.Holds intentId account) ∧
      Books.initial.SharesAccounted :=
    ⟨Books.initial_holds, by simp [Books.initial, Books.SharesAccounted]⟩
  have invariant := @reachable_invariant
    (fun books => (∀ intentId, ∃ account, books.Holds intentId account) ∧
      books.SharesAccounted)
    (fun books movement consistent admitted before =>
      ⟨fun intentId => by
        obtain ⟨account, holds⟩ := before.1 intentId
        exact holds_apply consistent admitted holds,
      Movement.sharesAccounted_apply consistent admitted before.1 before.2⟩)
    base store reachable
  exact invariant.2.2

theorem appendRefund_ok_iff (store : Store) (intent : PaymentIntent)
    (transactionId : TransactionId) (amount : Int) (shares : RefundShares)
    (actorUserId : UserId) :
    (appendRefundLedgerEntries intent transactionId amount shares actorUserId store).result =
        .ok () ↔
      shares.platformPart ≤ (refundableBalances store.ledger intent.id).platformReserved ∧
        shares.providerPart ≤ (refundableBalances store.ledger intent.id).providerHeld +
          (refundableBalances store.ledger intent.id).providerAvailable := by
  unfold appendRefundLedgerEntries
  rw [Action.inspect_bind_apply, Action.require_bind_apply]
  by_cases platform : shares.platformPart ≤
      (refundableBalances store.ledger intent.id).platformReserved
  · rw [if_pos platform, Action.require_bind_apply]
    by_cases provider : shares.providerPart ≤
        (refundableBalances store.ledger intent.id).providerHeld +
          (refundableBalances store.ledger intent.id).providerAvailable
    · rw [if_pos provider]
      exact ⟨fun _ => ⟨platform, provider⟩, fun _ => rfl⟩
    · rw [if_neg provider]
      exact ⟨nofun, fun covered => absurd covered.2 provider⟩
  · rw [if_neg platform]
    exact ⟨nofun, fun covered => absurd covered.1 platform⟩

/-- After any run, as long as nothing of an intent is paid out, a refund passes the
balance checks exactly if the shares of the refunds so far and of this one, rounded one
by one, are covered by the fee and by the net amount that were charged. -/
theorem instalment_passes_iff (market : Marketplace) (operations : List Operation)
    {intent : PaymentIntent}
    (stored : intent ∈ (payments.run (Store.initial market) operations).intents)
    (kept : (payments.run (Store.initial market) operations).bucketNet intent.id
      .providerPaidOut = 0)
    (transactionId : TransactionId) (amount : Int) (actorUserId : UserId) :
    (appendRefundLedgerEntries intent transactionId amount (refundShares intent amount)
        actorUserId (payments.run (Store.initial market) operations)).result = .ok () ↔
      (payments.run (Store.initial market) operations).InstalmentFits intent amount := by
  have reachable := reachable_run market operations
  have accounted := reachable_accounted reachable intent stored
  have consistent := reachable_consistent reachable
  generalize payments.run (Store.initial market) operations = store at *
  have net := fun bucket =>
    computeBucketNet_ofIntent consistent.entry_actor bucket intent.id
  have reserved := net .platformReserved
  have held := net .providerHeld
  have available := net .providerAvailable
  have paidOut := net .providerPaidOut
  rw [Store.bucketNet] at kept
  simp only [LedgerBalanceBucket.actorType] at reserved held available paidOut kept
  rw [appendRefund_ok_iff]
  simp only [refundableBalances, Books.InstalmentFits]
  simp only [reservedLeft, providerLeft] at accounted
  omega

section Sample

/-- Ten of a deposit of three hundred are refunded. -/
def sampleInstalment : List Operation :=
  [sampleSelection, .payIntent 0 0 ⟨none⟩ (sampleAnswer .succeeded "charge") 2,
    .adminCreateRefund 2 ⟨0, some ⟨10, by decide⟩, "Part", []⟩
      (sampleAnswer .succeeded "part") 3]

def sampleRest : Store :=
  payments.run (Store.initial sampleMarketplace) sampleInstalment

theorem sampleRest_intent : (sampleRest.intents.find? 0).isSome = true := by
  decide +kernel

/-- The intent of the deposit, paid and with a part refunded. -/
def sampleDeposit : PaymentIntent :=
  (sampleRest.intents.find? 0).get sampleRest_intent

/-- The remaining 290 cannot be refunded at once: both shares are rounded up. -/
theorem rest_refused :
    sampleRest.intents.find? 0 = some sampleDeposit ∧ sampleDeposit.status.isPaid = true ∧
      getRemainingRefundableAmount 0 sampleRest.toBooks = .ok 290 ∧
      sampleRest.bucketNet 0 .providerAvailable = 0 ∧
      sampleRest.bucketNet 0 .providerPaidOut = 0 ∧
      (appendRefundLedgerEntries sampleDeposit 9 290 (refundShares sampleDeposit 290) 2
          sampleRest).result =
        .error (.conflict "Insufficient platform reserved balance for refund settlement") := by
  refine ⟨(Option.some_get sampleRest_intent).symm, ?_⟩
  decide +kernel

/-- Another four can. -/
theorem next_instalment_passes :
    (appendRefundLedgerEntries sampleDeposit 9 4 (refundShares sampleDeposit 4) 2
      (payments.run (Store.initial sampleMarketplace) sampleInstalment)).result = .ok () := by
  have stored : sampleDeposit ∈
      (payments.run (Store.initial sampleMarketplace) sampleInstalment).intents :=
    Table.mem_of_find? _ (Option.some_get sampleRest_intent).symm
  have kept : (payments.run (Store.initial sampleMarketplace) sampleInstalment).bucketNet
      sampleDeposit.id .providerPaidOut = 0 := by
    decide +kernel
  exact (instalment_passes_iff sampleMarketplace sampleInstalment stored kept 9 4 2).mpr
    (by decide +kernel)

end Sample

end Tchuno.Payments
