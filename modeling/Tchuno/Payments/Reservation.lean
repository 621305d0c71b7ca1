import Tchuno.Payments.RefundLimit

/-!
# Payouts that have been promised

A payout reserves available balance of its intent from its creation until it is
paid or fails.  Creating a payout respects the reservation, and so do approving
and processing it; a refund debits the available balance without looking at it.
-/

namespace Tchuno.Payments

open Tchuno.Library

/-- The payouts of every intent which still await their money are covered by its
available balance. -/
def Books.PayoutsCovered (books : Books) : Prop :=
  ∀ intent ∈ books.intents,
    books.reservedByPendingPayout intent.id ≤ providerAvailable books.ledger (some intent.id)

instance (books : Books) : Decidable books.PayoutsCovered :=
  inferInstanceAs (Decidable (∀ intent ∈ books.intents, _))

/-- What of the available balance of an intent no payout has reserved. -/
def Books.unreserved (books : Books) (intentId : IntentId) : Int :=
  providerAvailable books.ledger (some intentId) - books.reservedByPendingPayout intentId

/-- The provider's share of a settled refund fits into the held balance and the
available balance no payout has reserved. -/
def Movement.SparesPayouts (books : Books) : Movement → Prop
  | .settleRefund order _ _ answer _ =>
      answer.status = .succeeded →
        (refundShares order.intent order.refund.amount).providerPart ≤
          (refundableBalances books.ledger order.intent.id).providerHeld +
            books.unreserved order.intent.id
  | _ => True

instance (books : Books) (movement : Movement) :
    Decidable (movement.SparesPayouts books) := by
  cases movement <;> unfold Movement.SparesPayouts <;> infer_instance

namespace Movement

variable {books : Books} {movement : Movement}

/-! ## What is reserved -/

/-- The change of the reservation of an intent. -/
def reservedBy (intentId : IntentId) : Movement → Int
  | openPayout intent _ dto => if intent.id = intentId then dto.amount.val else 0
  | settlePayout payout _ _ answer _ =>
      if payout.paymentIntentId = some intentId ∧
          nextPayoutStatus answer.status ≠ .processing then
        -payout.amount
      else
        0
  | _ => 0

theorem reserved_apply (admitted : movement.Admitted books) (intentId : IntentId) :
    (movement.apply books).reservedByPendingPayout intentId =
      books.reservedByPendingPayout intentId + movement.reservedBy intentId := by
  cases movement with
  | openPayout intent actorUserId dto =>
      simp [apply, payouts, reservedBy, Books.reservedByPendingPayout, pendingPayout,
        add_comm]
  | approvePayout payout actorUserId =>
      obtain ⟨stored, pending⟩ := admitted
      simp only [apply, payouts, reservedBy, Books.reservedByPendingPayout]
      rw [Table.total_update _ _ _ stored]
      simp [pending, approvedPayout]
  | settlePayout payout actorUserId dto answer now =>
      obtain ⟨stored, approved, _⟩ := admitted
      simp only [apply, payouts, reservedBy, Books.reservedByPendingPayout]
      rw [Table.total_update _ _ _ stored]
      by_cases linked : payout.paymentIntentId = some intentId
      · cases answer.status <;>
          simp [linked, approved, settledPayout, nextPayoutStatus,
            mapGatewayToTransactionStatus]
      · simp [linked, settledPayout]
  | _ =>
      exact (add_zero _).symm

/-! ## What is available -/

theorem available_apply (consistent : books.Consistent) (admitted : movement.Admitted books)
    (intentId : IntentId) :
    providerAvailable (movement.apply books).ledger (some intentId) =
      providerAvailable books.ledger (some intentId) +
        Journal.balance (intentJournal (movement.entries books) intentId)
          .providerAvailable := by
  have after := computeBucketNet_ofIntent (consistent_apply consistent admitted).entry_actor
    .providerAvailable intentId
  have before := computeBucketNet_ofIntent consistent.entry_actor .providerAvailable intentId
  simp only [LedgerBalanceBucket.actorType] at after before
  rw [providerAvailable, providerAvailable, after, before, apply, intentJournal_append,
    Journal.balance_append]

theorem unreserved_apply (consistent : books.Consistent) (admitted : movement.Admitted books)
    (intentId : IntentId) :
    (movement.apply books).unreserved intentId =
      books.unreserved intentId - movement.reservedBy intentId +
        Journal.balance (intentJournal (movement.entries books) intentId)
          .providerAvailable := by
  rw [Books.unreserved, Books.unreserved, available_apply consistent admitted,
    reserved_apply admitted]
  omega

/-- Nothing is available and nothing reserved for an intent which does not exist
yet. -/
theorem unreserved_of_absent (consistent : books.Consistent) {intentId : IntentId}
    (absent : books.intents.find? intentId = none) : books.unreserved intentId = 0 := by
  have nothing : books.reservedByPendingPayout intentId = 0 := by
    refine List.sum_eq_zero fun weight member => ?_
    obtain ⟨payout, present, rfl⟩ := List.mem_map.mp member
    refine if_neg fun counted => ?_
    have linked := consistent.payout_intent payout present intentId counted.1
    rw [absent] at linked
    cases linked
  have empty : intentJournal books.ledger intentId = [] := by
    rw [intentJournal, List.filter_eq_nil_iff.mpr, List.map_nil]
    intro entry member booked
    have linked := consistent.entry_intent entry member intentId (by simpa using booked)
    rw [absent] at linked
    cases linked
  have available := computeBucketNet_ofIntent consistent.entry_actor .providerAvailable intentId
  simp only [LedgerBalanceBucket.actorType] at available
  rw [Books.unreserved, providerAvailable, available, empty, nothing]
  rfl

/-! ## Which movements overdraw -/

variable {intentId : IntentId}

theorem unreserved_apply_of_other (consistent : books.Consistent)
    (admitted : movement.Admitted books) (other : movement.intentOf books ≠ some intentId)
    (before : 0 ≤ books.unreserved intentId) :
    0 ≤ (movement.apply books).unreserved intentId := by
  have silent := intentJournal_of_other (entries_booked books movement) other
  rw [unreserved_apply consistent admitted, silent, Journal.balance_nil]
  cases movement with
  | openPayout intent actorUserId dto =>
      have fits := admitted.2
      simp only [reservedBy]
      split_ifs with same
      · rw [same] at fits
        simp only [Books.unreserved] at before ⊢
        omega
      · omega
  | settlePayout payout actorUserId dto answer now =>
      have unlinked : payout.paymentIntentId ≠ some intentId := other
      simp only [reservedBy, unlinked, false_and, if_false]
      omega
  | _ =>
      simp only [reservedBy]
      omega

/-- A refund takes from the available balance what the held balance lacks. -/
theorem unreserved_settleRefund (consistent : books.Consistent) {order : RefundOrder}
    {actorUserId : UserId} {decisionNote : Option String} {answer : GatewayResult}
    {now : Time}
    (admitted : (settleRefund order actorUserId decisionNote answer now).Admitted books)
    {account : Escrow Int} (holds : books.Holds order.intent.id account)
    (before : 0 ≤ books.unreserved order.intent.id) :
    0 ≤ ((settleRefund order actorUserId decisionNote answer now).apply books).unreserved
        order.intent.id ↔
      (settleRefund order actorUserId decisionNote answer now).SparesPayouts books := by
  have balances := refundableBalances_of_holds consistent holds
  obtain ⟨stored, _, foundIntent, _⟩ := id admitted
  obtain ⟨platform_nonneg, provider_nonneg, _⟩ :=
    order.shares_bounds consistent stored foundIntent
  rw [unreserved_apply consistent admitted]
  simp only [reservedBy, entries, SparesPayouts, balances]
  by_cases succeeded : answer.status = .succeeded
  · simp only [succeeded, if_true, forall_const]
    rw [balance_refundEntries _ _ _ platform_nonneg provider_nonneg account.held_nonneg]
    dsimp only
    omega
  · simp only [succeeded, if_false, false_implies, iff_true]
    simpa using before

/-- Only a refund can take what payouts have reserved. -/
theorem unreserved_apply_iff (consistent : books.Consistent)
    (admitted : movement.Admitted books) {account : Escrow Int}
    (holds : books.Holds intentId account) (before : 0 ≤ books.unreserved intentId) :
    0 ≤ (movement.apply books).unreserved intentId ↔
      (movement.intentOf books = some intentId → movement.SparesPayouts books) := by
  by_cases target : movement.intentOf books = some intentId
  swap
  · simp only [target, false_implies, iff_true]
    exact unreserved_apply_of_other consistent admitted target before
  simp only [target, forall_const]
  cases movement with
  | applyReport report =>
      obtain ⟨intent, opened, rfl⟩ := Option.map_eq_some_iff.mp target
      simp only [SparesPayouts, iff_true]
      rw [unreserved_apply consistent admitted]
      simp only [reservedBy, entries, opened]
      split_ifs
      · rw [balance_chargeEntries]
        simpa using before
      · simpa using before
  | settleRefund order actorUserId decisionNote answer now =>
      obtain rfl : order.intent.id = intentId := Option.some.inj target
      exact unreserved_settleRefund consistent admitted holds before
  | settlePayout payout actorUserId dto answer now =>
      have linked : payout.paymentIntentId = some intentId := target
      have positive := consistent.payout_amount _ (books.payouts.mem_of_find? admitted.1)
      simp only [SparesPayouts, iff_true]
      rw [unreserved_apply consistent admitted]
      simp only [reservedBy, entries, payoutEntries, linked]
      cases answer.status <;>
        simp [nextPayoutStatus, mapGatewayToTransactionStatus, balance_providerTransfer] <;>
        omega
  | releaseFunds intent actorUserId =>
      obtain rfl : intent.id = intentId := Option.some.inj target
      have held := admitted.2
      simp only [SparesPayouts, iff_true]
      rw [unreserved_apply consistent admitted]
      simp only [reservedBy, entries, releaseEntries, balance_providerTransfer]
      simp
      omega
  | _ =>
      simp [intentOf] at target

theorem payoutsCovered_apply_iff (consistent : books.Consistent)
    (holds : ∀ intentId, ∃ account, books.Holds intentId account)
    (admitted : movement.Admitted books) (before : books.PayoutsCovered) :
    (movement.apply books).PayoutsCovered ↔ movement.SparesPayouts books := by
  constructor
  · intro after
    cases movement with
    | settleRefund order actorUserId decisionNote answer now =>
        obtain ⟨account, held⟩ := holds order.intent.id
        have found := books.intents.mem_of_find? admitted.2.2.1
        refine (unreserved_settleRefund consistent admitted held
          (sub_nonneg.mpr (before order.intent found))).mp ?_
        exact sub_nonneg.mpr (after order.intent found)
    | _ =>
        trivial
  · intro spares intent member
    obtain ⟨account, held⟩ := holds intent.id
    have covered : 0 ≤ books.unreserved intent.id := by
      rcases intent_origin admitted member with ⟨old, older, same⟩ | ⟨newId, _⟩
      · have sameId : intent.id = old.id := field_eq same PaymentIntent.id fun _ => rfl
        rw [sameId]
        exact sub_nonneg.mpr (before old older)
      · have absent := books.intents.find?_nextId
        rw [← newId] at absent
        have unreserved := unreserved_of_absent consistent absent
        omega
    exact sub_nonneg.mp
      ((unreserved_apply_iff consistent admitted held covered).mpr fun _ => spares)

end Movement

/-! ## Runs -/

/-- Along every run, the payouts which await their money stay covered by the
available balance exactly as long as every refund that succeeds leaves alone what
they have reserved. -/
theorem payouts_covered_iff (market : Marketplace) (operations : List Operation) :
    payments.Along (fun store operation => (operation.perform store).PayoutsCovered)
        (Store.initial market) operations ↔
      payments.Along (fun store operation => operation.Meets Movement.SparesPayouts store)
        (Store.initial market) operations := by
  refine @along_iff_meets
    (fun books => ∀ intentId, ∃ account, books.Holds intentId account)
    Books.PayoutsCovered _ ?_ ?_ ?_ Books.initial_holds ?_ market operations
  · intro books movement consistent admitted holds intentId
    obtain ⟨account, held⟩ := holds intentId
    exact holds_apply consistent admitted held
  · intro books movement consistent admitted holds before
    exact Movement.payoutsCovered_apply_iff consistent holds admitted before
  · intro books movement preparatory
    cases movement <;> trivial
  · simp [Books.initial, Books.PayoutsCovered]

/-- The job is done, its held balance of 255 is released and promised to the worker
in one payout; a refund of half the deposit then takes 127 of it. -/
theorem promised_payout_refunded :
    ¬ payments.Along (fun store operation => (operation.perform store).PayoutsCovered)
      (Store.initial sampleMarketplace)
      [sampleSelection, .payIntent 0 0 ⟨none⟩ (sampleAnswer .succeeded "charge") 2,
        .updateStatus 0 1 ⟨.accepted, none⟩ 3, .updateStatus 0 1 ⟨.inProgress, none⟩ 4,
        .updateStatus 0 1 ⟨.completed, none⟩ 5,
        .adminReleaseProviderFunds samplePolicy 2 0 100000000,
        .adminCreatePayout 2 ⟨1, ⟨255, by decide⟩, none, none, some 0, none⟩,
        .adminCreateRefund 2 ⟨0, some ⟨150, by decide⟩, "Half", []⟩
          (sampleAnswer .succeeded "half") 100000001] := by
  decide +kernel

end Tchuno.Payments
