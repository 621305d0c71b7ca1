import Tchuno.Payments.ChargeAccounting

/-!
# Payouts under dispute

A release and a payout read the job, the balances and the payout, and no refund request.
So money of the provider moves on while the customer's request for it waits, exactly
where one of the two is made then.
-/

namespace Tchuno.Payments

open Tchuno.Library

/-- A refund request of the intent waits for its decision or for its money. -/
def Books.Disputed (books : Books) (intentId : IntentId) : Prop :=
  ∃ refund ∈ books.refunds, refund.paymentIntentId = intentId ∧
    refund.status ∈ [RefundStatus.pending, .approved, .processing]

instance (books : Books) (intentId : IntentId) : Decidable (books.Disputed intentId) :=
  inferInstanceAs (Decidable (∃ refund ∈ books.refunds, _))

/-- An entry which moves the provider's money on. -/
def LedgerEntry.IsOutgoing (entry : LedgerEntry) : Prop :=
  entry.entryType ∈ [LedgerEntryType.providerBalanceReleased, .providerPayout]

instance (entry : LedgerEntry) : Decidable entry.IsOutgoing :=
  inferInstanceAs (Decidable (entry.entryType ∈ _))

/-- From the one books to the other no balance of a disputed intent is released or paid
out. -/
def Books.DisputesFreeze (before after : Books) : Prop :=
  (∀ entry ∈ after.ledger.drop before.ledger.length, entry.IsOutgoing →
    ∀ intentId ∈ entry.paymentIntentId, ¬ before.Disputed intentId) ∧
  ∀ payout ∈ after.payouts, payout.status = .paid →
    (∀ old ∈ before.payouts, old.id = payout.id → old.status ≠ .paid) →
    ∀ intentId ∈ payout.paymentIntentId, ¬ before.Disputed intentId

instance (before after : Books) : Decidable (before.DisputesFreeze after) :=
  inferInstanceAs (Decidable (_ ∧ _))

/-- Once the code lets a release or the settlement of a payout through, no refund request
of its intent waits. -/
def Operation.SparesDisputed (store : Store) : Operation → Prop
  | .adminReleaseProviderFunds policy _ jobId now =>
      ∀ intent, releaseGate policy jobId now store = .ok intent →
        0 < computeBucketNet store.ledger .providerHeld (ofIntent .provider (some intent.id)) →
          ¬ store.Disputed intent.id
  | .adminProcessPayout _ payoutId dto answer _ =>
      ∀ payout, payoutGate payoutId .approved "Only approved payouts can be processed" store =
          .ok payout →
        payout.Settles store.toBooks dto answer → answer.status = .succeeded →
          ∀ intentId ∈ payout.paymentIntentId, ¬ store.Disputed intentId
  | _ => True

/-! ## Movements which pay nobody -/

/-- From the one books to the other the provider's money stays where it is. -/
structure Books.Calm (before after : Books) : Prop where
  entries : ∃ appended, after.ledger = before.ledger ++ appended ∧
    ∀ entry ∈ appended, ¬ entry.IsOutgoing
  payouts : ∀ payout ∈ after.payouts, payout.status = .paid →
    ∃ old ∈ before.payouts, old.id = payout.id ∧ old.status = .paid

namespace Books.Calm

variable {before middle after : Books}

theorem refl (books : Books) : books.Calm books where
  entries := ⟨[], (List.append_nil _).symm, by simp⟩
  payouts := fun payout member paid => ⟨payout, member, rfl, paid⟩

theorem trans (first : before.Calm middle) (second : middle.Calm after) :
    before.Calm after where
  entries := by
    obtain ⟨earlier, firstLedger, firstCalm⟩ := first.entries
    obtain ⟨later, secondLedger, secondCalm⟩ := second.entries
    refine ⟨earlier ++ later, ?_, ?_⟩
    · rw [secondLedger, firstLedger, List.append_assoc]
    · intro entry member
      rcases List.mem_append.mp member with old | new
      · exact firstCalm entry old
      · exact secondCalm entry new
  payouts := by
    intro payout member paid
    obtain ⟨between, betweenMember, betweenId, betweenPaid⟩ := second.payouts payout member paid
    obtain ⟨old, oldMember, oldId, oldPaid⟩ := first.payouts between betweenMember betweenPaid
    exact ⟨old, oldMember, oldId.trans betweenId, oldPaid⟩

theorem disputesFreeze (calm : before.Calm after) : before.DisputesFreeze after := by
  obtain ⟨appended, ledger, silent⟩ := calm.entries
  refine ⟨fun entry member outgoing => ?_, fun payout member paid unpaid => ?_⟩
  · rw [ledger, List.drop_left] at member
    exact absurd outgoing (silent entry member)
  · obtain ⟨old, oldMember, sameId, oldPaid⟩ := calm.payouts payout member paid
    exact absurd oldPaid (unpaid old oldMember sameId)

end Books.Calm

namespace Movement

variable {books : Books} {movement : Movement}

/-- The movement neither releases nor pays out. -/
def PaysNobody : Movement → Prop
  | .releaseFunds .. => False
  | .settlePayout .. => False
  | _ => True

theorem not_isOutgoing_refundEntries {intent : PaymentIntent} {transactionId : TransactionId}
    {amount : Int} {shares : RefundShares} {balances : RefundableBalances}
    {actorUserId : UserId} {entry : LedgerEntry}
    (member : entry ∈ refundEntries intent transactionId amount shares balances actorUserId) :
    ¬ entry.IsOutgoing := by
  simp only [refundEntries, List.mem_append, List.mem_singleton] at member
  rcases member with ((reversal | reversal) | reversal) | rfl
  · simp [LedgerEntry.IsOutgoing, reversalEntry_type _ _ _ _ _ _ _ _ reversal]
  · simp [LedgerEntry.IsOutgoing, reversalEntry_type _ _ _ _ _ _ _ _ reversal]
  · simp [LedgerEntry.IsOutgoing, reversalEntry_type _ _ _ _ _ _ _ _ reversal]
  · simp [LedgerEntry.IsOutgoing]

theorem not_isOutgoing_entries (nobody : movement.PaysNobody) {entry : LedgerEntry}
    (member : entry ∈ movement.entries books) : ¬ entry.IsOutgoing := by
  cases movement with
  | applyReport report =>
      simp only [entries] at member
      split at member
      · split_ifs at member
        · simp only [chargeEntries, List.mem_cons, List.not_mem_nil, or_false] at member
          rcases member with rfl | rfl | rfl <;> simp [LedgerEntry.IsOutgoing]
        · cases member
      · cases member
  | settleRefund order actorUserId decisionNote answer now =>
      simp only [entries] at member
      split_ifs at member
      · exact not_isOutgoing_refundEntries member
      · cases member
  | settlePayout =>
      exact nobody.elim
  | releaseFunds =>
      exact nobody.elim
  | _ =>
      cases member

theorem paid_before (nobody : movement.PaysNobody) {payout : Payout}
    (member : payout ∈ movement.payouts books) (paid : payout.status = .paid) :
    ∃ old ∈ books.payouts, old.id = payout.id ∧ old.status = .paid := by
  cases movement with
  | openPayout intent actorUserId dto =>
      simp only [payouts] at member
      rcases Table.eq_or_mem_of_insert member with rfl | older
      · cases paid
      · exact ⟨payout, older, rfl, paid⟩
  | approvePayout approved actorUserId =>
      obtain ⟨old, older, rfl⟩ :=
        (Table.mem_update _ (approvedPayout actorUserId) fun _ => rfl).mp member
      split_ifs at paid ⊢
      · cases paid
      · exact ⟨old, older, rfl, paid⟩
  | settlePayout =>
      exact nobody.elim
  | releaseFunds =>
      exact nobody.elim
  | _ =>
      exact ⟨payout, member, rfl, paid⟩

theorem calm_apply (books : Books) (nobody : movement.PaysNobody) :
    books.Calm (apply books movement) where
  entries := ⟨movement.entries books, rfl, fun _ => not_isOutgoing_entries nobody⟩
  payouts := fun _ => paid_before nobody

theorem calm_run (books : Books) {movements : List Movement}
    (nobody : ∀ movement ∈ movements, movement.PaysNobody) :
    books.Calm (bookkeeping.run books movements) := by
  induction movements generalizing books with
  | nil =>
      exact .refl books
  | cons movement rest inductionHypothesis =>
      rw [Machine.run_cons]
      exact (calm_apply books (nobody movement List.mem_cons_self)).trans
        (inductionHypothesis _ fun other later => nobody other (List.mem_cons_of_mem _ later))

/-! ## Movements which pay -/

theorem disputesFreeze_release {intent : PaymentIntent} {actorUserId : UserId} :
    books.DisputesFreeze (apply books (.releaseFunds intent actorUserId)) ↔
      ¬ books.Disputed intent.id := by
  rw [Books.DisputesFreeze, apply, List.drop_left]
  constructor
  · rintro ⟨silent, _⟩
    exact silent _ List.mem_cons_self (by simp [LedgerEntry.IsOutgoing]) intent.id rfl
  · intro undisputed
    refine ⟨fun entry member _ intentId linked => ?_, fun payout member paid unpaid => ?_⟩
    · simp only [entries, releaseEntries, providerTransfer, List.mem_cons, List.not_mem_nil,
        or_false] at member
      rcases member with rfl | rfl <;>
        exact Option.mem_some_iff.mp linked ▸ undisputed
    · exact absurd paid (unpaid payout member rfl)

theorem disputesFreeze_settlePayout {payout : Payout} {actorUserId : UserId}
    {dto : ProcessPayoutDto} {answer : GatewayResult} {now : Time}
    (stored : books.payouts.find? payout.id = some payout) :
    books.DisputesFreeze
        (apply books (.settlePayout payout actorUserId dto answer now)) ↔
      (answer.status = .succeeded →
        ∀ intentId ∈ payout.paymentIntentId, ¬ books.Disputed intentId) := by
  rw [Books.DisputesFreeze, apply, List.drop_left]
  constructor
  · rintro ⟨silent, _⟩ succeeded
    simp only [entries, if_pos succeeded] at silent
    exact silent _ List.mem_cons_self (by simp [LedgerEntry.IsOutgoing])
  · intro undisputed
    refine ⟨fun entry member _ intentId linked => ?_, fun other member paid unpaid => ?_⟩
    · simp only [entries] at member
      split_ifs at member with succeeded
      · simp only [payoutEntries, providerTransfer, List.mem_cons, List.not_mem_nil,
          or_false] at member
        rcases member with rfl | rfl <;> exact undisputed succeeded intentId linked
      · cases member
    · obtain ⟨old, older, rfl⟩ := (Table.mem_update _ (settledPayout payout actorUserId
        (payoutRow payout dto answer now books.transactions.nextId) answer.status)
        fun _ => rfl).mp member
      split_ifs at paid unpaid ⊢ with same
      · have sameRow : old = payout :=
          books.payouts.eq_of_key_eq older (books.payouts.mem_of_find? stored) same
        rw [sameRow]
        exact undisputed (nextPayoutStatus_eq_paid.mp paid)
      · exact absurd paid (unpaid old older rfl)

end Movement

/-! ## Operations -/

namespace Operation

variable {store : Store}

theorem paysNobody_movements (store : Store) {operation : Operation}
    (others : ∀ policy actorUserId jobId now,
      operation ≠ .adminReleaseProviderFunds policy actorUserId jobId now)
    (unpaid : ∀ actorUserId payoutId dto answer now,
      operation ≠ .adminProcessPayout actorUserId payoutId dto answer now) :
    ∀ movement ∈ operation.movements store, movement.PaysNobody := by
  intro movement member
  cases movement with
  | settlePayout payout actorUserId dto answer now =>
      exfalso
      cases operation with
      | adminProcessPayout =>
          exact unpaid _ _ _ _ _ rfl
      | _ =>
          simp only [movements, selectionMovements, intentMovements, chargeMovements,
            refundMovements] at member
          repeat' split at member
          all_goals simp at member
  | releaseFunds intent actorUserId =>
      exfalso
      cases operation with
      | adminReleaseProviderFunds =>
          exact others _ _ _ _ rfl
      | _ =>
          simp only [movements, selectionMovements, intentMovements, chargeMovements,
            refundMovements, payoutMovements] at member
          repeat' split at member
          all_goals simp at member
  | _ =>
      trivial

theorem disputesFreeze_iff (consistent : store.Consistent) (operation : Operation) :
    store.DisputesFreeze (operation.perform store).toBooks ↔
      operation.SparesDisputed store := by
  rw [perform_books consistent.toForeignKeys operation]
  cases operation with
  | adminReleaseProviderFunds policy actorUserId jobId now =>
      simp only [movements, SparesDisputed]
      cases gate : releaseGate policy jobId now store with
      | error error =>
          apply iff_of_true (Books.Calm.refl _).disputesFreeze
          intro other passed
          cases passed
      | ok intent =>
          dsimp only
          split_ifs with holdsFunds
          · refine Movement.disputesFreeze_release.trans ⟨fun undisputed other passed _ => ?_,
              fun spares => spares intent rfl holdsFunds⟩
            cases passed
            exact undisputed
          · refine iff_of_true (Books.Calm.refl _).disputesFreeze fun other passed funds => ?_
            cases passed
            exact absurd funds holdsFunds
  | adminProcessPayout actorUserId payoutId dto answer now =>
      simp only [movements, payoutMovements, SparesDisputed]
      cases gate : payoutGate payoutId .approved "Only approved payouts can be processed"
          store with
      | error error =>
          apply iff_of_true (Books.Calm.refl _).disputesFreeze
          intro other passed
          cases passed
      | ok payout =>
          dsimp only
          split_ifs with settles
          · have stored := store.payouts.find?_key (payoutGate_eq_ok.mp gate).1
            refine (Movement.disputesFreeze_settlePayout stored).trans
              ⟨fun undisputed other passed _ => ?_, fun spares => spares payout rfl settles⟩
            cases passed
            exact undisputed
          · refine iff_of_true (Books.Calm.refl _).disputesFreeze fun other passed covered => ?_
            cases passed
            exact absurd covered settles
  | _ =>
      refine iff_of_true (Books.Calm.disputesFreeze ?_) trivial
      exact Movement.calm_run _ (paysNobody_movements store (by simp) (by simp))

end Operation

/-! ## Runs -/

/-- Along every run, disputes freeze releases and payouts exactly as long as none is let
through while a refund request of its intent waits. -/
theorem disputes_freeze_iff (market : Marketplace) (operations : List Operation) :
    payments.Along
        (fun store operation => store.DisputesFreeze (operation.perform store).toBooks)
        (Store.initial market) operations ↔
      payments.Along (fun store operation => operation.SparesDisputed store)
        (Store.initial market) operations :=
  @Machine.along_iff_along _ _ payments (fun store => store.Consistent) _ _
    (fun _ operation consistent => operation.disputesFreeze_iff consistent)
    (fun _ operation consistent _ => perform_consistent consistent operation)
    _ Books.initial_consistent operations

/-- The customer asks for the deposit back once the job is done; the worker's share is
released all the same. -/
theorem disputed_share_released :
    ¬ payments.Along
      (fun store operation => store.DisputesFreeze (operation.perform store).toBooks)
      (Store.initial sampleMarketplace)
      [sampleSelection, .payIntent 0 0 ⟨none⟩ (sampleAnswer .succeeded "charge") 2,
        .updateStatus 0 1 ⟨.accepted, none⟩ 3, .updateStatus 0 1 ⟨.inProgress, none⟩ 4,
        .updateStatus 0 1 ⟨.completed, none⟩ 5,
        .createJobRefundRequest 0 ⟨0, some .customer⟩ ⟨none, "Late", []⟩ 6,
        .adminReleaseProviderFunds samplePolicy 2 0 100000000] := by
  decide +kernel

end Tchuno.Payments
