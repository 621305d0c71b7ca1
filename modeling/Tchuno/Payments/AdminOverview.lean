import Tchuno.Payments.Conservation
import Tchuno.Payments.ProviderSummary

/-!
# The administration's overview

The overview groups the whole ledger by the actor of the entries; a provider's summary
joins the entries with the provider's intents.  The two show the same money, because no
entry stands outside an intent and no intent is without a provider.
-/

namespace Tchuno.Payments

open Tchuno.Library

/-! ## The service -/

/-- The `where` clause `{ actorType }`. -/
def ofActor (actorType : PaymentActorType) (entry : LedgerEntry) : Bool :=
  entry.actorType = actorType

structure PaymentKpis where
  totalIntents : Nat
  intentsAwaitingPayment : Nat
  intentsSucceeded : Nat
  intentsFailed : Nat
  totalTransactions : Nat
  failedTransactions : Nat
  pendingRefunds : Nat
  pendingPayouts : Nat
  platformReserved : Int
  providerHeld : Int
  providerAvailable : Int
  releaseDelayHours : Int

/-- `adminOverview`, with all its queries answered by one state of the database. -/
def adminOverview (policy : PaymentPolicy) (store : Store) : PaymentKpis where
  totalIntents := store.intents.rows.length
  intentsAwaitingPayment :=
    (store.intents.findMany fun intent =>
      intent.status ∈
        [PaymentIntentStatus.created, .awaitingPayment, .pendingConfirmation]).length
  intentsSucceeded :=
    (store.intents.findMany fun intent =>
      intent.status ∈ [PaymentIntentStatus.paidPartial, .succeeded]).length
  intentsFailed := (store.intents.findMany fun intent => intent.status = .failed).length
  totalTransactions := store.transactions.rows.length
  failedTransactions :=
    (store.transactions.findMany fun transaction => transaction.status = .failed).length
  pendingRefunds :=
    (store.refunds.findMany fun refund =>
      refund.status ∈ [RefundStatus.pending, .approved, .processing]).length
  pendingPayouts :=
    (store.payouts.findMany fun payout =>
      payout.status ∈ [PayoutStatus.pending, .approved, .processing]).length
  platformReserved := computeBucketNet store.ledger .platformReserved (ofActor .platform)
  providerHeld := computeBucketNet store.ledger .providerHeld (ofActor .provider)
  providerAvailable := computeBucketNet store.ledger .providerAvailable (ofActor .provider)
  releaseDelayHours := policy.releaseDelayHours

/-! ## Every entry has an intent, every intent a provider -/

/-- The optional references of these rows are all there. -/
structure Books.Attributed (books : Books) : Prop where
  intent_provider : ∀ intent ∈ books.intents, intent.providerUserId.isSome
  payout_intent : ∀ payout ∈ books.payouts, payout.paymentIntentId.isSome
  entry_intent : ∀ entry ∈ books.ledger, entry.paymentIntentId.isSome

theorem Books.initial_attributed : Books.initial.Attributed where
  intent_provider := by simp [Books.initial]
  payout_intent := by simp [Books.initial]
  entry_intent := by simp [Books.initial]

namespace Movement

variable {books : Books} {movement : Movement}

theorem intent_provider_apply (attributed : books.Attributed) {intent : PaymentIntent}
    (member : intent ∈ movement.intents books) : intent.providerUserId.isSome := by
  have of_old : ∀ old ∈ books.intents, intent.fixed = old.fixed →
      intent.providerUserId.isSome := by
    intro old older same
    have sameProvider : intent.providerUserId = old.providerUserId :=
      field_eq same PaymentIntent.providerUserId fun _ => rfl
    rw [sameProvider]
    exact attributed.intent_provider old older
  cases movement with
  | selectProposal policy request terms actorUserId =>
      simp only [intents] at member
      rcases Table.eq_or_mem_of_insert member with rfl | older
      · rfl
      · exact of_old intent older rfl
  | openIntent split actorUserId dto now job providerUserId =>
      simp only [intents] at member
      rcases Table.eq_or_mem_of_insert member with rfl | older
      · rfl
      · exact of_old intent older rfl
  | moveJob job requesterId dto now =>
      simp only [intents] at member
      split_ifs at member
      · obtain ⟨old, older, same⟩ :=
          Table.Evolves.origin_updateMany PaymentIntent.fixed member fun _ => rfl
        exact of_old old older same
      · exact of_old intent member rfl
  | applyReport report =>
      simp only [intents] at member
      split at member
      · obtain ⟨old, older, same⟩ :=
          Table.Evolves.origin_update PaymentIntent.fixed member fun _ => rfl
        exact of_old old older same
      · exact of_old intent member rfl
  | _ =>
      exact of_old intent member rfl

theorem payout_intent_apply (attributed : books.Attributed) {payout : Payout}
    (member : payout ∈ movement.payouts books) : payout.paymentIntentId.isSome := by
  have of_old : ∀ old ∈ books.payouts, payout.fixed = old.fixed →
      payout.paymentIntentId.isSome := by
    intro old older same
    have sameIntent : payout.paymentIntentId = old.paymentIntentId :=
      field_eq same Payout.paymentIntentId fun _ => rfl
    rw [sameIntent]
    exact attributed.payout_intent old older
  cases movement with
  | openPayout intent actorUserId dto =>
      simp only [payouts] at member
      rcases Table.eq_or_mem_of_insert member with rfl | older
      · rfl
      · exact of_old payout older rfl
  | approvePayout target actorUserId =>
      obtain ⟨old, older, same⟩ :=
        Table.Evolves.origin_update Payout.fixed member fun _ => rfl
      exact of_old old older same
  | settlePayout target actorUserId dto answer now =>
      obtain ⟨old, older, same⟩ :=
        Table.Evolves.origin_update Payout.fixed member fun _ => rfl
      exact of_old old older same
  | _ =>
      exact of_old payout member rfl

/-- A movement which books entries has an intent to book them for. -/
theorem intentOf_isSome (admitted : movement.Admitted books) (attributed : books.Attributed)
    {entry : LedgerEntry} (member : entry ∈ movement.entries books) :
    (movement.intentOf books).isSome := by
  cases movement with
  | applyReport report =>
      cases opened : report.intent? books with
      | none =>
          simp [entries, opened] at member
      | some intent =>
          simp [intentOf, opened]
  | settleRefund order actorUserId decisionNote answer now =>
      rfl
  | settlePayout payout actorUserId dto answer now =>
      exact attributed.payout_intent payout (books.payouts.mem_of_find? admitted.1)
  | releaseFunds intent actorUserId =>
      rfl
  | _ =>
      exact absurd member List.not_mem_nil

theorem attributed_apply (admitted : movement.Admitted books)
    (attributed : books.Attributed) : (movement.apply books).Attributed where
  intent_provider := fun _ member => intent_provider_apply attributed member
  payout_intent := fun _ member => payout_intent_apply attributed member
  entry_intent := by
    intro entry member
    rcases List.mem_append.mp member with older | newer
    · exact attributed.entry_intent entry older
    · rw [(entries_booked books movement entry newer).1]
      exact intentOf_isSome admitted attributed newer

end Movement

theorem reachable_attributed {store : Store}
    (reachable : payments.Reachable Store.IsInitial store) : store.Attributed :=
  (reachable_invariant (fun _ _ _ admitted attributed =>
    Movement.attributed_apply admitted attributed) Books.initial_attributed reachable).2

/-! ## Sums over the intents -/

/-- The providers of the stored intents. -/
def Books.providers (books : Books) : Finset UserId :=
  (books.intents.rows.filterMap PaymentIntent.providerUserId).toFinset

section Sums

variable {store : Store} (reachable : payments.Reachable Store.IsInitial store)

include reachable

/-- A sum over accepted entries is that of the sums for each intent. -/
theorem sum_by_intent (accept : LedgerEntry → Bool) (weight : LedgerEntry → Int) :
    ((store.ledger.filter accept).map weight).sum =
      (store.intents.rows.map fun intent =>
        (((store.ledger.filter accept).filter fun entry =>
          entry.paymentIntentId = some intent.id).map weight).sum).sum := by
  have leads : ∀ entry ∈ store.ledger.filter accept,
      store.intents.leadsTo (fun _ => true) entry.paymentIntentId = true := by
    intro entry member
    have stored := List.mem_of_mem_filter member
    obtain ⟨intentId, names⟩ := Option.isSome_iff_exists.mp
      ((reachable_attributed reachable).entry_intent entry stored)
    obtain ⟨intent, found⟩ := Option.isSome_iff_exists.mp
      ((reachable_consistent reachable).entry_intent entry stored intentId names)
    simp [Table.leadsTo, names, found]
  have everyRow : store.intents.rows.filter (fun _ => true) = store.intents.rows :=
    List.filter_eq_self.mpr fun _ _ => rfl
  calc ((store.ledger.filter accept).map weight).sum
      = (((store.ledger.filter accept).filter fun entry =>
          store.intents.leadsTo (fun _ => true) entry.paymentIntentId).map weight).sum := by
        rw [List.filter_eq_self.mpr leads]
    _ = _ := by
        rw [store.intents.sum_leadsTo (store.ledger.filter accept)
          LedgerEntry.paymentIntentId weight fun _ => true, everyRow]
        rfl

/-- What the overview shows of a bucket is what its intents have there. -/
theorem computeBucketNet_ofActor (bucket : LedgerBalanceBucket) :
    computeBucketNet store.ledger bucket (ofActor bucket.actorType) =
      (store.intents.rows.map fun intent => store.bucketNet intent.id bucket).sum := by
  rw [computeBucketNet_eq_sum, sum_by_intent reachable]
  refine congrArg List.sum (List.map_congr_left fun intent _ => ?_)
  rw [Store.bucketNet, computeBucketNet_eq_sum, List.filter_filter]
  refine congrArg (fun rows => (List.map LedgerEntry.signedAmount rows).sum)
    (List.filter_congr fun entry _ => ?_)
  rw [ofIntent, ofActor, Bool.and_comm, Bool.and_assoc]

theorem sumAmounts_ofType (entryType : LedgerEntryType) :
    sumAmounts (store.ledger.filter fun entry => entry.entryType = entryType) =
      (store.intents.rows.map fun intent =>
        amountOfType store.ledger intent.id entryType).sum := by
  rw [sumAmounts, sum_by_intent reachable]
  refine congrArg List.sum (List.map_congr_left fun intent _ => ?_)
  rw [amountOfType, sumAmounts, List.filter_filter]

/-- What the overview shows of a bucket is what the providers' summaries show. -/
theorem sum_providerBalance {bucket : LedgerBalanceBucket}
    (held : bucket.actorType = .provider) :
    ∑ userId ∈ store.providers, providerBalance store.toBooks bucket userId =
      computeBucketNet store.ledger bucket (ofActor .provider) := by
  have owned : ∀ intent ∈ store.intents.rows,
      ∃ userId ∈ store.providers, intent.providerUserId = some userId := by
    intro intent member
    obtain ⟨userId, provided⟩ := Option.isSome_iff_exists.mp
      ((reachable_attributed reachable).intent_provider intent member)
    refine ⟨userId, ?_, provided⟩
    rw [Books.providers, List.mem_toFinset, List.mem_filterMap]
    exact ⟨intent, member, provided⟩
  rw [← held, computeBucketNet_ofActor reachable,
    ← Table.sum_by_owner store.intents.rows PaymentIntent.providerUserId _ _ owned]
  refine Finset.sum_congr rfl fun userId _ => ?_
  rw [providerBalance_eq_sum, ← held]
  rfl

/-- No summary shows a negative balance. -/
theorem providerBalance_nonneg {bucket : LedgerBalanceBucket}
    (held : bucket.actorType = .provider) (userId : UserId) :
    0 ≤ providerBalance store.toBooks bucket userId := by
  have internal : bucket ≠ .customerExternal := by
    rintro rfl
    cases held
  rw [providerBalance_eq_sum, ← held]
  refine List.sum_nonneg fun amount made => ?_
  obtain ⟨intent, _, rfl⟩ := List.mem_map.mp made
  exact bucketNet_nonneg reachable intent.id internal

/-- Everything charged was refunded or is in one of the four internal buckets. -/
theorem charges_eq :
    sumAmounts (store.ledger.filter fun entry => entry.entryType = .customerCharge) =
      sumAmounts (store.ledger.filter fun entry => entry.entryType = .customerRefund) +
        computeBucketNet store.ledger .platformReserved (ofActor .platform) +
        computeBucketNet store.ledger .providerHeld (ofActor .provider) +
        computeBucketNet store.ledger .providerAvailable (ofActor .provider) +
        computeBucketNet store.ledger .providerPaidOut (ofActor .provider) := by
  have reserved := computeBucketNet_ofActor reachable .platformReserved
  have held := computeBucketNet_ofActor reachable .providerHeld
  have available := computeBucketNet_ofActor reachable .providerAvailable
  have paidOut := computeBucketNet_ofActor reachable .providerPaidOut
  simp only [LedgerBalanceBucket.actorType] at reserved held available paidOut
  rw [reserved, held, available, paidOut, sumAmounts_ofType reachable,
    sumAmounts_ofType reachable, ← List.sum_map_add, ← List.sum_map_add,
    ← List.sum_map_add, ← List.sum_map_add]
  refine congrArg List.sum (List.map_congr_left fun intent _ => ?_)
  have conserved := charged_sub_refunded reachable intent.id
  omega

end Sums

/-! ## Two views of the same money -/

/-- The overview shows what the summaries of the providers add up to, no figure is
negative, and everything customers were charged was refunded to them, is shown, or was
paid out. -/
theorem overview_agrees_with_summaries (policy : PaymentPolicy) (market : Marketplace)
    (operations : List Operation) :
    let store := payments.run (Store.initial market) operations
    let overview := adminOverview policy store
    let balances := fun userId => (getProviderSummary userId store).balances
    overview.providerHeld = ∑ userId ∈ store.providers, (balances userId).held ∧
      overview.providerAvailable = ∑ userId ∈ store.providers, (balances userId).available ∧
      0 ≤ overview.platformReserved ∧
      (∀ userId, 0 ≤ (balances userId).held ∧ 0 ≤ (balances userId).available ∧
        0 ≤ (balances userId).paidOut) ∧
      sumAmounts (store.ledger.filter fun entry => entry.entryType = .customerCharge) =
        sumAmounts (store.ledger.filter fun entry => entry.entryType = .customerRefund) +
          overview.platformReserved + overview.providerHeld + overview.providerAvailable +
          ∑ userId ∈ store.providers, (balances userId).paidOut := by
  intro store overview balances
  have reachable := reachable_run market operations
  have paidOut : ∑ userId ∈ store.providers, (balances userId).paidOut =
      computeBucketNet store.ledger .providerPaidOut (ofActor .provider) :=
    sum_providerBalance reachable rfl
  refine ⟨(sum_providerBalance reachable rfl).symm, (sum_providerBalance reachable rfl).symm,
    ?_, ?_, ?_⟩
  · have reserved := computeBucketNet_ofActor reachable .platformReserved
    rw [LedgerBalanceBucket.actorType] at reserved
    change 0 ≤ computeBucketNet store.ledger .platformReserved (ofActor .platform)
    rw [reserved]
    refine List.sum_nonneg fun amount made => ?_
    obtain ⟨intent, _, rfl⟩ := List.mem_map.mp made
    exact bucketNet_nonneg reachable intent.id (by decide)
  · intro userId
    exact ⟨providerBalance_nonneg reachable rfl userId,
      providerBalance_nonneg reachable rfl userId,
      providerBalance_nonneg reachable rfl userId⟩
  · have charged := charges_eq reachable
    rw [← paidOut] at charged
    exact charged

end Tchuno.Payments
