import Tchuno.Payments.Escrow

/-!
# Conservation and solvency of the ledger

The two laws of the ledger of every payment intent: debits and credits cancel,
so what the customer has paid and not got back is in one of the four internal
buckets; and no internal bucket is ever overdrawn.
-/

namespace Tchuno.Payments

open Tchuno.Library

/-! ## The customer's side -/

/-- Sum of the entries of one type of an intent. -/
def amountOfType (ledger : List LedgerEntry) (intentId : IntentId)
    (entryType : LedgerEntryType) : Int :=
  sumAmounts (ledger.filter fun entry =>
    entry.paymentIntentId = some intentId && entry.entryType = entryType)

theorem amountOfType_append (first second : List LedgerEntry) (intentId : IntentId)
    (entryType : LedgerEntryType) :
    amountOfType (first ++ second) intentId entryType =
      amountOfType first intentId entryType + amountOfType second intentId entryType := by
  simp [amountOfType, sumAmounts]

theorem amountOfType_cons (entry : LedgerEntry) (rest : List LedgerEntry)
    (intentId : IntentId) (entryType : LedgerEntryType) :
    amountOfType (entry :: rest) intentId entryType =
      (if entry.paymentIntentId = some intentId ∧ entry.entryType = entryType then
        entry.amount
      else
        0) + amountOfType rest intentId entryType := by
  by_cases counted : entry.paymentIntentId = some intentId ∧ entry.entryType = entryType
  · simp [amountOfType, sumAmounts, counted]
  · rw [if_neg counted, amountOfType, List.filter_cons_of_neg (by simpa using counted),
      zero_add, amountOfType]

/-- The customer's bucket is debited by charges, credited by refunds, and touched
by nothing else. -/
def LedgerEntry.CustomerSided (entry : LedgerEntry) : Prop :=
  match entry.entryType with
  | .customerCharge =>
      entry.balanceBucket = .customerExternal ∧ entry.direction = .debit
  | .customerRefund =>
      entry.balanceBucket = .customerExternal ∧ entry.direction = .credit
  | _ => entry.balanceBucket ≠ .customerExternal

theorem reversalEntry_customerSided (intent : PaymentIntent)
    (transactionId : TransactionId) (actorUserId : UserId) (actorType : PaymentActorType)
    {bucket : LedgerBalanceBucket} (internal : bucket ≠ .customerExternal) (amount : Int)
    (description : String) :
    ∀ entry ∈ reversalEntry intent transactionId actorUserId actorType bucket amount
        description,
      entry.CustomerSided := by
  unfold reversalEntry
  split_ifs <;> simp [LedgerEntry.CustomerSided, internal]

theorem refundEntries_customerSided (intent : PaymentIntent)
    (transactionId : TransactionId) (amount : Int) (shares : RefundShares)
    (balances : RefundableBalances) (actorUserId : UserId) :
    ∀ entry ∈ refundEntries intent transactionId amount shares balances actorUserId,
      entry.CustomerSided := by
  intro entry member
  simp only [refundEntries, List.mem_append, List.mem_singleton] at member
  rcases member with ((platform | held) | available) | rfl
  · exact reversalEntry_customerSided _ _ _ _ (by decide) _ _ entry platform
  · exact reversalEntry_customerSided _ _ _ _ (by decide) _ _ entry held
  · exact reversalEntry_customerSided _ _ _ _ (by decide) _ _ entry available
  · exact ⟨rfl, rfl⟩

theorem Movement.entries_customerSided (books : Books) (movement : Movement) :
    ∀ entry ∈ movement.entries books, entry.CustomerSided := by
  intro entry member
  cases movement with
  | applyReport report =>
      simp only [entries] at member
      split at member
      · split_ifs at member
        · simp only [chargeEntries, List.mem_cons, List.not_mem_nil, or_false] at member
          rcases member with rfl | rfl | rfl <;> simp [LedgerEntry.CustomerSided]
        · simp at member
      · simp at member
  | settleRefund order actorUserId decisionNote answer now =>
      simp only [entries] at member
      split_ifs at member
      · exact refundEntries_customerSided _ _ _ _ _ _ entry member
      · simp at member
  | settlePayout payout actorUserId dto answer now =>
      simp only [entries, payoutEntries, providerTransfer] at member
      split_ifs at member
      · simp only [List.mem_cons, List.not_mem_nil, or_false] at member
        rcases member with rfl | rfl <;> simp [LedgerEntry.CustomerSided]
      · simp at member
  | releaseFunds intent actorUserId =>
      simp only [entries, releaseEntries, providerTransfer, List.mem_cons,
        List.not_mem_nil, or_false] at member
      rcases member with rfl | rfl <;> simp [LedgerEntry.CustomerSided]
  | _ =>
      simp [entries] at member

/-- The balance of the customer's bucket is what was refunded less what was
charged. -/
theorem balance_customerExternal {ledger : List LedgerEntry}
    (sided : ∀ entry ∈ ledger, entry.CustomerSided) (intentId : IntentId) :
    Journal.balance (intentJournal ledger intentId) .customerExternal =
      amountOfType ledger intentId .customerRefund -
        amountOfType ledger intentId .customerCharge := by
  induction ledger with
  | nil =>
      rfl
  | cons entry rest inductionHypothesis =>
      have later := inductionHypothesis fun other member =>
        sided other (List.mem_cons_of_mem entry member)
      have atEntry := sided entry List.mem_cons_self
      rw [amountOfType_cons, amountOfType_cons, ← List.singleton_append,
        intentJournal_append, Journal.balance_append, later]
      by_cases counted : entry.paymentIntentId = some intentId
      · cases type : entry.entryType <;>
          simp [LedgerEntry.CustomerSided, type] at atEntry <;>
          simp [intentJournal, counted, Journal.balance_cons, LedgerEntry.posting,
            LedgerEntry.signedAmount, atEntry] <;> omega
      · simp [intentJournal, counted]

theorem reachable_customerSided {store : Store}
    (reachable : payments.Reachable Store.IsInitial store) :
    ∀ entry ∈ store.ledger, entry.CustomerSided := by
  refine (@reachable_invariant (fun books => ∀ entry ∈ books.ledger, entry.CustomerSided)
    ?_ (by simp [Books.initial]) store reachable).2
  intro books movement _ _ sided entry member
  rcases List.mem_append.mp member with older | newer
  · exact sided entry older
  · exact Movement.entries_customerSided books movement entry newer

/-! ## Conservation -/

instance : Fintype LedgerBalanceBucket where
  elems := {.customerExternal, .platformReserved, .platformAvailable, .providerHeld,
    .providerAvailable, .providerPaidOut}
  complete := by
    intro bucket
    cases bucket <;> decide

/-- The balance of a bucket of an intent, as the services compute it. -/
def Store.bucketNet (store : Store) (intentId : IntentId) (bucket : LedgerBalanceBucket) :
    Int :=
  computeBucketNet store.ledger bucket (ofIntent bucket.actorType (some intentId))

/-- What the customer of an intent has paid net of refunds is in its four internal
buckets. -/
theorem charged_sub_refunded {store : Store}
    (reachable : payments.Reachable Store.IsInitial store) (intentId : IntentId) :
    amountOfType store.ledger intentId .customerCharge -
        amountOfType store.ledger intentId .customerRefund =
      store.bucketNet intentId .platformReserved + store.bucketNet intentId .providerHeld +
        store.bucketNet intentId .providerAvailable +
        store.bucketNet intentId .providerPaidOut := by
  obtain ⟨account, holds⟩ := reachable_holds reachable intentId
  have conserved := account.conserved
  have customer := balance_customerExternal (reachable_customerSided reachable) intentId
  rw [holds] at customer
  simp only [Store.bucketNet, computeBucketNet_of_holds (reachable_consistent reachable) holds]
  simp only [bucketBalance] at customer ⊢
  omega

/-- Debits and credits of every intent cancel, and what its customer has paid
net of refunds is in its four internal buckets. -/
theorem ledger_conserved (market : Marketplace) (operations : List Operation)
    (intentId : IntentId) :
    let store := payments.run (Store.initial market) operations
    ((store.ledger.filter fun entry => entry.paymentIntentId = some intentId).map
        LedgerEntry.signedAmount).sum = 0 ∧
      amountOfType store.ledger intentId .customerCharge -
          amountOfType store.ledger intentId .customerRefund =
        store.bucketNet intentId .platformReserved +
          store.bucketNet intentId .providerHeld +
          store.bucketNet intentId .providerAvailable +
          store.bucketNet intentId .providerPaidOut := by
  intro store
  have reachable := reachable_run market operations
  constructor
  · obtain ⟨account, holds⟩ := reachable_holds reachable intentId
    have conserved := account.conserved
    have entries : ((store.ledger.filter fun entry =>
        entry.paymentIntentId = some intentId).map LedgerEntry.signedAmount).sum =
        Journal.total (intentJournal store.ledger intentId) := by
      rw [Journal.total, intentJournal, List.map_map]
      rfl
    have buckets : ∑ bucket, bucketBalance account bucket =
        -account.paid + (account.reserved + (0 + (account.held +
          (account.available + (account.paidOut + 0))))) := rfl
    rw [entries, ← Journal.sum_balance, Finset.sum_congr rfl fun bucket _ => holds bucket,
      buckets]
    omega
  · exact charged_sub_refunded reachable intentId

/-! ## Solvency -/

/-- What entries take out of a bucket of an intent. -/
def debited (entries : List LedgerEntry) (intentId : IntentId)
    (bucket : LedgerBalanceBucket) : Int :=
  sumAmounts (entries.filter fun entry =>
    entry.paymentIntentId = some intentId && entry.balanceBucket = bucket &&
      entry.direction = .debit)

/-- All entries of the group on this bucket go in one direction. -/
def OneSided (entries : List LedgerEntry) (bucket : LedgerBalanceBucket) : Prop :=
  ∃ direction, ∀ entry ∈ entries, entry.balanceBucket = bucket → entry.direction = direction

theorem reversalEntry_debit (intent : PaymentIntent) (transactionId : TransactionId)
    (actorUserId : UserId) (actorType : PaymentActorType) (bucket : LedgerBalanceBucket)
    (amount : Int) (description : String) :
    ∀ entry ∈ reversalEntry intent transactionId actorUserId actorType bucket amount
        description,
      entry.direction = .debit ∧ entry.balanceBucket = bucket := by
  unfold reversalEntry
  split_ifs <;> simp

theorem refundEntries_oneSided (intent : PaymentIntent) (transactionId : TransactionId)
    (amount : Int) (shares : RefundShares) (balances : RefundableBalances)
    (actorUserId : UserId) (bucket : LedgerBalanceBucket) :
    OneSided (refundEntries intent transactionId amount shares balances actorUserId)
      bucket := by
  refine ⟨if bucket = .customerExternal then .credit else .debit, ?_⟩
  intro entry member onBucket
  simp only [refundEntries, List.mem_append, List.mem_singleton] at member
  rcases member with ((platform | held) | available) | rfl
  · obtain ⟨debit, target⟩ := reversalEntry_debit _ _ _ _ _ _ _ entry platform
    simp [debit, ← onBucket, target]
  · obtain ⟨debit, target⟩ := reversalEntry_debit _ _ _ _ _ _ _ entry held
    simp [debit, ← onBucket, target]
  · obtain ⟨debit, target⟩ := reversalEntry_debit _ _ _ _ _ _ _ entry available
    simp [debit, ← onBucket, target]
  · simp [← onBucket]

theorem providerTransfer_oneSided {jobId : Option JobId} {intentId : Option IntentId}
    {transactionId : Option TransactionId} {entryType : LedgerEntryType} {amount : Int}
    {currency sourceText targetText : String} {source target : LedgerBalanceBucket}
    {actorUserId : UserId} (apart : source ≠ target) (bucket : LedgerBalanceBucket) :
    OneSided
      (providerTransfer jobId intentId transactionId entryType amount currency source target
        sourceText targetText actorUserId) bucket := by
  refine ⟨if bucket = source then .debit else .credit, ?_⟩
  intro entry member onBucket
  simp only [providerTransfer, List.mem_cons, List.not_mem_nil, or_false] at member
  rcases member with rfl | rfl
  · simp [← onBucket]
  · simp [← onBucket, apart.symm]

theorem Movement.entries_oneSided (books : Books) (movement : Movement)
    (bucket : LedgerBalanceBucket) : OneSided (movement.entries books) bucket := by
  have nothing : OneSided [] bucket := ⟨.debit, by simp⟩
  cases movement with
  | applyReport report =>
      simp only [entries]
      split
      · split_ifs
        · refine ⟨if bucket = .customerExternal then .debit else .credit, ?_⟩
          intro entry member onBucket
          simp only [chargeEntries, List.mem_cons, List.not_mem_nil, or_false] at member
          rcases member with rfl | rfl | rfl <;> simp [← onBucket]
        · exact nothing
      · exact nothing
  | settleRefund order actorUserId decisionNote answer now =>
      simp only [entries]
      split_ifs
      · exact refundEntries_oneSided ..
      · exact nothing
  | settlePayout payout actorUserId dto answer now =>
      simp only [entries]
      split_ifs
      · exact providerTransfer_oneSided (by decide) bucket
      · exact nothing
  | releaseFunds intent actorUserId =>
      exact providerTransfer_oneSided (by decide) bucket
  | _ =>
      exact nothing

/-- A one-sided group takes out of a bucket no more than the balance it leaves
non-negative. -/
theorem debited_le_of_oneSided {entries : List LedgerEntry} {bucket : LedgerBalanceBucket}
    (oneSided : OneSided entries bucket) (intentId : IntentId) {balance : Int}
    (before : 0 ≤ balance)
    (after : 0 ≤ balance + Journal.balance (intentJournal entries intentId) bucket) :
    debited entries intentId bucket ≤ balance := by
  obtain ⟨direction, sided⟩ := oneSided
  cases direction with
  | credit =>
      have nothing : debited entries intentId bucket = 0 := by
        rw [debited, List.filter_eq_nil_iff.mpr]
        · rfl
        · intro entry member
          simp only [Bool.and_eq_true, decide_eq_true_eq, not_and]
          rintro ⟨_, onBucket⟩
          simp [sided entry member onBucket]
      rw [nothing]
      exact before
  | debit =>
      have everything : debited entries intentId bucket =
          -Journal.balance (intentJournal entries intentId) bucket := by
        clear before after
        induction entries with
        | nil =>
            rfl
        | cons entry rest inductionHypothesis =>
            have later := inductionHypothesis fun other member =>
              sided other (List.mem_cons_of_mem entry member)
            have atEntry := sided entry List.mem_cons_self
            rw [← List.singleton_append, intentJournal_append, Journal.balance_append,
              neg_add, ← later]
            by_cases counted : entry.paymentIntentId = some intentId ∧
                entry.balanceBucket = bucket
            · simp [debited, sumAmounts, intentJournal, Journal.balance_cons, counted,
                atEntry counted.2, LedgerEntry.posting, LedgerEntry.signedAmount]
            · by_cases ofIntent : entry.paymentIntentId = some intentId
              · have apart : entry.balanceBucket ≠ bucket := fun same =>
                  counted ⟨ofIntent, same⟩
                simp [debited, sumAmounts, intentJournal, Journal.balance_cons, apart,
                  ofIntent, LedgerEntry.posting]
              · simp [debited, sumAmounts, intentJournal, ofIntent]
      rw [everything]
      omega

theorem bucketBalance_nonneg (account : Escrow Int) {bucket : LedgerBalanceBucket}
    (internal : bucket ≠ .customerExternal) : 0 ≤ bucketBalance account bucket := by
  cases bucket with
  | customerExternal =>
      exact absurd rfl internal
  | platformAvailable =>
      exact le_refl 0
  | platformReserved =>
      exact account.reserved_nonneg
  | providerHeld =>
      exact account.held_nonneg
  | providerAvailable =>
      exact account.available_nonneg
  | providerPaidOut =>
      exact account.paidOut_nonneg

/-- The entries an operation appends. -/
def Operation.posted (store : Store) (operation : Operation) : List LedgerEntry :=
  (operation.perform store).ledger.drop store.ledger.length

theorem bucketNet_nonneg {store : Store}
    (reachable : payments.Reachable Store.IsInitial store) (intentId : IntentId)
    {bucket : LedgerBalanceBucket} (internal : bucket ≠ .customerExternal) :
    0 ≤ store.bucketNet intentId bucket := by
  obtain ⟨account, holds⟩ := reachable_holds reachable intentId
  rw [Store.bucketNet, computeBucketNet_of_holds (reachable_consistent reachable) holds]
  exact bucketBalance_nonneg account internal

/-- No internal bucket of an intent is negative, and every operation takes out of
a bucket at most what it holds. -/
theorem buckets_solvent (market : Marketplace) (operations : List Operation)
    (intentId : IntentId) {bucket : LedgerBalanceBucket}
    (internal : bucket ≠ .customerExternal) :
    let store := payments.run (Store.initial market) operations
    0 ≤ store.bucketNet intentId bucket ∧
      ∀ operation : Operation,
        debited (operation.posted store) intentId bucket ≤ store.bucketNet intentId bucket := by
  intro store
  have reachable := reachable_run market operations
  have consistent := reachable_consistent reachable
  obtain ⟨account, holds⟩ := reachable_holds reachable intentId
  have before := bucketNet_nonneg reachable intentId internal
  refine ⟨before, fun operation => ?_⟩
  rcases perform_ledger consistent operation with
    same | ⟨books, movement, _, _, _, grown⟩
  · have nothing : operation.posted store = [] := by
      rw [Operation.posted, same, List.drop_length]
    rw [nothing]
    exact before
  · have appended : operation.posted store = movement.entries books := by
      rw [Operation.posted, grown, List.drop_left]
    rw [appended]
    refine debited_le_of_oneSided (Movement.entries_oneSided books movement bucket) intentId
      before ?_
    obtain ⟨later, holdsLater⟩ := reachable_holds (reachable.next operation) intentId
    have after := holdsLater bucket
    rw [show (payments.step _ operation).ledger = _ from grown, intentJournal_append,
      Journal.balance_append, holds bucket] at after
    rw [Store.bucketNet, computeBucketNet_of_holds consistent holds, after]
    exact bucketBalance_nonneg later internal

/-- The platform's reserve after half of a paid deposit was refunded. -/
theorem reserve_solvent :
    let store := payments.run (Store.initial sampleMarketplace)
      [sampleSelection, .payIntent 0 0 ⟨none⟩ (sampleAnswer .succeeded "charge") 2,
        .adminCreateRefund 2 ⟨0, some ⟨150, by decide⟩, "Half", []⟩
          (sampleAnswer .succeeded "half") 3]
    0 ≤ store.bucketNet 0 .platformReserved ∧
      ∀ operation : Operation,
        debited (operation.posted store) 0 .platformReserved ≤
          store.bucketNet 0 .platformReserved :=
  buckets_solvent sampleMarketplace _ 0 (by decide)

end Tchuno.Payments
