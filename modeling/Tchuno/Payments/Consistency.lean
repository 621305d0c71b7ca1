import Tchuno.Payments.Admission

/-!
# What every reachable store satisfies

References point to existing rows, amounts have their signs, entries are booked
for the actor of their bucket.  Rows are never deleted, and what identifies a
row never changes; both are checked table by table against the movements.
-/

namespace Tchuno.Payments

open Tchuno.Library

/-! ## What never changes in a row -/

def Job.fixed (job : Job) : Job :=
  { job with
    status := .requested
    acceptedAt := none
    startedAt := none
    completedAt := none
    canceledAt := none
    canceledBy := none
    cancelReason := none
    contactUnlockedAt := none }

def PaymentIntent.fixed (intent : PaymentIntent) : PaymentIntent :=
  { intent with status := .created }

def PaymentTransaction.fixed (transaction : PaymentTransaction) : PaymentTransaction :=
  { transaction with
    status := .pending
    confirmedAmount := none
    providerPayload := none
    failureReason := none
    processedAt := none
    updatedAt := 0 }

def RefundRequest.fixed (refund : RefundRequest) : RefundRequest :=
  { refund with
    status := .pending
    transactionId := none
    approvedByUserId := none
    decisionNote := none
    providerReference := none
    processedAt := none
    failureReason := none }

def Payout.fixed (payout : Payout) : Payout :=
  { payout with
    status := .pending
    approvedByUserId := none
    providerReference := none
    processedAt := none
    failureReason := none }

/-- A field which is part of what never changes. -/
theorem field_eq {ρ τ : Type} {fixed : ρ → ρ} {present old : ρ}
    (same : fixed present = fixed old) (field : ρ → τ)
    (kept : ∀ row, field (fixed row) = field row) : field present = field old := by
  rw [← kept present, same, kept]

namespace Movement

variable (books : Books) (movement : Movement)

theorem jobs_evolve :
    Table.Evolves Job.fixed books.jobs (movement.jobs books) := by
  cases movement with
  | selectProposal policy request terms actorUserId =>
      exact Table.Evolves.insert _ _ _ fun _ => rfl
  | moveJob job requesterId dto now =>
      exact Table.Evolves.update _ _ _ _ _ fun _ => rfl
  | applyReport report =>
      simp only [jobs]
      split
      · split_ifs
        · exact Table.Evolves.update _ _ _ _ _ fun _ => rfl
        · exact Table.Evolves.refl _ _
      · exact Table.Evolves.refl _ _
  | _ =>
      exact Table.Evolves.refl _ _

theorem intents_evolve :
    Table.Evolves PaymentIntent.fixed books.intents (movement.intents books) := by
  cases movement with
  | selectProposal policy request terms actorUserId =>
      exact Table.Evolves.insert _ _ _ fun _ => rfl
  | openIntent split actorUserId dto now job providerUserId =>
      exact Table.Evolves.insert _ _ _ fun _ => rfl
  | moveJob job requesterId dto now =>
      simp only [intents]
      split_ifs
      · exact Table.Evolves.updateMany _ _ _ _ _ fun _ => rfl
      · exact Table.Evolves.refl _ _
  | applyReport report =>
      simp only [intents]
      split
      · exact Table.Evolves.update _ _ _ _ _ fun _ => rfl
      · exact Table.Evolves.refl _ _
  | _ =>
      exact Table.Evolves.refl _ _

theorem transactions_evolve :
    Table.Evolves PaymentTransaction.fixed books.transactions
      (movement.transactions books) := by
  cases movement with
  | attemptCharge intent idempotencyKey answer now =>
      exact Table.Evolves.insert _ _ _ fun _ => rfl
  | settleRefund order actorUserId decisionNote answer now =>
      exact Table.Evolves.insert _ _ _ fun _ => rfl
  | settlePayout payout actorUserId dto answer now =>
      exact Table.Evolves.insert _ _ _ fun _ => rfl
  | applyReport report =>
      exact Table.Evolves.update _ _ _ _ _ fun _ => rfl
  | _ =>
      exact Table.Evolves.refl _ _

theorem refunds_evolve :
    Table.Evolves RefundRequest.fixed books.refunds (movement.refunds books) := by
  cases movement with
  | openRefund intent requestedByUserId amount reason evidenceItems =>
      exact Table.Evolves.insert _ _ _ fun _ => rfl
  | cancelRefund refund now =>
      exact Table.Evolves.update _ _ _ _ _ fun _ => rfl
  | rejectRefund refund actorUserId dto now =>
      exact Table.Evolves.update _ _ _ _ _ fun _ => rfl
  | settleRefund order actorUserId decisionNote answer now =>
      refine Table.Evolves.trans
        (Table.Evolves.update _ _ order.refund.id
          (approvedRefund order.refund actorUserId decisionNote) (fun _ => rfl)
          fun _ => rfl) ?_
      exact Table.Evolves.update _ _ _ _ _ fun _ => rfl
  | _ =>
      exact Table.Evolves.refl _ _

theorem payouts_evolve :
    Table.Evolves Payout.fixed books.payouts (movement.payouts books) := by
  cases movement with
  | openPayout intent actorUserId dto =>
      exact Table.Evolves.insert _ _ _ fun _ => rfl
  | approvePayout payout actorUserId =>
      exact Table.Evolves.update _ _ _ _ _ fun _ => rfl
  | settlePayout payout actorUserId dto answer now =>
      exact Table.Evolves.update _ _ _ _ _ fun _ => rfl
  | _ =>
      exact Table.Evolves.refl _ _

end Movement

/-! ## Whose entries a movement books -/

/-- The intent, the transaction and the actor an entry is booked for. -/
def LedgerEntry.BookedFor (intentId : Option IntentId)
    (transactionId : Option TransactionId) (entry : LedgerEntry) : Prop :=
  entry.paymentIntentId = intentId ∧ entry.transactionId = transactionId ∧
    entry.actorType = entry.balanceBucket.actorType

theorem chargeEntries_booked (intent : PaymentIntent) (transactionId : TransactionId) :
    ∀ entry ∈ chargeEntries intent transactionId,
      entry.BookedFor (some intent.id) (some transactionId) := by
  simp [chargeEntries, LedgerEntry.BookedFor, LedgerBalanceBucket.actorType]

theorem reversalEntry_booked (intent : PaymentIntent) (transactionId : TransactionId)
    (actorUserId : UserId) (bucket : LedgerBalanceBucket) (amount : Int)
    (description : String) :
    ∀ entry ∈ reversalEntry intent transactionId actorUserId bucket.actorType bucket amount
        description,
      entry.BookedFor (some intent.id) (some transactionId) := by
  unfold reversalEntry
  split_ifs <;> simp [LedgerEntry.BookedFor]

theorem refundEntries_booked (intent : PaymentIntent) (transactionId : TransactionId)
    (amount : Int) (shares : RefundShares) (balances : RefundableBalances)
    (actorUserId : UserId) :
    ∀ entry ∈ refundEntries intent transactionId amount shares balances actorUserId,
      entry.BookedFor (some intent.id) (some transactionId) := by
  intro entry member
  simp only [refundEntries, List.mem_append, List.mem_singleton] at member
  rcases member with ((platform | held) | available) | rfl
  · exact reversalEntry_booked _ _ _ .platformReserved _ _ _ platform
  · exact reversalEntry_booked _ _ _ .providerHeld _ _ _ held
  · exact reversalEntry_booked _ _ _ .providerAvailable _ _ _ available
  · exact ⟨rfl, rfl, rfl⟩

theorem reversalEntry_type (intent : PaymentIntent) (transactionId : TransactionId)
    (actorUserId : UserId) (actorType : PaymentActorType) (bucket : LedgerBalanceBucket)
    (amount : Int) (description : String) :
    ∀ entry ∈ reversalEntry intent transactionId actorUserId actorType bucket amount
        description,
      entry.entryType = .reversal := by
  unfold reversalEntry
  split_ifs <;> simp

/-- No entry of a refund is an entry of a charge. -/
theorem refundEntries_type (intent : PaymentIntent) (transactionId : TransactionId)
    (amount : Int) (shares : RefundShares) (balances : RefundableBalances)
    (actorUserId : UserId) :
    ∀ entry ∈ refundEntries intent transactionId amount shares balances actorUserId,
      entry.entryType = .reversal ∨ entry.entryType = .customerRefund := by
  intro entry member
  simp only [refundEntries, List.mem_append, List.mem_singleton] at member
  rcases member with ((platform | held) | available) | rfl
  · exact Or.inl (reversalEntry_type _ _ _ _ _ _ _ entry platform)
  · exact Or.inl (reversalEntry_type _ _ _ _ _ _ _ entry held)
  · exact Or.inl (reversalEntry_type _ _ _ _ _ _ _ entry available)
  · exact Or.inr rfl

theorem releaseEntries_booked (intent : PaymentIntent) (heldBalance : Int)
    (actorUserId : UserId) :
    ∀ entry ∈ releaseEntries intent heldBalance actorUserId,
      entry.BookedFor (some intent.id) none := by
  simp [releaseEntries, providerTransfer, LedgerEntry.BookedFor,
    LedgerBalanceBucket.actorType]

theorem payoutEntries_booked (payout : Payout) (transactionId : TransactionId)
    (actorUserId : UserId) :
    ∀ entry ∈ payoutEntries payout transactionId actorUserId,
      entry.BookedFor payout.paymentIntentId (some transactionId) := by
  simp [payoutEntries, providerTransfer, LedgerEntry.BookedFor,
    LedgerBalanceBucket.actorType]

namespace Movement

/-- The intent whose journal a movement may extend. -/
def intentOf (books : Books) : Movement → Option IntentId
  | applyReport report => (report.intent? books).map PaymentIntent.id
  | settleRefund order .. => some order.intent.id
  | settlePayout payout .. => payout.paymentIntentId
  | releaseFunds intent _ => some intent.id
  | _ => none

/-- The transaction the booked entries refer to. -/
def transactionOf (books : Books) : Movement → Option TransactionId
  | applyReport report => some report.transaction.id
  | settleRefund .. => some books.transactions.nextId
  | settlePayout .. => some books.transactions.nextId
  | _ => none

theorem entries_booked (books : Books) (movement : Movement) :
    ∀ entry ∈ movement.entries books,
      entry.BookedFor (movement.intentOf books) (movement.transactionOf books) := by
  intro entry member
  cases movement with
  | applyReport report =>
      simp only [entries] at member
      split at member
      · rename_i intent opened
        split_ifs at member
        · simpa [intentOf, transactionOf, opened] using
            chargeEntries_booked intent report.transaction.id entry member
        · simp at member
      · simp at member
  | settleRefund order actorUserId decisionNote answer now =>
      simp only [entries] at member
      split_ifs at member
      · exact refundEntries_booked _ _ _ _ _ _ entry member
      · simp at member
  | settlePayout payout actorUserId dto answer now =>
      simp only [entries] at member
      split_ifs at member
      · exact payoutEntries_booked _ _ _ entry member
      · simp at member
  | releaseFunds intent actorUserId =>
      exact releaseEntries_booked _ _ _ entry member
  | _ =>
      simp [entries] at member

end Movement

/-! ## Where rows come from -/

/-- The fee and the net amount of an intent divide its amount. -/
def PaymentIntent.IsSplit (intent : PaymentIntent) : Prop :=
  0 ≤ intent.platformFeeAmount ∧ intent.platformFeeAmount ≤ intent.amount ∧
    intent.platformFeeAmount + intent.providerNetAmount = intent.amount

namespace Movement

variable {books : Books} {movement : Movement}

theorem intent_origin (admitted : movement.Admitted books) {intent : PaymentIntent}
    (member : intent ∈ movement.intents books) :
    (∃ old ∈ books.intents, intent.fixed = old.fixed) ∨
      (intent.id = books.intents.nextId ∧ intent.IsSplit ∧ intent.amount ≤ columnMax ∧
        ((movement.jobs books).find? intent.jobId).isSome) := by
  cases movement with
  | selectProposal policy request terms actorUserId =>
      simp only [intents] at member
      rcases Table.eq_or_mem_of_insert member with rfl | older
      · refine .inr ⟨rfl, ⟨terms.split.fee_nonneg, terms.split.fee_le_gross,
          terms.split.fee_add_net⟩, admitted.2.2, ?_⟩
        have created := books.jobs.find?_insert_nextId
          (selectedJob request terms actorUserId) fun _ => rfl
        exact Option.isSome_iff_exists.mpr ⟨_, created⟩
      · exact .inl ⟨intent, older, rfl⟩
  | openIntent split actorUserId dto now job providerUserId =>
      simp only [intents] at member
      rcases Table.eq_or_mem_of_insert member with rfl | older
      · exact .inr ⟨rfl, ⟨split.fee_nonneg, split.fee_le_gross, split.fee_add_net⟩,
          admitted.2, Option.isSome_iff_exists.mpr ⟨job, admitted.1⟩⟩
      · exact .inl ⟨intent, older, rfl⟩
  | moveJob job requesterId dto now =>
      simp only [intents] at member
      split_ifs at member
      · exact .inl (Table.Evolves.origin_updateMany _ member fun _ => rfl)
      · exact .inl ⟨intent, member, rfl⟩
  | applyReport report =>
      simp only [intents] at member
      split at member
      · exact .inl (Table.Evolves.origin_update _ member fun _ => rfl)
      · exact .inl ⟨intent, member, rfl⟩
  | _ =>
      exact .inl ⟨intent, member, rfl⟩

theorem transaction_origin (foreignKeys : books.ForeignKeys)
    (admitted : movement.Admitted books) {transaction : PaymentTransaction}
    (member : transaction ∈ movement.transactions books) :
    (∃ old ∈ books.transactions, transaction.fixed = old.fixed) ∨
      (transaction.id = books.transactions.nextId ∧
        ∀ intentId, transaction.paymentIntentId = some intentId →
          (books.intents.find? intentId).isSome) := by
  cases movement with
  | attemptCharge intent idempotencyKey answer now =>
      simp only [transactions] at member
      rcases Table.eq_or_mem_of_insert member with rfl | older
      · refine .inr ⟨rfl, fun intentId linked => ?_⟩
        obtain rfl : intent.id = intentId := Option.some.inj linked
        exact Option.isSome_iff_exists.mpr ⟨intent, admitted.1⟩
      · exact .inl ⟨transaction, older, rfl⟩
  | settleRefund order actorUserId decisionNote answer now =>
      simp only [transactions] at member
      rcases Table.eq_or_mem_of_insert member with rfl | older
      · refine .inr ⟨rfl, fun intentId linked => ?_⟩
        obtain rfl : order.refund.paymentIntentId = intentId := Option.some.inj linked
        exact Option.isSome_iff_exists.mpr ⟨order.intent, admitted.2.2.1⟩
      · exact .inl ⟨transaction, older, rfl⟩
  | settlePayout payout actorUserId dto answer now =>
      simp only [transactions] at member
      rcases Table.eq_or_mem_of_insert member with rfl | older
      · exact .inr ⟨rfl,
          foreignKeys.payout_intent payout (books.payouts.mem_of_find? admitted.1)⟩
      · exact .inl ⟨transaction, older, rfl⟩
  | applyReport report =>
      exact .inl (Table.Evolves.origin_update _ member fun _ => rfl)
  | _ =>
      exact .inl ⟨transaction, member, rfl⟩

theorem refund_origin (admitted : movement.Admitted books) {refund : RefundRequest}
    (member : refund ∈ movement.refunds books) :
    (∃ old ∈ books.refunds, refund.fixed = old.fixed ∧
        (refund.transactionId = old.transactionId ∨
          ((movement.transactions books).find? books.transactions.nextId).isSome ∧
            refund.transactionId = some books.transactions.nextId)) ∨
      (refund.id = books.refunds.nextId ∧ 1 ≤ refund.amount ∧
        refund.transactionId = none ∧
        ∃ intent, books.intents.find? refund.paymentIntentId = some intent ∧
          refund.jobId = intent.jobId ∧
          refund.amount ≤ intent.amount - books.refundSum intent.id [.succeeded]) := by
  cases movement with
  | openRefund intent requestedByUserId amount reason evidenceItems =>
      simp only [refunds] at member
      rcases Table.eq_or_mem_of_insert member with rfl | older
      · exact .inr ⟨rfl, admitted.2.1, rfl, intent, admitted.1, rfl, admitted.2.2⟩
      · exact .inl ⟨refund, older, rfl, .inl rfl⟩
  | cancelRefund target now =>
      obtain ⟨old, older, rfl⟩ := Table.exists_of_update member
      refine .inl ⟨old, older, ?_, .inl ?_⟩ <;> split_ifs <;> rfl
  | rejectRefund target actorUserId dto now =>
      obtain ⟨old, older, rfl⟩ := Table.exists_of_update member
      refine .inl ⟨old, older, ?_, .inl ?_⟩ <;> split_ifs <;> rfl
  | settleRefund order actorUserId decisionNote answer now =>
      obtain ⟨between, betweenMember, rfl⟩ := Table.exists_of_update member
      obtain ⟨old, older, rfl⟩ := Table.exists_of_update betweenMember
      have created := books.transactions.find?_insert_nextId
        (refundRow order.refund answer now) fun _ => rfl
      refine .inl ⟨old, older, ?_, ?_⟩
      · split_ifs <;> rfl
      · by_cases target : old.id = order.refund.id
        · right
          refine ⟨Option.isSome_iff_exists.mpr ⟨_, created⟩, ?_⟩
          simp [target, approvedRefund, settledRefund, refundRow]
        · left
          simp [target]
  | _ =>
      exact .inl ⟨refund, member, rfl, .inl rfl⟩

/-- A request is about the job of its intent. -/
theorem refund_job (admitted : movement.Admitted books)
    (before : ∀ refund ∈ books.refunds, ∃ intent,
      books.intents.find? refund.paymentIntentId = some intent ∧ refund.jobId = intent.jobId)
    {refund : RefundRequest} (member : refund ∈ movement.refunds books) :
    ∃ intent, (movement.intents books).find? refund.paymentIntentId = some intent ∧
      refund.jobId = intent.jobId := by
  have intents := intents_evolve books movement
  have carried : ∃ intent, books.intents.find? refund.paymentIntentId = some intent ∧
      refund.jobId = intent.jobId := by
    rcases refund_origin admitted member with ⟨old, oldMember, same, _⟩ | ⟨_, _, _, opened⟩
    · have intentOf := field_eq same RefundRequest.paymentIntentId fun _ => rfl
      have jobOf := field_eq same RefundRequest.jobId fun _ => rfl
      rw [intentOf, jobOf]
      exact before old oldMember
    · obtain ⟨intent, found, sameJob, _⟩ := opened
      exact ⟨intent, found, sameJob⟩
  obtain ⟨intent, found, sameJob⟩ := carried
  obtain ⟨later, foundLater, same⟩ := intents _ intent found
  have laterJob := field_eq same PaymentIntent.jobId fun _ => rfl
  exact ⟨later, foundLater, sameJob.trans laterJob.symm⟩

theorem payout_origin (admitted : movement.Admitted books) {payout : Payout}
    (member : payout ∈ movement.payouts books) :
    (∃ old ∈ books.payouts, payout.fixed = old.fixed) ∨
      (payout.id = books.payouts.nextId ∧ 1 ≤ payout.amount ∧
        ∀ intentId, payout.paymentIntentId = some intentId →
          (books.intents.find? intentId).isSome) := by
  cases movement with
  | openPayout intent actorUserId dto =>
      simp only [payouts] at member
      rcases Table.eq_or_mem_of_insert member with rfl | older
      · refine .inr ⟨rfl, dto.amount.property.1, fun intentId linked => ?_⟩
        obtain rfl : intent.id = intentId := Option.some.inj linked
        exact Option.isSome_iff_exists.mpr ⟨intent, admitted.1⟩
      · exact .inl ⟨payout, older, rfl⟩
  | approvePayout target actorUserId =>
      exact .inl (Table.Evolves.origin_update _ member fun _ => rfl)
  | settlePayout target actorUserId dto answer now =>
      exact .inl (Table.Evolves.origin_update _ member fun _ => rfl)
  | _ =>
      exact .inl ⟨payout, member, rfl⟩

theorem intentOf_present (foreignKeys : books.ForeignKeys)
    (admitted : movement.Admitted books) {intentId : IntentId}
    (target : movement.intentOf books = some intentId) :
    (books.intents.find? intentId).isSome := by
  cases movement with
  | applyReport report =>
      obtain ⟨intent, opened, rfl⟩ := Option.map_eq_some_iff.mp target
      obtain ⟨linked, _, found⟩ := Option.bind_eq_some_iff.mp opened
      exact Option.isSome_iff_exists.mpr ⟨intent, books.intents.find?_key found⟩
  | settleRefund order actorUserId decisionNote answer now =>
      obtain rfl : order.intent.id = intentId := Option.some.inj target
      exact Option.isSome_iff_exists.mpr
        ⟨order.intent, books.intents.find?_key admitted.2.2.1⟩
  | settlePayout payout actorUserId dto answer now =>
      exact foreignKeys.payout_intent payout (books.payouts.mem_of_find? admitted.1) _ target
  | releaseFunds intent actorUserId =>
      obtain rfl : intent.id = intentId := Option.some.inj target
      exact Option.isSome_iff_exists.mpr ⟨intent, admitted.1⟩
  | _ =>
      simp [intentOf] at target

theorem transactionOf_present (admitted : movement.Admitted books)
    {transactionId : TransactionId}
    (target : movement.transactionOf books = some transactionId) :
    ((movement.transactions books).find? transactionId).isSome := by
  cases movement with
  | applyReport report =>
      obtain rfl : report.transaction.id = transactionId := Option.some.inj target
      have stored : (books.transactions.find? report.transaction.id).isSome :=
        Option.isSome_iff_exists.mpr ⟨report.transaction, admitted⟩
      exact (transactions_evolve books (.applyReport report)).isSome_find? stored
  | settleRefund order actorUserId decisionNote answer now =>
      obtain rfl : books.transactions.nextId = transactionId := Option.some.inj target
      exact Option.isSome_iff_exists.mpr
        ⟨_, books.transactions.find?_insert_nextId (refundRow order.refund answer now)
          fun _ => rfl⟩
  | settlePayout payout actorUserId dto answer now =>
      obtain rfl : books.transactions.nextId = transactionId := Option.some.inj target
      exact Option.isSome_iff_exists.mpr
        ⟨_, books.transactions.find?_insert_nextId (payoutRow payout dto answer now)
          fun _ => rfl⟩
  | _ =>
      simp [transactionOf] at target

/-! ## References stay intact -/

/-- The intent a transaction references was there before the movement. -/
theorem transaction_present (foreignKeys : books.ForeignKeys)
    (admitted : movement.Admitted books) {transaction : PaymentTransaction}
    (member : transaction ∈ movement.transactions books) {intentId : IntentId}
    (linked : transaction.paymentIntentId = some intentId) :
    (books.intents.find? intentId).isSome := by
  rcases transaction_origin foreignKeys admitted member with ⟨old, older, same⟩ | ⟨_, present⟩
  · have sameIntent : transaction.paymentIntentId = old.paymentIntentId :=
      field_eq same PaymentTransaction.paymentIntentId fun _ => rfl
    exact foreignKeys.transaction_intent old older intentId (sameIntent.symm.trans linked)
  · exact present intentId linked

theorem refund_present (foreignKeys : books.ForeignKeys) (admitted : movement.Admitted books)
    {refund : RefundRequest} (member : refund ∈ movement.refunds books) :
    (books.intents.find? refund.paymentIntentId).isSome := by
  rcases refund_origin admitted member with ⟨old, older, same, _⟩ | ⟨_, _, _, intent, present, _⟩
  · have sameIntent : refund.paymentIntentId = old.paymentIntentId :=
      field_eq same RefundRequest.paymentIntentId fun _ => rfl
    rw [sameIntent]
    exact foreignKeys.refund_intent old older
  · exact Option.isSome_iff_exists.mpr ⟨intent, present⟩

theorem payout_present (foreignKeys : books.ForeignKeys) (admitted : movement.Admitted books)
    {payout : Payout} (member : payout ∈ movement.payouts books) {intentId : IntentId}
    (linked : payout.paymentIntentId = some intentId) :
    (books.intents.find? intentId).isSome := by
  rcases payout_origin admitted member with ⟨old, older, same⟩ | ⟨_, _, present⟩
  · have sameIntent : payout.paymentIntentId = old.paymentIntentId :=
      field_eq same Payout.paymentIntentId fun _ => rfl
    exact foreignKeys.payout_intent old older intentId (sameIntent.symm.trans linked)
  · exact present intentId linked

theorem entry_present (foreignKeys : books.ForeignKeys) (admitted : movement.Admitted books)
    {entry : LedgerEntry} (member : entry ∈ (apply books movement).ledger)
    {intentId : IntentId} (linked : entry.paymentIntentId = some intentId) :
    (books.intents.find? intentId).isSome := by
  rcases List.mem_append.mp member with older | newer
  · exact foreignKeys.entry_intent entry older intentId linked
  · obtain ⟨forIntent, _⟩ := entries_booked books movement entry newer
    exact intentOf_present foreignKeys admitted (forIntent.symm.trans linked)

theorem foreignKeys_apply (foreignKeys : books.ForeignKeys)
    (admitted : movement.Admitted books) : (apply books movement).ForeignKeys where
  intent_job := by
    intro intent member
    rcases intent_origin admitted member with ⟨old, older, same⟩ | ⟨_, _, _, present⟩
    · have sameJob : intent.jobId = old.jobId := field_eq same PaymentIntent.jobId fun _ => rfl
      rw [sameJob]
      exact (jobs_evolve books movement).isSome_find? (foreignKeys.intent_job old older)
    · exact present
  transaction_intent := by
    intro transaction member intentId linked
    exact (intents_evolve books movement).isSome_find?
      (transaction_present foreignKeys admitted member linked)
  refund_intent := by
    intro refund member
    exact (intents_evolve books movement).isSome_find?
      (refund_present foreignKeys admitted member)
  refund_transaction := by
    intro refund member transactionId linked
    rcases refund_origin admitted member with
      ⟨old, older, _, sameLink | ⟨created, newLink⟩⟩ | ⟨_, _, unlinked, _⟩
    · exact (transactions_evolve books movement).isSome_find?
        (foreignKeys.refund_transaction old older transactionId (sameLink.symm.trans linked))
    · obtain rfl := Option.some.inj (newLink.symm.trans linked)
      exact created
    · rw [unlinked] at linked
      cases linked
  payout_intent := by
    intro payout member intentId linked
    exact (intents_evolve books movement).isSome_find?
      (payout_present foreignKeys admitted member linked)
  entry_intent := by
    intro entry member intentId linked
    exact (intents_evolve books movement).isSome_find?
      (entry_present foreignKeys admitted member linked)
  entry_transaction := by
    intro entry member transactionId linked
    rcases List.mem_append.mp member with older | newer
    · exact (transactions_evolve books movement).isSome_find?
        (foreignKeys.entry_transaction entry older transactionId linked)
    · obtain ⟨_, forTransaction, _⟩ := entries_booked books movement entry newer
      exact transactionOf_present admitted (forTransaction.symm.trans linked)

end Movement

/-! ## Consistency -/

/-- Foreign keys, signs of the amounts, and the actors of the entries. -/
structure Books.Consistent (books : Books) : Prop extends books.ForeignKeys where
  intent_split : ∀ intent ∈ books.intents, intent.IsSplit
  intent_amount : ∀ intent ∈ books.intents, intent.amount ≤ columnMax
  refund_amount : ∀ refund ∈ books.refunds, 1 ≤ refund.amount
  refund_column : ∀ refund ∈ books.refunds, refund.amount ≤ columnMax
  payout_amount : ∀ payout ∈ books.payouts, 1 ≤ payout.amount
  entry_actor : ActorsMatch books.ledger

theorem Books.initial_consistent : Books.initial.Consistent where
  intent_job := by simp [Books.initial]
  transaction_intent := by simp [Books.initial]
  refund_intent := by simp [Books.initial]
  refund_transaction := by simp [Books.initial]
  payout_intent := by simp [Books.initial]
  entry_intent := by simp [Books.initial]
  entry_transaction := by simp [Books.initial]
  intent_split := by simp [Books.initial]
  intent_amount := by simp [Books.initial]
  refund_amount := by simp [Books.initial]
  refund_column := by simp [Books.initial]
  payout_amount := by simp [Books.initial]
  entry_actor := by simp [Books.initial, ActorsMatch]

theorem refundSum_nonneg {books : Books}
    (positive : ∀ refund ∈ books.refunds, 1 ≤ refund.amount) (intentId : IntentId)
    (statuses : List RefundStatus) : 0 ≤ books.refundSum intentId statuses := by
  apply List.sum_nonneg
  intro amount counted
  obtain ⟨refund, present, rfl⟩ := List.mem_map.mp counted
  have atLeast := positive refund present
  split_ifs <;> omega

theorem Movement.consistent_apply {books : Books} {movement : Movement}
    (consistent : books.Consistent) (admitted : movement.Admitted books) :
    (apply books movement).Consistent where
  toForeignKeys := foreignKeys_apply consistent.toForeignKeys admitted
  intent_split := by
    intro intent member
    rcases intent_origin admitted member with ⟨old, older, same⟩ | ⟨_, split, _⟩
    · have sameAmount : intent.amount = old.amount :=
        field_eq same PaymentIntent.amount fun _ => rfl
      have sameFee : intent.platformFeeAmount = old.platformFeeAmount :=
        field_eq same PaymentIntent.platformFeeAmount fun _ => rfl
      have sameNet : intent.providerNetAmount = old.providerNetAmount :=
        field_eq same PaymentIntent.providerNetAmount fun _ => rfl
      unfold PaymentIntent.IsSplit
      rw [sameAmount, sameFee, sameNet]
      exact consistent.intent_split old older
    · exact split
  intent_amount := by
    intro intent member
    rcases intent_origin admitted member with ⟨old, older, same⟩ | ⟨_, _, small, _⟩
    · have sameAmount := field_eq same PaymentIntent.amount fun _ => rfl
      rw [sameAmount]
      exact consistent.intent_amount old older
    · exact small
  refund_amount := by
    intro refund member
    rcases refund_origin admitted member with ⟨old, older, same, _⟩ | ⟨_, positive, _⟩
    · have sameAmount := field_eq same RefundRequest.amount fun _ => rfl
      rw [sameAmount]
      exact consistent.refund_amount old older
    · exact positive
  refund_column := by
    intro refund member
    rcases refund_origin admitted member with
      ⟨old, older, same, _⟩ | ⟨_, _, _, intent, found, _, left⟩
    · have sameAmount := field_eq same RefundRequest.amount fun _ => rfl
      rw [sameAmount]
      exact consistent.refund_column old older
    · have small := consistent.intent_amount intent (books.intents.mem_of_find? found)
      have refunded := refundSum_nonneg consistent.refund_amount intent.id [.succeeded]
      omega
  payout_amount := by
    intro payout member
    rcases payout_origin admitted member with ⟨old, older, same⟩ | ⟨_, positive, _⟩
    · have sameAmount := field_eq same Payout.amount fun _ => rfl
      rw [sameAmount]
      exact consistent.payout_amount old older
    · exact positive
  entry_actor := by
    intro entry member
    rcases List.mem_append.mp member with older | newer
    · exact consistent.entry_actor entry older
    · exact (entries_booked books movement entry newer).2.2

end Tchuno.Payments
