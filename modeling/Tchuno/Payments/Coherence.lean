import Tchuno.Payments.Reservation

/-!
# Job and currency of the rows of an intent

Transactions, refund requests, payouts and ledger entries copy the currency of
their intent, and its job where they have one.  The exception is a payout whose
creator names another job or another currency; what is booked for it later
copies the payout.
-/

namespace Tchuno.Payments

open Tchuno.Library Tchuno.Library.Ecma

/-! ## What the rows copy -/

def PaymentTransaction.Agrees (transaction : PaymentTransaction) (intent : PaymentIntent) :
    Prop :=
  transaction.currency = intent.currency

def RefundRequest.Agrees (refund : RefundRequest) (intent : PaymentIntent) : Prop :=
  refund.currency = intent.currency ∧ refund.jobId = intent.jobId

def Payout.Agrees (payout : Payout) (intent : PaymentIntent) : Prop :=
  payout.currency = intent.currency ∧ payout.jobId = some intent.jobId

def LedgerEntry.Agrees (entry : LedgerEntry) (intent : PaymentIntent) : Prop :=
  entry.currency = intent.currency ∧ entry.jobId = some intent.jobId

instance (transaction : PaymentTransaction) : DecidablePred transaction.Agrees :=
  fun _ => inferInstanceAs (Decidable (_ = _))

instance (refund : RefundRequest) : DecidablePred refund.Agrees :=
  fun _ => inferInstanceAs (Decidable (_ ∧ _))

instance (payout : Payout) : DecidablePred payout.Agrees :=
  fun _ => inferInstanceAs (Decidable (_ ∧ _))

instance (entry : LedgerEntry) : DecidablePred entry.Agrees :=
  fun _ => inferInstanceAs (Decidable (_ ∧ _))

/-- The intent a row references, if it is there, has the property. -/
def Books.IntentHas (books : Books) (reference : Option IntentId)
    (property : PaymentIntent → Prop) : Prop :=
  ∀ intent ∈ books.intents, reference = some intent.id → property intent

instance (books : Books) (reference : Option IntentId) (property : PaymentIntent → Prop)
    [DecidablePred property] : Decidable (books.IntentHas reference property) :=
  inferInstanceAs (Decidable (∀ intent ∈ books.intents, _ → _))

theorem Books.intentHas_some_iff {books : Books} {intentId : IntentId} {intent : PaymentIntent}
    (found : books.intents.find? intentId = some intent) (property : PaymentIntent → Prop) :
    books.IntentHas (some intentId) property ↔ property intent := by
  obtain ⟨member, rfl⟩ := books.intents.find?_eq_some_iff.mp found
  constructor
  · exact fun has => has intent member rfl
  · intro holds other otherMember same
    rw [books.intents.eq_of_key_eq otherMember member (Option.some.inj same).symm]
    exact holds

/-- Every row agrees with the intent it references. -/
def Books.Coherent (books : Books) : Prop :=
  (∀ transaction ∈ books.transactions,
      books.IntentHas transaction.paymentIntentId transaction.Agrees) ∧
    (∀ refund ∈ books.refunds, books.IntentHas (some refund.paymentIntentId) refund.Agrees) ∧
    (∀ payout ∈ books.payouts, books.IntentHas payout.paymentIntentId payout.Agrees) ∧
    ∀ entry ∈ books.ledger, books.IntentHas entry.paymentIntentId entry.Agrees

instance (books : Books) : Decidable books.Coherent :=
  inferInstanceAs (Decidable (_ ∧ _ ∧ _ ∧ _))

/-- A payout names no other currency and no other job than its intent has. -/
def Movement.KeepsTerms : Movement → Prop
  | .openPayout intent _ dto =>
      (∀ currency ∈ truthy (dto.currency.map trim), currency = intent.currency) ∧
        ∀ jobId ∈ dto.jobId, jobId = intent.jobId
  | _ => True

instance (movement : Movement) : Decidable movement.KeepsTerms :=
  match movement with
  | .openPayout intent _ dto =>
      inferInstanceAs (Decidable
        ((∀ currency ∈ truthy (dto.currency.map trim), currency = intent.currency) ∧
          ∀ jobId ∈ dto.jobId, jobId = intent.jobId))
  | .selectProposal .. | .moveJob .. | .openIntent .. | .attemptCharge .. | .applyReport .. |
    .openRefund .. | .cancelRefund .. | .rejectRefund .. | .settleRefund .. |
    .approvePayout .. | .settlePayout .. | .releaseFunds .. =>
      inferInstanceAs (Decidable True)

/-- Both services that create intents write this currency. -/
def Books.InMetical (books : Books) : Prop :=
  ∀ intent ∈ books.intents, intent.currency = "MZN"

namespace Movement

variable {books : Books} {movement : Movement}

theorem inMetical_apply (inMetical : books.InMetical) : (movement.apply books).InMetical := by
  have old : ∀ {intent : PaymentIntent},
      (∃ old ∈ books.intents, intent.fixed = old.fixed) → intent.currency = "MZN" := by
    rintro intent ⟨old, older, same⟩
    rw [← inMetical old older]
    exact field_eq same PaymentIntent.currency fun _ => rfl
  intro intent member
  cases movement with
  | selectProposal policy request terms actorUserId =>
      simp only [apply, intents] at member
      rcases Table.eq_or_mem_of_insert member with rfl | older
      · rfl
      · exact inMetical intent older
  | openIntent split actorUserId dto now job providerUserId =>
      simp only [apply, intents] at member
      rcases Table.eq_or_mem_of_insert member with rfl | older
      · rfl
      · exact inMetical intent older
  | moveJob job requesterId dto now =>
      simp only [apply, intents] at member
      split_ifs at member
      · exact old (Table.Evolves.origin_updateMany _ member fun _ => rfl)
      · exact inMetical intent member
  | applyReport report =>
      simp only [apply, intents] at member
      split at member
      · exact old (Table.Evolves.origin_update _ member fun _ => rfl)
      · exact inMetical intent member
  | _ =>
      exact inMetical intent member

/-- A property of what never changes in the intent of a row survives. -/
theorem intentHas_apply_iff (admitted : movement.Admitted books) {reference : Option IntentId}
    (present : ∀ intentId, reference = some intentId →
      (books.intents.find? intentId).isSome)
    {property : PaymentIntent → Prop}
    (stable : ∀ {first second : PaymentIntent}, first.fixed = second.fixed →
      (property first ↔ property second)) :
    (movement.apply books).IntentHas reference property ↔
      books.IntentHas reference property := by
  constructor
  · intro after intent member linked
    obtain ⟨later, foundLater, same⟩ := intents_evolve books movement _ _
      (books.intents.find?_eq_some_iff.mpr ⟨member, rfl⟩)
    obtain ⟨laterMember, sameId⟩ := (movement.intents books).find?_eq_some_iff.mp foundLater
    exact (stable same).mp (after later laterMember (linked.trans (congrArg some sameId.symm)))
  · intro before intent member linked
    rcases intent_origin admitted member with ⟨old, older, same⟩ | ⟨newId, _⟩
    · have sameId : intent.id = old.id := field_eq same PaymentIntent.id fun _ => rfl
      rw [sameId] at linked
      exact (stable same).mpr (before old older linked)
    · have absent := present intent.id linked
      rw [newId, books.intents.find?_nextId] at absent
      cases absent

/-! ## New rows -/

theorem transactions_agree (admitted : movement.Admitted books) (coherent : books.Coherent) :
    ∀ transaction ∈ movement.transactions books,
      books.IntentHas transaction.paymentIntentId transaction.Agrees := by
  obtain ⟨old, refunds, payouts, _⟩ := coherent
  intro transaction member
  cases movement with
  | attemptCharge intent idempotencyKey answer now =>
      simp only [transactions] at member
      rcases Table.eq_or_mem_of_insert member with rfl | older
      · exact (Books.intentHas_some_iff admitted.1 _).mpr rfl
      · exact old transaction older
  | applyReport report =>
      obtain ⟨before, older, same⟩ := Table.Evolves.origin_update
        PaymentTransaction.fixed member fun _ => rfl
      have sameIntent : transaction.paymentIntentId = before.paymentIntentId :=
        field_eq same PaymentTransaction.paymentIntentId fun _ => rfl
      have sameCurrency : transaction.currency = before.currency :=
        field_eq same PaymentTransaction.currency fun _ => rfl
      intro intent present linked
      exact sameCurrency.trans (old before older intent present (sameIntent ▸ linked))
  | settleRefund order actorUserId decisionNote answer now =>
      simp only [transactions] at member
      rcases Table.eq_or_mem_of_insert member with rfl | older
      · intro intent present linked
        exact (refunds _ (books.refunds.mem_of_find? admitted.1) intent present linked).1
      · exact old transaction older
  | settlePayout payout actorUserId dto answer now =>
      simp only [transactions] at member
      rcases Table.eq_or_mem_of_insert member with rfl | older
      · intro intent present linked
        exact (payouts _ (books.payouts.mem_of_find? admitted.1) intent present linked).1
      · exact old transaction older
  | _ =>
      exact old transaction member

theorem refunds_agree (admitted : movement.Admitted books) (coherent : books.Coherent) :
    ∀ refund ∈ movement.refunds books,
      books.IntentHas (some refund.paymentIntentId) refund.Agrees := by
  obtain ⟨_, old, _, _⟩ := coherent
  intro refund member
  cases movement with
  | openRefund intent requestedByUserId amount reason evidenceItems =>
      simp only [refunds] at member
      rcases Table.eq_or_mem_of_insert member with rfl | older
      · exact (Books.intentHas_some_iff admitted.1 _).mpr ⟨rfl, rfl⟩
      · exact old refund older
  | cancelRefund target now =>
      obtain ⟨before, older, rfl⟩ := Table.exists_of_update member
      split_ifs <;> exact old before older
  | rejectRefund target actorUserId dto now =>
      obtain ⟨before, older, rfl⟩ := Table.exists_of_update member
      split_ifs <;> exact old before older
  | settleRefund order actorUserId decisionNote answer now =>
      obtain ⟨between, betweenMember, rfl⟩ := Table.exists_of_update member
      obtain ⟨before, older, rfl⟩ := Table.exists_of_update betweenMember
      split_ifs <;> exact old before older
  | _ =>
      exact old refund member

theorem payouts_agree (coherent : books.Coherent) (admitted : movement.Admitted books) :
    (∀ payout ∈ movement.payouts books,
        books.IntentHas payout.paymentIntentId payout.Agrees) ↔
      movement.KeepsTerms := by
  obtain ⟨_, _, old, _⟩ := coherent
  cases movement with
  | openPayout intent actorUserId dto =>
      have newest : books.IntentHas (some intent.id)
            (pendingPayout intent actorUserId dto books.payouts.nextId).Agrees ↔
          (openPayout intent actorUserId dto).KeepsTerms := by
        rw [Books.intentHas_some_iff admitted.1]
        simp only [Payout.Agrees, pendingPayout, KeepsTerms]
        cases truthy (dto.currency.map trim) <;> cases dto.jobId <;> simp
      rw [← newest]
      simp only [payouts, Table.mem_insert, forall_eq_or_imp]
      exact and_iff_left old
  | approvePayout target actorUserId =>
      simp only [KeepsTerms, iff_true]
      intro payout member
      obtain ⟨before, older, rfl⟩ := Table.exists_of_update member
      split_ifs <;> exact old before older
  | settlePayout target actorUserId dto answer now =>
      simp only [KeepsTerms, iff_true]
      intro payout member
      obtain ⟨before, older, rfl⟩ := Table.exists_of_update member
      split_ifs <;> exact old before older
  | _ =>
      simp only [KeepsTerms, iff_true]
      exact old

theorem refundEntries_agree (intent : PaymentIntent) (transactionId : TransactionId)
    (amount : Int) (shares : RefundShares) (balances : RefundableBalances)
    (actorUserId : UserId) :
    ∀ entry ∈ refundEntries intent transactionId amount shares balances actorUserId,
      entry.Agrees intent := by
  have reversed : ∀ actorType bucket part description,
      ∀ entry ∈ reversalEntry intent transactionId actorUserId actorType bucket part description,
        entry.Agrees intent := by
    intro actorType bucket part description
    unfold reversalEntry
    split_ifs <;> simp [LedgerEntry.Agrees]
  intro entry member
  simp only [refundEntries, List.mem_append, List.mem_singleton] at member
  rcases member with ((platform | held) | available) | rfl
  · exact reversed _ _ _ _ entry platform
  · exact reversed _ _ _ _ entry held
  · exact reversed _ _ _ _ entry available
  · exact ⟨rfl, rfl⟩

theorem entries_agree (inMetical : books.InMetical) (admitted : movement.Admitted books)
    (coherent : books.Coherent) :
    ∀ entry ∈ books.ledger ++ movement.entries books,
      books.IntentHas entry.paymentIntentId entry.Agrees := by
  obtain ⟨_, _, payouts, old⟩ := coherent
  intro entry member
  rcases List.mem_append.mp member with older | newer
  · exact old entry older
  obtain ⟨forIntent, _⟩ := entries_booked books movement entry newer
  rw [forIntent]
  cases movement with
  | applyReport report =>
      simp only [entries] at newer
      split at newer
      · rename_i intent opened
        split_ifs at newer
        · obtain ⟨_, _, found⟩ := Option.bind_eq_some_iff.mp opened
          have stored := books.intents.find?_key found
          have metical := inMetical intent (books.intents.mem_of_find? found)
          simp only [intentOf, opened, Option.map_some]
          refine (Books.intentHas_some_iff stored _).mpr ?_
          simp only [chargeEntries, List.mem_cons, List.not_mem_nil, or_false] at newer
          rcases newer with rfl | rfl | rfl <;> exact ⟨metical.symm, rfl⟩
        · simp at newer
      · simp at newer
  | settleRefund order actorUserId decisionNote answer now =>
      simp only [entries] at newer
      split_ifs at newer
      · refine (Books.intentHas_some_iff (books.intents.find?_key admitted.2.2.1) _).mpr ?_
        exact refundEntries_agree _ _ _ _ _ _ entry newer
      · simp at newer
  | settlePayout payout actorUserId dto answer now =>
      have copied := payouts payout (books.payouts.mem_of_find? admitted.1)
      simp only [entries, payoutEntries, providerTransfer] at newer
      split_ifs at newer
      · simp only [List.mem_cons, List.not_mem_nil, or_false] at newer
        rcases newer with rfl | rfl <;> exact copied
      · simp at newer
  | releaseFunds intent actorUserId =>
      refine (Books.intentHas_some_iff admitted.1 _).mpr ?_
      simp only [entries, releaseEntries, providerTransfer, List.mem_cons, List.not_mem_nil,
        or_false] at newer
      rcases newer with rfl | rfl <;> exact ⟨rfl, rfl⟩
  | _ =>
      simp [entries] at newer

/-! ## One movement -/

theorem coherent_apply_iff (foreignKeys : books.ForeignKeys) (inMetical : books.InMetical)
    (admitted : movement.Admitted books) (before : books.Coherent) :
    (movement.apply books).Coherent ↔ movement.KeepsTerms := by
  have agreesOf : ∀ {first second : PaymentIntent}, first.fixed = second.fixed →
      first.currency = second.currency ∧ first.jobId = second.jobId := fun same =>
    ⟨field_eq same PaymentIntent.currency fun _ => rfl,
      field_eq same PaymentIntent.jobId fun _ => rfl⟩
  rw [← payouts_agree before admitted]
  have payouts : (∀ payout ∈ movement.payouts books,
        (movement.apply books).IntentHas payout.paymentIntentId payout.Agrees) ↔
      ∀ payout ∈ movement.payouts books,
        books.IntentHas payout.paymentIntentId payout.Agrees := by
    refine forall₂_congr fun payout member => ?_
    refine intentHas_apply_iff admitted
      (fun _ linked => payout_present foreignKeys admitted member linked) fun same => ?_
    simp only [Payout.Agrees, agreesOf same]
  rw [← payouts]
  constructor
  · exact fun after => after.2.2.1
  · refine fun payoutsAgree => ⟨?_, ?_, payoutsAgree, ?_⟩
    · intro transaction member
      refine (intentHas_apply_iff admitted
        (fun _ linked => transaction_present foreignKeys admitted member linked)
        fun same => ?_).mpr (transactions_agree admitted before transaction member)
      simp only [PaymentTransaction.Agrees, agreesOf same]
    · intro refund member
      refine (intentHas_apply_iff admitted ?_ fun same => ?_).mpr
        (refunds_agree admitted before refund member)
      · rintro _ ⟨rfl⟩
        exact refund_present foreignKeys admitted member
      · simp only [RefundRequest.Agrees, agreesOf same]
    · intro entry member
      refine (intentHas_apply_iff admitted
        (fun _ linked => entry_present foreignKeys admitted member linked)
        fun same => ?_).mpr (entries_agree inMetical admitted before entry member)
      simp only [LedgerEntry.Agrees, agreesOf same]

end Movement

/-! ## Runs -/

/-- Along every run, all rows agree with their intent on job and currency exactly
as long as every payout is created in the terms of its intent. -/
theorem rows_coherent_iff (market : Marketplace) (operations : List Operation) :
    payments.Along (fun store operation => (operation.perform store).Coherent)
        (Store.initial market) operations ↔
      payments.Along
        (fun store operation => operation.Meets (fun _ movement => movement.KeepsTerms) store)
        (Store.initial market) operations := by
  refine @along_iff_meets Books.InMetical Books.Coherent _ ?_ ?_ ?_ ?_ ?_ market operations
  · exact fun books movement _ _ inMetical => Movement.inMetical_apply inMetical
  · intro books movement consistent admitted inMetical before
    exact Movement.coherent_apply_iff consistent.toForeignKeys inMetical admitted before
  · intro books movement preparatory
    cases movement <;> trivial
  · simp [Books.initial, Books.InMetical]
  · simp [Books.initial, Books.Coherent]

/-- The released balance of the deposit, in meticais, is promised in dollars. -/
theorem payout_in_dollars :
    ¬ payments.Along (fun store operation => (operation.perform store).Coherent)
      (Store.initial sampleMarketplace)
      [sampleSelection, .payIntent 0 0 ⟨none⟩ (sampleAnswer .succeeded "charge") 2,
        .updateStatus 0 1 ⟨.accepted, none⟩ 3, .updateStatus 0 1 ⟨.inProgress, none⟩ 4,
        .updateStatus 0 1 ⟨.completed, none⟩ 5,
        .adminReleaseProviderFunds samplePolicy 2 0 100000000,
        .adminCreatePayout 2 ⟨1, ⟨255, by decide⟩, some "USD", none, some 0, none⟩] := by
  decide +kernel

end Tchuno.Payments
