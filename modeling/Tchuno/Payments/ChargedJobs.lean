import Tchuno.Payments.ChargeAccounting

/-!
# Jobs whose customer was charged

A job is unlocked by a successful report, and an intent is paid after one.  The report is
booked then or was booked before, and no operation removes a ledger entry, so both imply
that the customer was charged for the job.
-/

namespace Tchuno.Payments

open Tchuno.Library

/-- The customer was charged for the job. -/
def HasCharge (ledger : List LedgerEntry) (jobId : JobId) : Prop :=
  ∃ entry ∈ ledger, entry.entryType = .customerCharge ∧ entry.jobId = some jobId

instance (ledger : List LedgerEntry) (jobId : JobId) : Decidable (HasCharge ledger jobId) :=
  inferInstanceAs (Decidable (∃ entry ∈ ledger, _))

theorem HasCharge.append {ledger : List LedgerEntry} {jobId : JobId}
    (charged : HasCharge ledger jobId) (more : List LedgerEntry) :
    HasCharge (ledger ++ more) jobId := by
  obtain ⟨entry, member, ofCharge, ofJob⟩ := charged
  exact ⟨entry, List.mem_append_left _ member, ofCharge, ofJob⟩

theorem hasCharge_chargeEntries (intent : PaymentIntent) (transactionId : TransactionId) :
    HasCharge (chargeEntries intent transactionId) intent.jobId :=
  ⟨_, List.mem_cons_self, rfl, rfl⟩

/-! ## The invariant -/

/-- Wherever contact may be unlocked, the customer was charged. -/
structure Books.Escrowed (books : Books) : Prop where
  /-- a charge is booked for the job of the intent of its transaction -/
  booked : ∀ entry ∈ books.ledger, entry.entryType = .customerCharge →
    ∀ transaction ∈ books.transactions, entry.transactionId = some transaction.id →
      ∀ intent ∈ books.intents, transaction.paymentIntentId = some intent.id →
        entry.jobId = some intent.jobId
  paid : ∀ intent ∈ books.intents, intent.status.isPaid = true →
    HasCharge books.ledger intent.jobId
  unlocked : ∀ job ∈ books.jobs, job.contactUnlockedAt.isSome = true →
    HasCharge books.ledger job.id

theorem initial_escrowed : Books.initial.Escrowed where
  booked := by simp [Books.initial]
  paid := by simp [Books.initial]
  unlocked := by simp [Books.initial]

namespace Movement

variable {books : Books} {movement : Movement}

/-- A row of an intent after the movement which references an older one. -/
theorem intent_of_link (foreignKeys : books.ForeignKeys)
    {transaction old : PaymentTransaction} (older : old ∈ books.transactions)
    (same : transaction.fixed = old.fixed) {intent : PaymentIntent}
    (present : intent ∈ movement.intents books)
    (linked : transaction.paymentIntentId = some intent.id) :
    old.paymentIntentId = some intent.id ∧
      ∃ before ∈ books.intents, before.id = intent.id ∧ before.jobId = intent.jobId := by
  have sameLink : transaction.paymentIntentId = old.paymentIntentId :=
    field_eq same PaymentTransaction.paymentIntentId fun _ => rfl
  have oldLink := sameLink.symm.trans linked
  obtain ⟨before, found⟩ := Option.isSome_iff_exists.mp
    (foreignKeys.transaction_intent old older intent.id oldLink)
  have sameIntent := (intents_evolve books movement).fixed_eq found present
  refine ⟨oldLink, before, books.intents.mem_of_find? found,
    books.intents.key_of_find? found, ?_⟩
  exact (field_eq sameIntent PaymentIntent.jobId fun _ => rfl).symm

theorem booked_apply (foreignKeys : books.ForeignKeys) (admitted : movement.Admitted books)
    (escrowed : books.Escrowed) :
    ∀ entry ∈ (apply books movement).ledger, entry.entryType = .customerCharge →
      ∀ transaction ∈ movement.transactions books,
        entry.transactionId = some transaction.id →
        ∀ intent ∈ movement.intents books, transaction.paymentIntentId = some intent.id →
          entry.jobId = some intent.jobId := by
  intro entry member ofCharge transaction present forTransaction intent presentIntent linked
  rcases List.mem_append.mp member with older | newer
  · obtain ⟨old, found⟩ := Option.isSome_iff_exists.mp
      (foreignKeys.entry_transaction entry older transaction.id forTransaction)
    have oldMember := books.transactions.mem_of_find? found
    have same := (transactions_evolve books movement).fixed_eq found present
    obtain ⟨oldLink, before, beforeMember, sameId, sameJob⟩ :=
      intent_of_link foreignKeys oldMember same presentIntent linked
    have sameTransaction : transaction.id = old.id := (books.transactions.key_of_find? found).symm
    rw [← sameJob]
    exact escrowed.booked entry older ofCharge old oldMember
      (forTransaction.trans (congrArg some sameTransaction)) before beforeMember
      (oldLink.trans (congrArg some sameId.symm))
  · have posted : entry ∈ (movement.entries books).filter fun entry =>
        entry.entryType = .customerCharge :=
      List.mem_filter.mpr ⟨newer, decide_eq_true ofCharge⟩
    rw [filter_customerCharge_entries] at posted
    cases charged : movement.charge? books with
    | none =>
        simp [charged] at posted
    | some target =>
        obtain ⟨charge, transactionId⟩ := target
        simp only [charged] at posted
        obtain ⟨report, rfl, _, opened, rfl⟩ := charge?_eq_some.mp charged
        obtain rfl := List.mem_singleton.mp posted
        have sameId : report.transaction.id = transaction.id := Option.some.inj forTransaction
        have stored : books.transactions.find? transaction.id = some report.transaction := by
          rw [← sameId]
          exact admitted
        have same := (transactions_evolve books _).fixed_eq stored present
        have sameLink : transaction.paymentIntentId = report.transaction.paymentIntentId :=
          field_eq same PaymentTransaction.paymentIntentId fun _ => rfl
        obtain ⟨intentId, ofReport, found⟩ := Option.bind_eq_some_iff.mp opened
        obtain rfl : intentId = intent.id :=
          Option.some.inj (ofReport.symm.trans (sameLink.symm.trans linked))
        have sameIntent := (intents_evolve books (.applyReport report)).fixed_eq found
          presentIntent
        exact congrArg some (field_eq sameIntent PaymentIntent.jobId fun _ => rfl).symm

/-- A success is booked, now or before. -/
theorem hasCharge_of_succeeded {report : Report} {intent : PaymentIntent}
    (escrowed : books.Escrowed) (admitted : Movement.Admitted books (.applyReport report))
    (opened : report.intent? books = some intent) (succeeded : report.status = .succeeded) :
    HasCharge (apply books (.applyReport report)).ledger intent.jobId := by
  obtain ⟨intentId, linked, found⟩ := Option.bind_eq_some_iff.mp opened
  obtain rfl : intent.id = intentId := books.intents.key_of_find? found
  by_cases posts : report.posts books
  · have appended : entries books (.applyReport report) =
        chargeEntries intent report.transaction.id := by
      simp only [entries, opened, if_pos posts]
    obtain ⟨entry, member, ofCharge, ofJob⟩ := hasCharge_chargeEntries intent report.transaction.id
    rw [← appended] at member
    exact ⟨entry, List.mem_append_right _ member, ofCharge, ofJob⟩
  · have recorded : hasCustomerCharge books.ledger report.transaction.id = true := by
      by_contra absent
      exact posts ⟨succeeded, by simpa using absent⟩
    obtain ⟨entry, member, chosen⟩ := List.any_eq_true.mp recorded
    simp only [Bool.and_eq_true, decide_eq_true_eq] at chosen
    have sameJob := escrowed.booked entry member chosen.2 report.transaction
      (books.transactions.mem_of_find? admitted) chosen.1 intent
      (books.intents.mem_of_find? found) linked
    exact HasCharge.append ⟨entry, member, chosen.2, sameJob⟩ _

theorem paid_apply (admitted : movement.Admitted books) (escrowed : books.Escrowed) :
    ∀ intent ∈ movement.intents books, intent.status.isPaid = true →
      HasCharge (apply books movement).ledger intent.jobId := by
  have before : ∀ intent ∈ books.intents, intent.status.isPaid = true →
      HasCharge (apply books movement).ledger intent.jobId :=
    fun intent member paid => (escrowed.paid intent member paid).append _
  cases movement with
  | selectProposal policy request terms actorUserId =>
      intro intent member paid
      simp only [intents] at member
      rcases Table.eq_or_mem_of_insert member with rfl | older
      · cases paid
      · exact before intent older paid
  | openIntent split actorUserId dto now job providerUserId =>
      intro intent member paid
      simp only [intents] at member
      rcases Table.eq_or_mem_of_insert member with rfl | older
      · cases paid
      · exact before intent older paid
  | moveJob job requesterId dto now =>
      intro intent member paid
      simp only [intents] at member
      split_ifs at member
      · obtain ⟨old, older, rfl⟩ :=
          (Table.mem_updateMany _ (isCancelable job.id) canceledIntent fun _ => rfl).mp member
        split_ifs at paid
        · cases paid
        · rw [if_neg (by assumption)]
          exact before old older paid
      · exact before intent member paid
  | applyReport report =>
      intro intent member paid
      simp only [intents] at member
      split at member
      · next opened found =>
          obtain ⟨old, older, rfl⟩ := Table.exists_of_update member
          split_ifs at paid with same
          · rw [if_pos same]
            have sameRow : old = opened := by
              obtain ⟨_, _, stored⟩ := Option.bind_eq_some_iff.mp found
              exact books.intents.eq_of_key_eq older (books.intents.mem_of_find? stored) same
            rw [sameRow]
            have succeeded := (isPaid_mapGatewayToIntentStatus _ _).mp paid
            have ofIntent := hasCharge_of_succeeded escrowed admitted found succeeded
            exact ofIntent
          · rw [if_neg same]
            exact before old older paid
      · exact before intent member paid
  | _ =>
      exact before

theorem unlocked_apply (admitted : movement.Admitted books) (escrowed : books.Escrowed) :
    ∀ job ∈ movement.jobs books, job.contactUnlockedAt.isSome = true →
      HasCharge (apply books movement).ledger job.id := by
  have before : ∀ job ∈ books.jobs, job.contactUnlockedAt.isSome = true →
      HasCharge (apply books movement).ledger job.id :=
    fun job member unlocked => (escrowed.unlocked job member unlocked).append _
  cases movement with
  | selectProposal policy request terms actorUserId =>
      intro job member unlocked
      simp only [jobs] at member
      rcases Table.eq_or_mem_of_insert member with rfl | older
      · cases unlocked
      · exact before job older unlocked
  | moveJob moved requesterId dto now =>
      intro job member unlocked
      obtain ⟨old, older, rfl⟩ :=
        (Table.mem_update _ (movedJob dto requesterId now) fun _ => rfl).mp member
      split_ifs at unlocked ⊢ <;> exact before old older unlocked
  | applyReport report =>
      intro job member unlocked
      simp only [jobs] at member
      split at member
      · next opened found =>
          split_ifs at member with succeeded
          · obtain ⟨old, older, rfl⟩ :=
              (Table.mem_update _ (unlockedJob report.now) fun _ => rfl).mp member
            split_ifs at unlocked ⊢ with same
            · have ofIntent := hasCharge_of_succeeded escrowed admitted found succeeded
              have sameJob : old.id = opened.jobId := same
              rw [← sameJob] at ofIntent
              exact ofIntent
            · exact before old older unlocked
          · exact before job member unlocked
      · exact before job member unlocked
  | _ =>
      exact before

theorem escrowed_apply (consistent : books.Consistent) (admitted : movement.Admitted books)
    (escrowed : books.Escrowed) : (apply books movement).Escrowed where
  booked := booked_apply consistent.toForeignKeys admitted escrowed
  paid := paid_apply admitted escrowed
  unlocked := unlocked_apply admitted escrowed

end Movement

theorem reachable_escrowed {store : Store}
    (reachable : payments.Reachable Store.IsInitial store) : store.Escrowed :=
  (reachable_invariant
    (fun _ _ consistent admitted => Movement.escrowed_apply consistent admitted)
    initial_escrowed reachable).2

end Tchuno.Payments
