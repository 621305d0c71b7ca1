import Tchuno.Payments.ChargeAccounting

/-!
# Charges which are made once

The charges of an intent and of a job are bounded by what the services are asked
to do, too: the gateway is asked once for each intent, and a job is given one
intent.
-/

namespace Tchuno.Payments

open Tchuno.Library

/-! ## One attempt for each intent -/

/-- The gateway is asked to charge an intent only once, and no success is reported for a
refund or a payout. -/
def Movement.SingleAttempt (books : Books) : Movement → Prop
  | .attemptCharge intent _ _ _ =>
      ∀ transaction ∈ books.transactions, transaction.paymentIntentId = some intent.id →
        transaction.isOutgoing = true
  | .applyReport report => report.status = .succeeded → report.transaction.isOutgoing = false
  | _ => True

/-- The entry is booked for a transaction of its intent which is to charge it. -/
def Books.BookedForAttempt (books : Books) (entry : LedgerEntry) : Prop :=
  ∃ transaction ∈ books.transactions, transaction.isOutgoing = false ∧
    entry.transactionId = some transaction.id ∧
    entry.paymentIntentId = transaction.paymentIntentId

/-- An intent has one transaction to charge it, and the charges are booked for that one. -/
structure Books.OneAttempt (books : Books) : Prop where
  only : ∀ transaction ∈ books.transactions, ∀ other ∈ books.transactions, ∀ intentId,
    transaction.paymentIntentId = some intentId → other.paymentIntentId = some intentId →
      transaction.isOutgoing = false → other.isOutgoing = false → transaction.id = other.id
  booked : ∀ entry ∈ books.ledger, entry.entryType = .customerCharge →
    books.BookedForAttempt entry

namespace Movement

variable {books : Books} {movement : Movement}

/-- Only an attempt brings a transaction which is neither a refund nor a payout. -/
theorem incoming_origin (single : movement.SingleAttempt books)
    {transaction : PaymentTransaction} (member : transaction ∈ movement.transactions books)
    (incoming : transaction.isOutgoing = false) :
    (∃ old ∈ books.transactions, transaction.fixed = old.fixed) ∨
      (transaction.id = books.transactions.nextId ∧ ∀ old ∈ books.transactions,
        old.paymentIntentId = transaction.paymentIntentId → old.isOutgoing = true) := by
  cases movement with
  | attemptCharge intent idempotencyKey answer now =>
      simp only [transactions] at member
      rcases Table.eq_or_mem_of_insert member with rfl | older
      · exact .inr ⟨rfl, single⟩
      · exact .inl ⟨transaction, older, rfl⟩
  | settleRefund order actorUserId decisionNote answer now =>
      simp only [transactions] at member
      rcases Table.eq_or_mem_of_insert member with rfl | older
      · cases incoming
      · exact .inl ⟨transaction, older, rfl⟩
  | settlePayout payout actorUserId dto answer now =>
      simp only [transactions] at member
      rcases Table.eq_or_mem_of_insert member with rfl | older
      · cases incoming
      · exact .inl ⟨transaction, older, rfl⟩
  | applyReport report =>
      exact .inl (Table.Evolves.origin_update _ member fun _ => rfl)
  | _ =>
      exact .inl ⟨transaction, member, rfl⟩

/-- A charge stays booked for its attempt. -/
theorem bookedForAttempt_apply {entry : LedgerEntry} (booked : books.BookedForAttempt entry) :
    (movement.apply books).BookedForAttempt entry := by
  obtain ⟨old, older, incoming, ofOld, linked⟩ := booked
  obtain ⟨later, found, same⟩ := transactions_evolve books movement _ _
    (books.transactions.find?_eq_some_iff.mpr ⟨older, rfl⟩)
  have sameId := field_eq same PaymentTransaction.id fun _ => rfl
  have sameLink := field_eq same PaymentTransaction.paymentIntentId fun _ => rfl
  exact ⟨later, (movement.transactions books).mem_of_find? found,
    (isOutgoing_of_fixed same).trans incoming, ofOld.trans (congrArg some sameId.symm),
    linked.trans sameLink.symm⟩

/-- A new charge is booked for the attempt the report is about. -/
theorem bookedForAttempt_of_entries (admitted : movement.Admitted books)
    (single : movement.SingleAttempt books) {entry : LedgerEntry}
    (member : entry ∈ movement.entries books) (charge : entry.entryType = .customerCharge) :
    books.BookedForAttempt entry := by
  have posted : entry ∈ (movement.entries books).filter fun entry =>
      entry.entryType = .customerCharge := List.mem_filter.mpr ⟨member, by simpa using charge⟩
  rw [filter_customerCharge_entries] at posted
  cases charges : movement.charge? books with
  | none =>
      simp [charges] at posted
  | some charged =>
      obtain ⟨intent, transactionId⟩ := charged
      simp only [charges] at posted
      obtain ⟨report, rfl, posts, opened, rfl⟩ := charge?_eq_some.mp charges
      obtain ⟨forIntent, ofReport, _⟩ :=
        chargeEntries_booked intent _ entry (List.mem_of_mem_take posted)
      obtain ⟨linked, link, found⟩ := Option.bind_eq_some_iff.mp opened
      have sameIntent : intent.id = linked := books.intents.key_of_find? found
      exact ⟨report.transaction, books.transactions.mem_of_find? admitted, single posts.1,
        ofReport, forIntent.trans (by rw [link, sameIntent])⟩

theorem only_attempt_apply (one : books.OneAttempt) (single : movement.SingleAttempt books)
    {transaction other : PaymentTransaction} {intentId : IntentId}
    (member : transaction ∈ movement.transactions books)
    (otherMember : other ∈ movement.transactions books)
    (linked : transaction.paymentIntentId = some intentId)
    (otherLinked : other.paymentIntentId = some intentId)
    (incoming : transaction.isOutgoing = false) (otherIncoming : other.isOutgoing = false) :
    transaction.id = other.id := by
  rcases incoming_origin single member incoming with ⟨old, older, same⟩ | ⟨newId, first⟩ <;>
    rcases incoming_origin single otherMember otherIncoming with
      ⟨otherOld, otherOlder, otherSame⟩ | ⟨otherNewId, otherFirst⟩
  · have sameId := field_eq same PaymentTransaction.id fun _ => rfl
    have otherSameId := field_eq otherSame PaymentTransaction.id fun _ => rfl
    have sameLink := field_eq same PaymentTransaction.paymentIntentId fun _ => rfl
    have otherSameLink := field_eq otherSame PaymentTransaction.paymentIntentId fun _ => rfl
    rw [sameId, otherSameId]
    exact one.only old older otherOld otherOlder intentId (sameLink.symm.trans linked)
      (otherSameLink.symm.trans otherLinked) ((isOutgoing_of_fixed same).symm.trans incoming)
      ((isOutgoing_of_fixed otherSame).symm.trans otherIncoming)
  · have sameLink := field_eq same PaymentTransaction.paymentIntentId fun _ => rfl
    have outgoing := otherFirst old older
      (sameLink.symm.trans (linked.trans otherLinked.symm))
    rw [← isOutgoing_of_fixed same, incoming] at outgoing
    cases outgoing
  · have otherSameLink := field_eq otherSame PaymentTransaction.paymentIntentId fun _ => rfl
    have outgoing := first otherOld otherOlder
      (otherSameLink.symm.trans (otherLinked.trans linked.symm))
    rw [← isOutgoing_of_fixed otherSame, otherIncoming] at outgoing
    cases outgoing
  · exact newId.trans otherNewId.symm

theorem oneAttempt_apply (admitted : movement.Admitted books) (one : books.OneAttempt)
    (single : movement.SingleAttempt books) : (movement.apply books).OneAttempt where
  only := fun _ member _ otherMember _ linked otherLinked incoming otherIncoming =>
    only_attempt_apply one single member otherMember linked otherLinked incoming otherIncoming
  booked := by
    intro entry member charge
    apply bookedForAttempt_apply
    rcases List.mem_append.mp member with older | newer
    · exact one.booked entry older charge
    · exact bookedForAttempt_of_entries admitted single newer charge

/-- The one transaction of an intent has no charge yet, so the intent was not charged. -/
theorem firstCharge_of_single (one : books.OneAttempt) (admitted : movement.Admitted books)
    (single : movement.SingleAttempt books) : movement.FirstCharge books := by
  rintro ⟨intent, transactionId⟩ charges
  obtain ⟨report, rfl, posts, opened, rfl⟩ := charge?_eq_some.mp charges
  obtain ⟨linked, link, found⟩ := Option.bind_eq_some_iff.mp opened
  have sameIntent : intent.id = linked := books.intents.key_of_find? found
  rw [chargeCount, List.length_eq_zero_iff, List.filter_eq_nil_iff]
  intro entry member counted
  simp only [Bool.and_eq_true, decide_eq_true_eq] at counted
  obtain ⟨transaction, stored, incoming, booked, sameLink⟩ :=
    one.booked entry member counted.2
  have same := one.only transaction stored report.transaction
    (books.transactions.mem_of_find? admitted) intent.id
    (sameLink.symm.trans counted.1) (by rw [link, sameIntent]) incoming (single posts.1)
  have charged : hasCustomerCharge books.ledger report.transaction.id = true := by
    rw [hasCustomerCharge, List.any_eq_true]
    exact ⟨entry, member, by simp [counted.2, booked, same]⟩
  rw [posts.2] at charged
  cases charged

end Movement

theorem initial_oneAttempt : Books.initial.OneAttempt where
  only := fun transaction member => absurd member (Table.not_mem_empty transaction)
  booked := fun _ member => absurd member List.not_mem_nil

/-- As long as the gateway is asked to charge each intent only once, and no success is
reported for a refund or a payout, every intent is charged at most once. -/
theorem charged_once_of_single_attempts (market : Marketplace) (operations : List Operation)
    (single : payments.Along (fun store operation =>
      operation.Meets (fun books movement => movement.SingleAttempt books) store)
        (Store.initial market) operations) :
    payments.Along (fun store operation => (operation.perform store).ChargedOnce)
      (Store.initial market) operations := by
  refine (@along_of_meets
    (fun books => books.OneAttempt ∧ books.ChargesInFull ∧ books.ChargedOnce)
    _ ?_ ?_ _ _ single).mono fun _ _ kept => kept.2.2
  · rintro books movement consistent admitted ⟨one, inFull, once⟩ met
    exact ⟨Movement.oneAttempt_apply admitted one met,
      Movement.chargesInFull_apply consistent inFull,
      (Movement.chargedOnce_apply_iff consistent admitted inFull once).mpr
        (Movement.firstCharge_of_single one admitted met)⟩
  · exact ⟨initial_oneAttempt, fun _ member => absurd member List.not_mem_nil,
      fun intent member => absurd member (Table.not_mem_empty intent)⟩

/-! ## One intent for each job -/

/-- `createIntent` opens no intent for a job which has one. -/
def Movement.SingleIntent (books : Books) : Movement → Prop
  | .openIntent _ _ _ _ job _ => ∀ intent ∈ books.intents, intent.jobId ≠ job.id
  | _ => True

/-- An intent is opened for at most the price of its job. -/
def Movement.OpensWithinPrice : Movement → Prop
  | .selectProposal _ _ terms _ => terms.split.grossAmount ≤ terms.proposal.price
  | .openIntent split _ _ _ job _ =>
      ∀ agreedPrice ∈ job.agreedPrice, 0 < agreedPrice → split.grossAmount ≤ agreedPrice
  | _ => True

theorem resolveChargeAmount_agreed {job : Job} {amount agreedPrice : Int}
    (resolved : resolveChargeAmount job = .ok amount) (agreed : agreedPrice ∈ job.agreedPrice)
    (positive : 0 < agreedPrice) : amount = agreedPrice := by
  have kept : job.agreedPrice.filter (0 < ·) = some agreedPrice :=
    Option.filter_eq_some_iff.mpr ⟨agreed, by simpa using positive⟩
  rw [resolveChargeAmount, kept] at resolved
  exact (Except.ok.inj resolved).symm

theorem movements_openWithinPrice (store : Store) (operation : Operation) :
    ∀ movement ∈ operation.movements store, movement.OpensWithinPrice := by
  intro movement member
  cases makes_of_mem member with
  | @selectProposal policy _ _ _ _ _ _ _ _ gate =>
      simp only [selectionGate, gate_bind_eq_ok, gate_pure_eq_ok] at gate
      obtain ⟨_, _, proposal, _, _, _, _, _, _, _, split, computed, rfl⟩ := gate
      exact policy.deposit_gross_le _ _ _ computed
  | @openIntent policy _ _ _ _ chargeAmount _ gate =>
      intro agreedPrice agreed positive
      simp only [createIntentGate, gate_bind_eq_ok] at gate
      obtain ⟨_, _, _, _, _, _, amount, resolved, decided⟩ := gate
      split at decided
      · cases decided
      · simp only [gate_bind_eq_ok, gate_pure_eq_ok] at decided
        obtain ⟨_, _, same⟩ := decided
        cases same
        have whole := resolveChargeAmount_agreed resolved agreed positive
        have gross_le := policy.split_gross_le chargeAmount
        omega
  | _ =>
      trivial

/-- A job has one intent, for at most its price. -/
structure Books.OneIntent (books : Books) : Prop where
  only : ∀ intent ∈ books.intents, ∀ other ∈ books.intents,
    intent.jobId = other.jobId → intent.id = other.id
  within : ∀ intent ∈ books.intents, ∀ job ∈ books.jobs, job.id = intent.jobId →
    ∀ agreedPrice ∈ job.agreedPrice, intent.amount ≤ agreedPrice
  priced : ∀ job ∈ books.jobs, ∀ agreedPrice ∈ job.agreedPrice, 0 < agreedPrice

namespace Movement

variable {books : Books} {movement : Movement}

/-- A new intent is the only one of its job. -/
theorem opened_origin (consistent : books.Consistent) (admitted : movement.Admitted books)
    (single : movement.SingleIntent books) (opens : movement.OpensWithinPrice)
    {intent : PaymentIntent} (member : intent ∈ movement.intents books) :
    (∃ old ∈ books.intents, intent.fixed = old.fixed) ∨
      (intent.id = books.intents.nextId ∧ (∀ old ∈ books.intents, old.jobId ≠ intent.jobId) ∧
        ∀ job ∈ movement.jobs books, job.id = intent.jobId →
          ∀ agreedPrice ∈ job.agreedPrice, 0 < agreedPrice → intent.amount ≤ agreedPrice) := by
  cases movement with
  | selectProposal policy request terms actorUserId =>
      simp only [intents] at member
      rcases Table.eq_or_mem_of_insert member with rfl | older
      · refine .inr ⟨rfl, fun old older same => ?_, fun job present same => ?_⟩
        · have stored := consistent.toForeignKeys.intent_job old older
          rw [same, show (depositIntent policy request terms actorUserId books.jobs.nextId
            books.intents.nextId).jobId = books.jobs.nextId from rfl,
            books.jobs.find?_nextId] at stored
          cases stored
        · simp only [jobs] at present
          rcases Table.eq_or_mem_of_insert present with rfl | olderJob
          · rintro agreedPrice ⟨rfl⟩ -
            exact opens
          · exact absurd same (books.jobs.key_lt_nextId olderJob).ne
      · exact .inl ⟨intent, older, rfl⟩
  | openIntent split actorUserId dto now target providerUserId =>
      simp only [intents] at member
      rcases Table.eq_or_mem_of_insert member with rfl | older
      · refine .inr ⟨rfl, single, fun job present same => ?_⟩
        obtain rfl : job = target :=
          books.jobs.eq_of_key_eq present (books.jobs.mem_of_find? admitted.1) same
        exact opens
      · exact .inl ⟨intent, older, rfl⟩
  | moveJob job requesterId dto now =>
      simp only [intents] at member
      split_ifs at member
      · exact .inl (Table.Evolves.origin_updateMany _ member fun _ => rfl)
      · exact .inl ⟨intent, member, rfl⟩
  | applyReport report =>
      simp only [intents] at member
      split at member
      · exact .inl (Table.Evolves.origin_update _ member fun _ => rfl)
      · exact .inl ⟨intent, member, rfl⟩
  | _ =>
      exact .inl ⟨intent, member, rfl⟩

theorem only_intent_apply (consistent : books.Consistent) (admitted : movement.Admitted books)
    (one : books.OneIntent) (single : movement.SingleIntent books)
    (opens : movement.OpensWithinPrice) {intent other : PaymentIntent}
    (member : intent ∈ movement.intents books) (otherMember : other ∈ movement.intents books)
    (sameJob : intent.jobId = other.jobId) : intent.id = other.id := by
  rcases opened_origin consistent admitted single opens member with
    ⟨old, older, same⟩ | ⟨newId, first, _⟩ <;>
    rcases opened_origin consistent admitted single opens otherMember with
      ⟨otherOld, otherOlder, otherSame⟩ | ⟨otherNewId, otherFirst, _⟩
  · have jobOf := field_eq same PaymentIntent.jobId fun _ => rfl
    have otherJobOf := field_eq otherSame PaymentIntent.jobId fun _ => rfl
    rw [field_eq same PaymentIntent.id fun _ => rfl,
      field_eq otherSame PaymentIntent.id fun _ => rfl]
    exact one.only old older otherOld otherOlder
      (jobOf.symm.trans (sameJob.trans otherJobOf))
  · have jobOf := field_eq same PaymentIntent.jobId fun _ => rfl
    exact absurd (jobOf.symm.trans sameJob) (otherFirst old older)
  · have otherJobOf := field_eq otherSame PaymentIntent.jobId fun _ => rfl
    exact absurd (otherJobOf.symm.trans sameJob.symm) (first otherOld otherOlder)
  · exact newId.trans otherNewId.symm

theorem priced_apply (admitted : movement.Admitted books) (one : books.OneIntent) {job : Job}
    (member : job ∈ movement.jobs books) {agreedPrice : Int}
    (agreed : agreedPrice ∈ job.agreedPrice) : 0 < agreedPrice := by
  rcases job_origin admitted member with ⟨old, found, samePrice⟩ | ⟨_, _, positive⟩
  · exact one.priced old (books.jobs.mem_of_find? found) agreedPrice
      (samePrice.symm.trans agreed)
  · exact positive agreedPrice agreed

theorem within_apply (consistent : books.Consistent) (admitted : movement.Admitted books)
    (one : books.OneIntent) (single : movement.SingleIntent books)
    (opens : movement.OpensWithinPrice) {intent : PaymentIntent} {job : Job}
    (member : intent ∈ movement.intents books) (jobMember : job ∈ movement.jobs books)
    (sameJob : job.id = intent.jobId) {agreedPrice : Int}
    (agreed : agreedPrice ∈ job.agreedPrice) : intent.amount ≤ agreedPrice := by
  rcases opened_origin consistent admitted single opens member with
    ⟨old, older, same⟩ | ⟨_, _, within⟩
  · have jobOf : intent.jobId = old.jobId := field_eq same PaymentIntent.jobId fun _ => rfl
    have amountOf : intent.amount = old.amount :=
      field_eq same PaymentIntent.amount fun _ => rfl
    rw [amountOf]
    rcases job_origin admitted jobMember with ⟨oldJob, found, samePrice⟩ | ⟨absent, _⟩
    · exact one.within old older oldJob (books.jobs.mem_of_find? found)
        ((books.jobs.key_of_find? found).trans (sameJob.trans jobOf)) agreedPrice
        (samePrice.symm.trans agreed)
    · have stored := consistent.toForeignKeys.intent_job old older
      rw [← jobOf, ← sameJob, absent] at stored
      cases stored
  · exact within job jobMember sameJob agreedPrice agreed
      (priced_apply admitted one jobMember agreed)

theorem oneIntent_apply (consistent : books.Consistent) (admitted : movement.Admitted books)
    (one : books.OneIntent) (single : movement.SingleIntent books)
    (opens : movement.OpensWithinPrice) : (movement.apply books).OneIntent where
  only := fun _ member _ otherMember sameJob =>
    only_intent_apply consistent admitted one single opens member otherMember sameJob
  within := fun _ member _ jobMember sameJob _ agreed =>
    within_apply consistent admitted one single opens member jobMember sameJob agreed
  priced := fun _ member _ agreed => priced_apply admitted one member agreed

/-- The intent of a job without charges is for at most its price. -/
theorem fitsPrice_of_single (attempt : books.OneAttempt) (one : books.OneIntent)
    (admitted : movement.Admitted books) (single : movement.SingleAttempt books) :
    movement.FitsPrice books := by
  intro charged charges job found agreedPrice agreed
  have charges' : movement.charge? books = some charged := charges
  have opened := books.intents.mem_of_find? (find?_of_charge charges')
  have jobOf : job.id = charged.1.jobId := books.jobs.key_of_find? found
  have within := one.within charged.1 opened job (books.jobs.mem_of_find? found) jobOf
    agreedPrice agreed
  have first := firstCharge_of_single attempt admitted single charged charges
  have uncharged : books.jobCharges job.id = 0 := by
    rw [Books.jobCharges, List.filter_eq_nil_iff.mpr]
    · rfl
    · intro entry member counted
      simp only [Bool.and_eq_true, decide_eq_true_eq] at counted
      obtain ⟨intent, lookup, ofJob⟩ := Option.map_eq_some_iff.mp counted.1
      obtain ⟨linked, link, stored⟩ := Option.bind_eq_some_iff.mp lookup
      have sameIntent : intent.id = linked := books.intents.key_of_find? stored
      have sameId : intent.id = charged.1.id :=
        one.only intent (books.intents.mem_of_find? stored) charged.1 opened
          (ofJob.trans jobOf)
      rw [chargeCount, List.length_eq_zero_iff, List.filter_eq_nil_iff] at first
      refine first entry member ?_
      simp [link, counted.2, ← sameIntent, sameId]
  omega

end Movement

/-- As long as, besides, `createIntent` opens no second intent for a job, no job is charged
more than its price. -/
theorem jobs_within_price_of_single_intents (market : Marketplace)
    (operations : List Operation)
    (single : payments.Along (fun store operation => operation.Meets (fun books movement =>
      movement.SingleAttempt books ∧ movement.SingleIntent books) store)
        (Store.initial market) operations) :
    payments.Along (fun store operation => (operation.perform store).JobsWithinPrice)
      (Store.initial market) operations := by
  have along : payments.Along (fun store operation => operation.Meets (fun books movement =>
      (movement.SingleAttempt books ∧ movement.SingleIntent books) ∧
        movement.OpensWithinPrice) store) (Store.initial market) operations :=
    single.mono fun store operation met =>
      Machine.Along.and_forall_mem met (movements_openWithinPrice store operation)
  refine (@along_of_meets
    (fun books => books.OneAttempt ∧ books.OneIntent ∧ books.JobsWithinPrice)
    _ ?_ ?_ _ _ along).mono fun _ _ kept => kept.2.2
  · rintro books movement consistent admitted ⟨attempt, one, within⟩ ⟨met, opens⟩
    exact ⟨Movement.oneAttempt_apply admitted attempt met.1,
      Movement.oneIntent_apply consistent admitted one met.2 opens,
      (Movement.jobsWithinPrice_apply_iff consistent admitted within).mpr
        (Movement.fitsPrice_of_single attempt one admitted met.1)⟩
  · exact ⟨initial_oneAttempt,
      ⟨fun intent member => absurd member (Table.not_mem_empty intent),
        fun intent member => absurd member (Table.not_mem_empty intent),
        fun job member => absurd member (Table.not_mem_empty job)⟩,
      fun job member => absurd member (Table.not_mem_empty job)⟩

end Tchuno.Payments
