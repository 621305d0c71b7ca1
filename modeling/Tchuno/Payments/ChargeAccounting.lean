import Tchuno.Payments.Conservation
import Tchuno.Payments.Reports

/-!
# Charge accounting

Charge entries are posted by `applyGatewayStatus` alone, for any transaction it
is handed and without a look at the other transactions of the intent.  What is
missing there decides three questions: whether only charges are booked as
charges, whether an intent is charged once, and whether a job is charged more
than its price.
-/

namespace Tchuno.Payments

open Tchuno.Library

/-! ## Where charge entries come from -/

/-- The types of the entries of a confirmed charge. -/
def LedgerEntryType.isCharge : LedgerEntryType → Bool
  | .customerCharge => true
  | .platformFeeReserved => true
  | .providerBalanceHeld => true
  | _ => false

/-- The intent a movement charges, with the transaction it is charged for. -/
def Movement.charge? (books : Books) : Movement → Option (PaymentIntent × TransactionId)
  | .applyReport report =>
      if report.posts books then
        (report.intent? books).map fun intent => (intent, report.transaction.id)
      else
        none
  | _ => none

theorem Movement.charge?_eq_some {books : Books} {movement : Movement}
    {intent : PaymentIntent} {transactionId : TransactionId} :
    movement.charge? books = some (intent, transactionId) ↔
      ∃ report, movement = .applyReport report ∧ report.posts books ∧
        report.intent? books = some intent ∧ report.transaction.id = transactionId := by
  cases movement with
  | applyReport report =>
      by_cases posts : report.posts books
      · simp [charge?, posts]
      · simp [charge?, posts]
  | _ =>
      simp [charge?]

/-- The charge entries among what a movement appends. -/
theorem Movement.filter_isCharge_entries (books : Books) (movement : Movement) :
    ((movement.entries books).filter fun entry => entry.entryType.isCharge) =
      match movement.charge? books with
      | some (intent, transactionId) => chargeEntries intent transactionId
      | none => [] := by
  cases movement with
  | applyReport report =>
      simp only [entries, charge?]
      cases opened : report.intent? books with
      | none =>
          split_ifs <;> rfl
      | some intent =>
          split_ifs <;> rfl
  | settleRefund order actorUserId decisionNote answer now =>
      simp only [entries, charge?]
      split_ifs
      · rw [List.filter_eq_nil_iff]
        intro entry member
        rcases refundEntries_type _ _ _ _ _ _ entry member with type | type <;>
          simp [type, LedgerEntryType.isCharge]
      · rfl
  | settlePayout payout actorUserId dto answer now =>
      simp only [entries, charge?]
      split_ifs <;> rfl
  | _ =>
      rfl

/-- The customer is charged once by a movement that charges. -/
theorem Movement.filter_customerCharge_entries (books : Books) (movement : Movement) :
    ((movement.entries books).filter fun entry => entry.entryType = .customerCharge) =
      match movement.charge? books with
      | some (intent, transactionId) => (chargeEntries intent transactionId).take 1
      | none => [] := by
  have refined : ((movement.entries books).filter fun entry =>
      entry.entryType = .customerCharge) =
      ((movement.entries books).filter fun entry => entry.entryType.isCharge).filter
        fun entry => entry.entryType = .customerCharge := by
    rw [List.filter_filter]
    refine List.filter_congr fun entry _ => ?_
    cases entry.entryType <;> rfl
  rw [refined, filter_isCharge_entries]
  cases movement.charge? books with
  | none =>
      rfl
  | some charged =>
      rfl

/-! ## Charges are booked for charges only -/

/-- No charge entry references a refund or a payout. -/
def Books.ChargesOnly (books : Books) : Prop :=
  ∀ entry ∈ books.ledger, entry.entryType.isCharge = true →
    ∀ transaction ∈ books.transactions, entry.transactionId = some transaction.id →
      transaction.isOutgoing = false

theorem Movement.chargesOnly_apply {books : Books} {movement : Movement}
    (consistent : books.Consistent) (admitted : movement.Admitted books)
    (chargesOnly : books.ChargesOnly)
    (incoming : ∀ report, movement = .applyReport report →
      report.transaction.isOutgoing = true → movement.charge? books = none) :
    (apply books movement).ChargesOnly := by
  intro entry member charge transaction present linked
  rcases List.mem_append.mp member with older | newer
  · obtain ⟨old, found⟩ := Option.isSome_iff_exists.mp
      (consistent.entry_transaction entry older transaction.id linked)
    rw [isOutgoing_of_fixed ((transactions_evolve books movement).fixed_eq found present)]
    refine chargesOnly entry older charge old (books.transactions.mem_of_find? found) ?_
    rw [linked, ← books.transactions.key_of_find? found]
    rfl
  · have posted : entry ∈ (movement.entries books).filter fun entry =>
        entry.entryType.isCharge := List.mem_filter.mpr ⟨newer, charge⟩
    rw [filter_isCharge_entries] at posted
    cases charged : movement.charge? books with
    | none =>
        simp [charged] at posted
    | some target =>
        obtain ⟨intent, transactionId⟩ := target
        simp only [charged] at posted
        obtain ⟨report, rfl, posts, opened, rfl⟩ := charge?_eq_some.mp charged
        have sameId : report.transaction.id = transaction.id := Option.some.inj
          ((chargeEntries_booked _ _ entry posted).2.1.symm.trans linked)
        have stored : books.transactions.find? transaction.id = some report.transaction := by
          rw [← sameId]
          exact admitted
        rw [isOutgoing_of_fixed ((transactions_evolve books _).fixed_eq stored present)]
        by_contra outgoing
        have silent := incoming report rfl (by simpa using outgoing)
        rw [silent] at charged
        cases charged

instance (books : Books) : Decidable books.ChargesOnly :=
  inferInstanceAs (Decidable (∀ entry ∈ books.ledger, _ → ∀ transaction ∈ books.transactions,
    _ → _))

/-- After the operation no charge entry references a refund or a payout, and its
reports on refunds and payouts left the status of their intents alone. -/
def Operation.ChargesForCharges (store : Store) (operation : Operation) : Prop :=
  (operation.perform store).ChargesOnly ∧
    ∀ report ∈ operation.reports store, report.transaction.isOutgoing = true →
      ∀ intent ∈ report.intent? store.toBooks,
        ((operation.perform store).intents.find? intent.id).map PaymentIntent.status =
          some intent.status

instance (store : Store) (operation : Operation) :
    Decidable (operation.ChargesForCharges store) :=
  inferInstanceAs (Decidable (_ ∧ ∀ report ∈ operation.reports store, _ →
    ∀ intent ∈ report.intent? store.toBooks, _))

/-- Reports on refunds and payouts are no successes, and map to the status their
intent already has. -/
def Operation.ReportsOnCharges (store : Store) (operation : Operation) : Prop :=
  ∀ report ∈ operation.reports store, report.transaction.isOutgoing = true →
    ∀ intent ∈ report.intent? store.toBooks,
      report.status ≠ .succeeded ∧
        mapGatewayToIntentStatus report.status intent.metadata = intent.status

theorem chargesOnly_perform {store : Store} (consistent : store.Consistent)
    (chargesOnly : store.ChargesOnly) {operation : Operation}
    (met : operation.ReportsOnCharges store) : (operation.perform store).ChargesOnly := by
  by_cases outgoing : ∃ report ∈ operation.reports store, report.transaction.isOutgoing = true
  · obtain ⟨report, reported, isOutgoing⟩ := outgoing
    obtain ⟨stored, only⟩ := movements_of_outgoing reported isOutgoing
    rw [perform_of_movements consistent.toForeignKeys only]
    refine Movement.chargesOnly_apply consistent stored chargesOnly ?_
    rintro other ⟨rfl⟩ _
    rw [Movement.charge?]
    split_ifs with posts
    · cases opened : report.intent? store.toBooks with
      | none =>
          rfl
      | some intent =>
          exact absurd posts.1 (met report reported isOutgoing intent opened).1
    · rfl
  · rw [perform_books consistent.toForeignKeys operation]
    have incoming : ∀ movement ∈ operation.movements store, ∀ report,
        movement = .applyReport report → report.transaction.isOutgoing = false := by
      rintro movement member report rfl
      by_contra isOutgoing
      exact outgoing ⟨report, mem_reports.mpr member, by simpa using isOutgoing⟩
    refine (@Machine.run_invariant _ _ bookkeeping
      (fun books => books.Consistent ∧ books.ChargesOnly) _ ?_ _ ⟨consistent, chargesOnly⟩ _
      ((movements_admitted store operation).and_forall_mem incoming)).2
    rintro books movement ⟨consistentBefore, chargesBefore⟩ ⟨admitted, notOutgoing⟩
    refine ⟨Movement.consistent_apply consistentBefore admitted,
      Movement.chargesOnly_apply consistentBefore admitted chargesBefore ?_⟩
    intro report same isOutgoing
    rw [notOutgoing report same] at isOutgoing
    cases isOutgoing

/-- Without a charge entry of its own, a successful report on a transaction of an
intent books one. -/
theorem not_chargesOnly_of_succeeded {books : Books} {report : Report}
    {intent : PaymentIntent} (chargesOnly : books.ChargesOnly)
    (stored : books.transactions.find? report.transaction.id = some report.transaction)
    (outgoing : report.transaction.isOutgoing = true)
    (opened : report.intent? books = some intent) (succeeded : report.status = .succeeded) :
    ¬ (Movement.apply books (.applyReport report)).ChargesOnly := by
  have uncharged : hasCustomerCharge books.ledger report.transaction.id = false := by
    rw [hasCustomerCharge, List.any_eq_false]
    intro entry member charge
    simp only [Bool.and_eq_true, decide_eq_true_eq] at charge
    have incoming := chargesOnly entry member (by simp [charge.2, LedgerEntryType.isCharge])
      report.transaction (books.transactions.mem_of_find? stored) charge.1
    rw [outgoing] at incoming
    cases incoming
  have posts : report.posts books := ⟨succeeded, uncharged⟩
  obtain ⟨entry, inGroup, charge⟩ : ∃ entry ∈ chargeEntries intent report.transaction.id,
      entry.entryType.isCharge = true := ⟨_, List.mem_cons_self, rfl⟩
  have appended : entry ∈ (Movement.apply books (.applyReport report)).ledger := by
    refine List.mem_append_right _ ?_
    simp only [Movement.entries, opened, posts, if_true]
    exact inGroup
  intro later
  have incoming := later entry appended charge _
    (Table.mem_of_find? _ (Report.find?_transactions stored))
    (chargeEntries_booked intent _ entry inGroup).2.1
  exact Bool.false_ne_true (incoming.symm.trans outgoing)

theorem chargesForCharges_iff {store : Store} (consistent : store.Consistent)
    (chargesOnly : store.ChargesOnly) (operation : Operation) :
    operation.ChargesForCharges store ↔ operation.ReportsOnCharges store := by
  constructor
  · rintro ⟨chargesAfter, statusKept⟩ report reported outgoing intent opened
    obtain ⟨stored, only⟩ := movements_of_outgoing reported outgoing
    have kept := statusKept report reported outgoing intent opened
    rw [perform_of_movements consistent.toForeignKeys only] at chargesAfter kept
    constructor
    · intro succeeded
      exact not_chargesOnly_of_succeeded chargesOnly stored outgoing opened succeeded
        chargesAfter
    · rw [Movement.apply, Report.find?_intents opened] at kept
      exact Option.some.inj kept
  · intro met
    refine ⟨chargesOnly_perform consistent chargesOnly met, ?_⟩
    intro report reported outgoing intent opened
    obtain ⟨_, only⟩ := movements_of_outgoing reported outgoing
    rw [perform_of_movements consistent.toForeignKeys only, Movement.apply,
      Report.find?_intents opened, Option.map_some,
      (met report reported outgoing intent opened).2]

/-- Along every run, charges are booked for charge transactions only, and reports
on other transactions leave intents alone, exactly as long as no success and no
change of the intent's status is reported for a refund or a payout. -/
theorem charges_for_charges_iff (market : Marketplace) (operations : List Operation) :
    payments.Along (fun store operation => operation.ChargesForCharges store)
        (Store.initial market) operations ↔
      payments.Along (fun store operation => operation.ReportsOnCharges store)
        (Store.initial market) operations := by
  refine @Machine.along_iff_along _ _ payments
    (fun store => store.Consistent ∧ store.ChargesOnly) _ _ ?_ ?_ _
    ⟨Books.initial_consistent, by simp [Store.initial, Books.initial, Books.ChargesOnly]⟩
    operations
  · rintro store operation ⟨consistent, chargesOnly⟩
    exact chargesForCharges_iff consistent chargesOnly operation
  · rintro store operation ⟨consistent, chargesOnly⟩ met
    exact ⟨perform_consistent consistent operation,
      chargesOnly_perform consistent chargesOnly met⟩

/-- A refund of a paid deposit is left pending and then reconciled as settled. -/
theorem refund_booked_as_charge :
    ¬ payments.Along (fun store operation => operation.ChargesForCharges store)
      (Store.initial sampleMarketplace)
      [sampleSelection, .payIntent 0 0 ⟨none⟩ (sampleAnswer .succeeded "charge") 2,
        .adminCreateRefund 2 ⟨0, some ⟨100, by decide⟩, "Late", []⟩
          (sampleAnswer .pending "refund") 3,
        .reconcileTransaction 1 (sampleAnswer .succeeded "refund") 4] := by
  decide +kernel

/-! ## An intent is charged once -/

/-- The number of times the customer was charged for the intent. -/
def chargeCount (ledger : List LedgerEntry) (intentId : IntentId) : Nat :=
  (ledger.filter fun entry =>
    entry.paymentIntentId = some intentId && entry.entryType = .customerCharge).length

/-- Every intent is charged at most once, and at most its amount. -/
def Books.ChargedOnce (books : Books) : Prop :=
  ∀ intent ∈ books.intents, chargeCount books.ledger intent.id ≤ 1 ∧
    amountOfType books.ledger intent.id .customerCharge ≤ intent.amount

instance (books : Books) : Decidable books.ChargedOnce :=
  inferInstanceAs (Decidable (∀ intent ∈ books.intents, _ ∧ _))

/-- Every charge of an intent is for its amount. -/
def Books.ChargesInFull (books : Books) : Prop :=
  ∀ entry ∈ books.ledger, entry.entryType = .customerCharge →
    ∀ intent ∈ books.intents, entry.paymentIntentId = some intent.id →
      entry.amount = intent.amount

/-- A movement charges only intents that were not charged before. -/
def Movement.FirstCharge (books : Books) (movement : Movement) : Prop :=
  ∀ charged ∈ movement.charge? books, chargeCount books.ledger charged.1.id = 0

theorem chargeCount_append (first second : List LedgerEntry) (intentId : IntentId) :
    chargeCount (first ++ second) intentId =
      chargeCount first intentId + chargeCount second intentId := by
  simp [chargeCount]

theorem chargeCount_eq_zero {ledger : List LedgerEntry} {intentId : IntentId}
    (unlinked : ∀ entry ∈ ledger, entry.paymentIntentId ≠ some intentId) :
    chargeCount ledger intentId = 0 := by
  rw [chargeCount, List.length_eq_zero_iff, List.filter_eq_nil_iff]
  intro entry member
  simp [unlinked entry member]

/-- A movement adds one charge to the intent it charges. -/
theorem Movement.chargeCount_entries (books : Books) (movement : Movement)
    (intentId : IntentId) :
    chargeCount (movement.entries books) intentId =
      match movement.charge? books with
      | some (intent, _) => if intent.id = intentId then 1 else 0
      | none => 0 := by
  rw [chargeCount, ← List.filter_filter, filter_customerCharge_entries]
  cases movement.charge? books with
  | none =>
      rfl
  | some charged =>
      by_cases same : charged.1.id = intentId <;> simp [chargeEntries, same]

/-- Charges in full add up to their number times the amount. -/
theorem amountOfType_customerCharge {books : Books} (inFull : books.ChargesInFull)
    {intent : PaymentIntent} (present : intent ∈ books.intents) :
    amountOfType books.ledger intent.id .customerCharge =
      chargeCount books.ledger intent.id * intent.amount := by
  have sameAmount : ∀ amount ∈ (books.ledger.filter fun entry =>
      entry.paymentIntentId = some intent.id && entry.entryType = .customerCharge).map
        LedgerEntry.amount, amount = intent.amount := by
    intro amount member
    obtain ⟨entry, accepted, rfl⟩ := List.mem_map.mp member
    obtain ⟨older, counted⟩ := List.mem_filter.mp accepted
    simp only [Bool.and_eq_true, decide_eq_true_eq] at counted
    exact inFull entry older counted.2 intent present counted.1
  rw [amountOfType, sumAmounts, List.sum_eq_card_nsmul _ _ sameAmount, List.length_map,
    nsmul_eq_mul]
  rfl

/-- The bound on the number of charges implies the bound on their sum. -/
theorem chargedOnce_iff {books : Books} (consistent : books.Consistent)
    (inFull : books.ChargesInFull) :
    books.ChargedOnce ↔ ∀ intent ∈ books.intents, chargeCount books.ledger intent.id ≤ 1 := by
  refine forall₂_congr fun intent present => and_iff_left_of_imp fun once => ?_
  obtain ⟨fee_nonneg, fee_le, _⟩ := consistent.intent_split intent present
  rw [amountOfType_customerCharge inFull present]
  have factor : (chargeCount books.ledger intent.id : Int) ≤ 1 := by exact_mod_cast once
  nlinarith

/-- The intent a movement charges is stored. -/
theorem Movement.find?_of_charge {books : Books} {movement : Movement}
    {charged : PaymentIntent × TransactionId}
    (charges : movement.charge? books = some charged) :
    books.intents.find? charged.1.id = some charged.1 := by
  obtain ⟨report, _, _, opened, _⟩ := charge?_eq_some.mp charges
  obtain ⟨linked, _, found⟩ := Option.bind_eq_some_iff.mp opened
  exact books.intents.find?_key found

theorem Movement.chargesInFull_apply {books : Books} {movement : Movement}
    (consistent : books.Consistent) (inFull : books.ChargesInFull) :
    (apply books movement).ChargesInFull := by
  intro entry member charge intent present linked
  rcases List.mem_append.mp member with older | newer
  · obtain ⟨old, found⟩ := Option.isSome_iff_exists.mp
      (consistent.entry_intent entry older intent.id linked)
    have sameAmount : intent.amount = old.amount :=
      field_eq ((intents_evolve books movement).fixed_eq found present) PaymentIntent.amount
        fun _ => rfl
    rw [sameAmount]
    refine inFull entry older charge old (books.intents.mem_of_find? found) ?_
    rw [linked, ← books.intents.key_of_find? found]
    rfl
  · have posted : entry ∈ (movement.entries books).filter fun entry =>
        entry.entryType = .customerCharge := List.mem_filter.mpr ⟨newer, by simpa using charge⟩
    rw [filter_customerCharge_entries] at posted
    cases charges : movement.charge? books with
    | none =>
        simp [charges] at posted
    | some charged =>
        simp only [charges, chargeEntries, List.take_succ_cons, List.take_zero,
          List.mem_singleton] at posted
        subst posted
        have sameId : charged.1.id = intent.id := Option.some.inj linked
        have found := find?_of_charge charges
        rw [sameId] at found
        exact (field_eq ((intents_evolve books movement).fixed_eq found present)
          PaymentIntent.amount fun _ => rfl).symm

theorem Movement.chargedOnce_apply_iff {books : Books} {movement : Movement}
    (consistent : books.Consistent) (admitted : movement.Admitted books)
    (inFull : books.ChargesInFull) (before : books.ChargedOnce) :
    (apply books movement).ChargedOnce ↔ movement.FirstCharge books := by
  rw [chargedOnce_iff (consistent_apply consistent admitted)
    (chargesInFull_apply consistent inFull)]
  rw [chargedOnce_iff consistent inFull] at before
  simp only [apply, chargeCount_append, chargeCount_entries]
  constructor
  · intro after charged charges
    have found := find?_of_charge charges
    obtain ⟨later, foundLater, _⟩ := intents_evolve books movement _ _ found
    have once := after later ((movement.intents books).mem_of_find? foundLater)
    have sameId : later.id = charged.1.id := (movement.intents books).key_of_find? foundLater
    have charges' : movement.charge? books = some charged := charges
    simp only [charges', sameId, if_true] at once
    omega
  · intro first intent present
    have known : chargeCount books.ledger intent.id ≤ 1 := by
      by_cases stored : (books.intents.find? intent.id).isSome
      · obtain ⟨old, found⟩ := Option.isSome_iff_exists.mp stored
        have sameId : old.id = intent.id := books.intents.key_of_find? found
        rw [← sameId]
        exact before old (books.intents.mem_of_find? found)
      · rw [chargeCount_eq_zero]
        · exact Nat.zero_le 1
        · intro entry member linked
          exact stored (consistent.entry_intent entry member intent.id linked)
    cases charges : movement.charge? books with
    | none =>
        simpa using known
    | some charged =>
        by_cases same : charged.1.id = intent.id
        · have fresh := first charged charges
          rw [same] at fresh
          simp [same, fresh]
        · simpa [same] using known

/-- Along every run, intents are charged at most once and at most their amount
exactly as long as no success is booked for an intent that has been charged. -/
theorem charged_once_iff (market : Marketplace) (operations : List Operation) :
    payments.Along (fun store operation => (operation.perform store).ChargedOnce)
        (Store.initial market) operations ↔
      payments.Along (fun store operation => operation.Meets Movement.FirstCharge store)
        (Store.initial market) operations := by
  refine @along_iff_meets Books.ChargesInFull Books.ChargedOnce _ ?_ ?_ ?_ ?_ ?_ market
    operations
  · intro books movement consistent _ inFull
    exact Movement.chargesInFull_apply consistent inFull
  · intro books movement consistent admitted inFull before
    exact Movement.chargedOnce_apply_iff consistent admitted inFull before
  · intro books movement preparatory charged charges
    obtain ⟨report, rfl, _⟩ := Movement.charge?_eq_some.mp charges
    cases preparatory
  · simp [Books.initial, Books.ChargesInFull]
  · simp [Books.initial, Books.ChargedOnce]

/-- Two attempts for one intent, both of which the gateway confirms. -/
theorem intent_charged_twice :
    ¬ payments.Along (fun store operation => (operation.perform store).ChargedOnce)
      (Store.initial sampleMarketplace)
      [sampleSelection, .payIntent 0 0 ⟨some "first"⟩ (sampleAnswer .pending "first") 2,
        .payIntent 0 0 ⟨some "second"⟩ (sampleAnswer .succeeded "second") 3,
        .reconcileTransaction 0 (sampleAnswer .succeeded "first") 4] := by
  decide +kernel

/-! ## A job is charged at most its price -/

/-- The job of the intent an entry is booked for. -/
def Books.entryJob? (books : Books) (entry : LedgerEntry) : Option JobId :=
  (entry.paymentIntentId.bind books.intents.find?).map PaymentIntent.jobId

/-- What the customer was charged over all payment intents of the job. -/
def Books.jobCharges (books : Books) (jobId : JobId) : Int :=
  sumAmounts (books.ledger.filter fun entry =>
    books.entryJob? entry = some jobId && entry.entryType = .customerCharge)

def Books.JobsWithinPrice (books : Books) : Prop :=
  ∀ job ∈ books.jobs, ∀ agreedPrice ∈ job.agreedPrice, books.jobCharges job.id ≤ agreedPrice

instance (books : Books) : Decidable books.JobsWithinPrice :=
  inferInstanceAs (Decidable (∀ job ∈ books.jobs, ∀ agreedPrice ∈ job.agreedPrice, _))

/-- A movement charges an intent only if its amount still fits into the price of
the job. -/
def Movement.FitsPrice (books : Books) (movement : Movement) : Prop :=
  ∀ charged ∈ movement.charge? books, ∀ job ∈ books.jobs.find? charged.1.jobId,
    ∀ agreedPrice ∈ job.agreedPrice,
      books.jobCharges job.id + charged.1.amount ≤ agreedPrice

/-- An entry stays with its job. -/
theorem Movement.entryJob?_apply {books : Books} (movement : Movement) {entry : LedgerEntry}
    (present : ∀ intentId, entry.paymentIntentId = some intentId →
      (books.intents.find? intentId).isSome) :
    (apply books movement).entryJob? entry = books.entryJob? entry := by
  unfold Books.entryJob?
  cases linked : entry.paymentIntentId with
  | none =>
      rfl
  | some intentId =>
      obtain ⟨old, found⟩ := Option.isSome_iff_exists.mp (present intentId linked)
      obtain ⟨later, foundLater, same⟩ := intents_evolve books movement _ _ found
      have foundAfter : (apply books movement).intents.find? intentId = some later := foundLater
      simp only [Option.bind_some, found, foundAfter, Option.map_some, Option.some.injEq]
      exact field_eq same PaymentIntent.jobId fun _ => rfl

/-- A movement charges the job of the intent it charges. -/
theorem Movement.jobCharges_apply {books : Books} {movement : Movement}
    (consistent : books.Consistent) (jobId : JobId) :
    (apply books movement).jobCharges jobId = books.jobCharges jobId +
      match movement.charge? books with
      | some (intent, _) => if intent.jobId = jobId then intent.amount else 0
      | none => 0 := by
  have kept : (books.ledger.filter fun entry =>
      (apply books movement).entryJob? entry = some jobId &&
        entry.entryType = .customerCharge) =
      books.ledger.filter fun entry =>
        books.entryJob? entry = some jobId && entry.entryType = .customerCharge :=
    List.filter_congr fun entry member => by
      rw [entryJob?_apply movement (consistent.entry_intent entry member)]
  have appended : (apply books movement).ledger = books.ledger ++ movement.entries books := rfl
  rw [Books.jobCharges, appended, List.filter_append, kept, sumAmounts, List.map_append,
    List.sum_append, ← List.filter_filter (l := movement.entries books),
    filter_customerCharge_entries]
  congr 1
  cases charges : movement.charge? books with
  | none =>
      rfl
  | some charged =>
      have found := find?_of_charge charges
      have jobOf : (apply books movement).entryJob?
          ((chargeEntries charged.1 charged.2).head (List.cons_ne_nil _ _)) =
            some charged.1.jobId := by
        rw [entryJob?_apply movement]
        · simp [Books.entryJob?, chargeEntries, found]
        · rintro intentId ⟨rfl⟩
          exact Option.isSome_iff_exists.mpr ⟨_, found⟩
      by_cases same : charged.1.jobId = jobId <;>
        simp_all [chargeEntries]

/-- A job no intent belongs to has not been charged. -/
theorem Books.jobCharges_of_absent {books : Books} (foreignKeys : books.ForeignKeys)
    {jobId : JobId} (absent : books.jobs.find? jobId = none) :
    books.jobCharges jobId = 0 := by
  rw [Books.jobCharges, List.filter_eq_nil_iff.mpr]
  · rfl
  · intro entry _ counted
    simp only [Bool.and_eq_true, decide_eq_true_eq] at counted
    obtain ⟨intent, opened, rfl⟩ := Option.map_eq_some_iff.mp counted.1
    obtain ⟨_, _, found⟩ := Option.bind_eq_some_iff.mp opened
    have present := foreignKeys.intent_job intent (books.intents.mem_of_find? found)
    rw [absent] at present
    cases present

/-- A job is new, with a positive price, or it is an old one with its price. -/
theorem Movement.job_origin {books : Books} {movement : Movement}
    (admitted : movement.Admitted books) {job : Job} (member : job ∈ movement.jobs books) :
    (∃ old, books.jobs.find? job.id = some old ∧ job.agreedPrice = old.agreedPrice) ∨
      (books.jobs.find? job.id = none ∧ movement.charge? books = none ∧
        ∀ agreedPrice ∈ job.agreedPrice, 0 < agreedPrice) := by
  by_cases stored : (books.jobs.find? job.id).isSome
  · obtain ⟨old, found⟩ := Option.isSome_iff_exists.mp stored
    have same := (jobs_evolve books movement).fixed_eq found member
    exact .inl ⟨old, found, field_eq same Job.agreedPrice fun _ => rfl⟩
  · have absent : books.jobs.find? job.id = none := by simpa using stored
    refine .inr ⟨absent, ?_⟩
    have unseen : ∀ old ∈ books.jobs, old.id ≠ job.id :=
      (books.jobs.find?_eq_none_iff).mp absent
    cases movement with
    | selectProposal policy request terms actorUserId =>
        simp only [jobs] at member
        rcases Table.eq_or_mem_of_insert member with rfl | older
        · refine ⟨rfl, ?_⟩
          rintro agreedPrice ⟨rfl⟩
          exact admitted.2.1
        · exact absurd rfl (unseen job older)
    | moveJob target requesterId dto now =>
        obtain ⟨old, older, rfl⟩ := Table.exists_of_update member
        exact absurd (by split_ifs <;> rfl) (unseen old older)
    | applyReport report =>
        simp only [jobs] at member
        split at member
        · split_ifs at member
          · obtain ⟨old, older, rfl⟩ := Table.exists_of_update member
            exact absurd (by split_ifs <;> rfl) (unseen old older)
          · exact absurd rfl (unseen job member)
        · exact absurd rfl (unseen job member)
    | _ =>
        exact absurd rfl (unseen job member)

theorem Movement.jobsWithinPrice_apply_iff {books : Books} {movement : Movement}
    (consistent : books.Consistent) (admitted : movement.Admitted books)
    (before : books.JobsWithinPrice) :
    (apply books movement).JobsWithinPrice ↔ movement.FitsPrice books := by
  constructor
  · intro after charged charges job found agreedPrice agreed
    obtain ⟨later, foundLater, same⟩ := jobs_evolve books movement _ _ found
    have samePrice : later.agreedPrice = job.agreedPrice :=
      field_eq same Job.agreedPrice fun _ => rfl
    have sameId : later.id = job.id := field_eq same Job.id fun _ => rfl
    have jobId : job.id = charged.1.jobId := books.jobs.key_of_find? found
    have within := after later ((movement.jobs books).mem_of_find? foundLater) agreedPrice
      (samePrice.trans agreed)
    have charges' : movement.charge? books = some charged := charges
    simpa [jobCharges_apply consistent, charges', sameId, jobId] using within
  · intro fits job member agreedPrice agreed
    rw [jobCharges_apply consistent]
    rcases job_origin admitted member with ⟨old, found, samePrice⟩ | ⟨absent, silent, positive⟩
    · have oldId : old.id = job.id := books.jobs.key_of_find? found
      have within := before old (books.jobs.mem_of_find? found) agreedPrice
        (samePrice.symm.trans agreed)
      rw [oldId] at within
      cases charges : movement.charge? books with
      | none =>
          simpa using within
      | some charged =>
          by_cases same : charged.1.jobId = job.id
          · have fit := fits charged charges old (same ▸ found) agreedPrice
              (samePrice.symm.trans agreed)
            rw [oldId] at fit
            simpa [same] using fit
          · simpa [same] using within
    · have free := positive agreedPrice agreed
      rw [Books.jobCharges_of_absent consistent.toForeignKeys absent, silent]
      exact free.le

/-- Along every run, no job is charged more than its agreed price exactly as long
as every success that is booked fits into what the price leaves. -/
theorem jobs_within_price_iff (market : Marketplace) (operations : List Operation) :
    payments.Along (fun store operation => (operation.perform store).JobsWithinPrice)
        (Store.initial market) operations ↔
      payments.Along (fun store operation => operation.Meets Movement.FitsPrice store)
        (Store.initial market) operations := by
  refine @along_iff_meets (fun _ => True) Books.JobsWithinPrice _ ?_ ?_ ?_ trivial ?_ market
    operations
  · exact fun _ _ _ _ _ => trivial
  · intro books movement consistent admitted _ before
    exact Movement.jobsWithinPrice_apply_iff consistent admitted before
  · intro books movement preparatory charged charges
    obtain ⟨report, rfl, _⟩ := Movement.charge?_eq_some.mp charges
    cases preparatory
  · simp [Books.initial, Books.JobsWithinPrice]

/-- The deposit fails, an intent for the whole price is paid, and then the
deposit is paid after all. -/
theorem job_overcharged :
    ¬ payments.Along (fun store operation => (operation.perform store).JobsWithinPrice)
      (Store.initial sampleMarketplace)
      [sampleSelection, .payIntent 0 0 ⟨none⟩ (sampleAnswer .failed "deposit") 2,
        .createIntent samplePolicy 0 ⟨0, none⟩ 3,
        .payIntent 1 0 ⟨none⟩ (sampleAnswer .succeeded "whole price") 4,
        .payIntent 0 0 ⟨none⟩ (sampleAnswer .succeeded "deposit again") 5] := by
  decide +kernel

end Tchuno.Payments
