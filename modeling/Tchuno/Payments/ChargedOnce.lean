import Tchuno.Payments.ChargeAccounting
import Tchuno.Payments.Growth
import Tchuno.Payments.StatusReports

/-!
# One charge group for a transaction

`ensureChargeLedgerEntries` looks for a charge entry and then inserts three, with no
unique constraint behind it.  What makes it safe is the statement before: the update
of the transaction row, whose lock keeps all other reports on the transaction away
from the look until the entries are committed.
-/

namespace Tchuno.Payments

open Tchuno.Library Tchuno.Library.Ecma

/-! ## The charge of a transaction -/

/-- The charge entries which reference the transaction. -/
def chargeGroup (ledger : List LedgerEntry) (transactionId : TransactionId) :
    List LedgerEntry :=
  ledger.filter fun entry =>
    entry.transactionId = some transactionId && entry.entryType.isCharge

/-- A success was reported for the transaction. -/
def isConfirmed (applied : List AppliedReport) (transactionId : TransactionId) : Bool :=
  applied.any fun report =>
    report.transactionId = transactionId && report.status = .succeeded

def chargeView (transactionId : TransactionId) (database : Database) :
    List LedgerEntry × Bool :=
  (chargeGroup database.ledger transactionId, isConfirmed database.applied transactionId)

/-- The transaction of the intent has its charge group exactly if it is confirmed. -/
structure Database.ChargedAs (database : Database) (intent : PaymentIntent)
    (transactionId : TransactionId) : Prop where
  stored : ∃ row, database.intents.find? intent.id = some row ∧ row.fixed = intent.fixed
  linked : ∃ row, database.transactions.find? transactionId = some row ∧
    row.paymentIntentId = some intent.id
  group : chargeGroup database.ledger transactionId =
    if isConfirmed database.applied transactionId then
      chargeEntries intent transactionId
    else
      []

theorem chargeGroup_append (first second : List LedgerEntry)
    (transactionId : TransactionId) :
    chargeGroup (first ++ second) transactionId =
      chargeGroup first transactionId ++ chargeGroup second transactionId := by
  simp [chargeGroup]

theorem chargeGroup_chargeEntries (intent : PaymentIntent)
    (transactionId : TransactionId) :
    chargeGroup (chargeEntries intent transactionId) transactionId =
      chargeEntries intent transactionId := by
  simp [chargeGroup, chargeEntries, LedgerEntryType.isCharge]

theorem chargeGroup_chargeEntries_of_ne (intent : PaymentIntent)
    {transactionId other : TransactionId} (different : other ≠ transactionId) :
    chargeGroup (chargeEntries intent other) transactionId = [] := by
  simp [chargeGroup, chargeEntries, different]

/-- The entries of a charge are made of what never changes in its intent. -/
theorem chargeEntries_of_fixed {row intent : PaymentIntent}
    (same : row.fixed = intent.fixed) (transactionId : TransactionId) :
    chargeEntries row transactionId = chargeEntries intent transactionId := by
  change chargeEntries row.fixed transactionId = chargeEntries intent.fixed transactionId
  rw [same]

theorem hasCustomerCharge_iff {ledger : List LedgerEntry} {intent : PaymentIntent}
    {transactionId : TransactionId} {confirmed : Bool}
    (group : chargeGroup ledger transactionId =
      if confirmed then chargeEntries intent transactionId else []) :
    hasCustomerCharge ledger transactionId = confirmed := by
  cases confirmed with
  | true =>
      have member : ∀ entry ∈ chargeEntries intent transactionId, entry ∈ ledger := by
        intro entry charged
        rw [if_pos rfl] at group
        exact (List.mem_filter.mp (group ▸ charged)).1
      refine List.any_eq_true.mpr ⟨_, member _ (List.mem_cons_self), ?_⟩
      simp
  | false =>
      rw [if_neg Bool.false_ne_true, chargeGroup, List.filter_eq_nil_iff] at group
      rw [hasCustomerCharge, List.any_eq_false]
      intro entry member charge
      refine group entry member ?_
      simp only [Bool.and_eq_true, decide_eq_true_eq] at charge ⊢
      exact ⟨charge.1, by rw [charge.2]; rfl⟩

theorem Database.ChargedAs.of_keeps {before after : Database} {intent : PaymentIntent}
    {transactionId : TransactionId} (charged : before.ChargedAs intent transactionId)
    (grows : before.Grows after)
    (group : chargeGroup after.ledger transactionId =
      if isConfirmed after.applied transactionId then
        chargeEntries intent transactionId
      else
        []) :
    after.ChargedAs intent transactionId where
  stored := by
    obtain ⟨row, found, same⟩ := charged.stored
    obtain ⟨later, foundLater, kept⟩ := grows.intents _ row found
    exact ⟨later, foundLater, kept.trans same⟩
  linked := by
    obtain ⟨row, found, linked⟩ := charged.linked
    obtain ⟨later, foundLater, kept⟩ := grows.transactions _ row found
    refine ⟨later, foundLater, ?_⟩
    rw [field_eq kept PaymentTransaction.paymentIntentId fun _ => rfl, linked]
  group := group

/-! ## The discipline of the reports -/

/-- The lock on the transaction protects its charge. -/
def chargeDiscipline (ι : Type) (intent : PaymentIntent) (transactionId : TransactionId) :
    Discipline Database Database Target ι where
  data := id
  invariant := fun database => database.ChargedAs intent transactionId
  same := fun row before after => row = .transaction transactionId →
    chargeView transactionId after = chargeView transactionId before
  grows := Database.Grows
  allowed := fun _ _ _ _ => True

@[simp]
theorem chargeDiscipline_data (ι : Type) (intent : PaymentIntent)
    (transactionId : TransactionId) (database : Database) :
    (chargeDiscipline ι intent transactionId).data database = database := rfl

section Safety

variable {ι : Type} {intent : PaymentIntent} {transactionId : TransactionId}

theorem chargeDiscipline_tolerates :
    (chargeDiscipline ι intent transactionId).Tolerates
      (Database.Keeps (chargeView transactionId)) where
  refl := Database.Keeps.refl
  trans := Database.Keeps.trans
  keeps := by
    rintro before after ⟨grows, sameView⟩ charged
    refine ⟨after, rfl, ?_⟩
    rw [chargeDiscipline_data] at grows sameView
    obtain ⟨sameGroup, sameMark⟩ := Prod.ext_iff.mp sameView
    refine ⟨charged.of_keeps grows ?_, grows, fun _ _ _ => sameView⟩
    change isConfirmed after.applied _ = isConfirmed before.applied _ at sameMark
    rw [sameMark]
    exact sameGroup.trans charged.group

theorem chargeView_free (transactionId : TransactionId) :
    Procedure.FreeOfRows (chargeView transactionId) where
  jobs := fun _ _ => rfl
  intents := fun _ _ => rfl
  transactions := fun _ _ _ => rfl

/-- A report about another transaction, or another status. -/
theorem leaves_other_report {event : Option (PaymentProvider × String)}
    {transaction : PaymentTransaction} {status : GatewayOperationStatus}
    (other : ¬ (transaction.id = transactionId ∧ status = .succeeded))
    (rawPayload : Option Json) (reason : Option String) (now : Time) {commits : Prop} :
    (Procedure.applyGatewayStatus event transaction status rawPayload reason now).Leaves
      (Database.Keeps (chargeView transactionId)) commits := by
  refine Procedure.leaves_applyGatewayStatus (chargeView_free transactionId) (fun database => ?_)
    (fun succeeded database intent => ?_) rfl rawPayload reason now
  · refine Prod.ext rfl ?_
    have unmarked : (decide (transaction.id = transactionId) &&
        decide (status = .succeeded)) = false := by
      simpa using other
    simp only [chargeView, isConfirmed, List.any_cons, unmarked, Bool.false_or]
  · have different : transaction.id ≠ transactionId := fun same => other ⟨same, succeeded⟩
    refine Prod.ext ?_ rfl
    simp only [chargeView, chargeGroup_append,
      chargeGroup_chargeEntries_of_ne intent different, List.append_nil]

/-- The standings in which the charge is as it was committed. -/
abbrev Steady (ι : Type) (intent : PaymentIntent) (transactionId : TransactionId)
    (standing : Standing Database Database Target) : Prop :=
  (chargeDiscipline ι intent transactionId).Steady
    (Database.Keeps (chargeView transactionId)) standing

/-- What a successful report knows once it has looked for a charge entry: under its
lock the transaction stays as it was, confirmed or not. -/
theorem confirmed_stable {held : Set Target} (locked : .transaction transactionId ∈ held)
    (confirmed : Bool) :
    (chargeDiscipline ι intent transactionId).Stable held
      fun database => isConfirmed database.applied transactionId = confirmed := by
  rintro before after _ same _ knows
  have sameView := same _ locked rfl
  exact (congrArg Prod.snd sameView).trans knows

/-- The row of the transaction is locked and its confirmation pending, and nothing is
booked yet. -/
structure Marked (ι : Type) (intent : PaymentIntent) (transactionId : TransactionId)
    (standing : Standing Database Database Target) : Prop where
  stable : (chargeDiscipline ι intent transactionId).Stable standing.held standing.know
  locked : .transaction transactionId ∈ standing.held
  grows : ∀ database, Database.Grows database (standing.pending database)
  confirms : ∀ database,
    isConfirmed (standing.pending database).applied transactionId = true
  unbooked : ∀ database, chargeGroup (standing.pending database).ledger transactionId =
    chargeGroup database.ledger transactionId

theorem Marked.of_keeps {standing middle : Standing Database Database Target}
    (marked : Marked ι intent transactionId standing) (held : standing.held ⊆ middle.held)
    (know : middle.know = standing.know)
    (kept : ∀ database, Database.Keeps (chargeView transactionId)
      (standing.pending database) (middle.pending database)) :
    Marked ι intent transactionId middle where
  stable := by
    rw [know]
    exact marked.stable.mono held
  locked := held marked.locked
  grows := fun database => (marked.grows database).trans (kept database).1
  confirms := fun database =>
    (congrArg Prod.snd (kept database).2).trans (marked.confirms database)
  unbooked := fun database =>
    (congrArg Prod.fst (kept database).2).trans (marked.unbooked database)

/-- Before the commit: what is pending confirms the transaction and has its charge
group, be it that of an earlier report. -/
structure Booked (intent : PaymentIntent) (transactionId : TransactionId)
    (standing : Standing Database Database Target) (confirmed : Bool) : Prop where
  locked : .transaction transactionId ∈ standing.held
  knows : ∀ database, standing.know database →
    isConfirmed database.applied transactionId = confirmed
  grows : ∀ database, Database.Grows database (standing.pending database)
  confirms : ∀ database,
    isConfirmed (standing.pending database).applied transactionId = true
  group : ∀ database, chargeGroup (standing.pending database).ledger transactionId =
    chargeGroup database.ledger transactionId ++
      if confirmed then [] else chargeEntries intent transactionId

theorem Booked.of_keeps {standing middle : Standing Database Database Target} {confirmed : Bool}
    (booked : Booked intent transactionId standing confirmed)
    (held : standing.held ⊆ middle.held) (know : middle.know = standing.know)
    (kept : ∀ database, Database.Keeps (chargeView transactionId)
      (standing.pending database) (middle.pending database)) :
    Booked intent transactionId middle confirmed where
  locked := held booked.locked
  knows := by
    rw [know]
    exact booked.knows
  grows := fun database => (booked.grows database).trans (kept database).1
  confirms := fun database =>
    (congrArg Prod.snd (kept database).2).trans (booked.confirms database)
  group := fun database =>
    (congrArg Prod.fst (kept database).2).trans (booked.group database)

section Confirmation

variable {client : ι} {α : Type}
  {finish : Except ApiError α → Standing Database Database Target → Prop}
  (ends : ∀ result middle, Steady ι intent transactionId middle → finish result middle)

include ends

theorem closes_booked {middle : Standing Database Database Target} {confirmed : Bool}
    (booked : Booked intent transactionId middle confirmed) (value : α) :
    (chargeDiscipline ι intent transactionId).Closes client finish (.ok value) middle := by
  refine chargeDiscipline_tolerates.closes_ok ends fun database charged knows _ => ?_
  refine ⟨middle.pending database, rfl, ?_, booked.grows database, ?_⟩
  · refine charged.of_keeps (booked.grows database) ?_
    rw [booked.confirms, if_pos rfl, booked.group, charged.group, booked.knows _ knows]
    cases confirmed <;> simp
  · rintro row unlocked rfl
    exact absurd booked.locked unlocked

/-- The last statement, in a transaction with its charge group. -/
theorem safe_unlockJob {middle : Standing Database Database Target} (confirmed : Bool)
    (booked : Booked intent transactionId middle confirmed)
    (stable : (chargeDiscipline ι intent transactionId).Stable middle.held middle.know)
    (jobId : JobId) (now : Time) (value : α) :
    (chargeDiscipline ι intent transactionId).Safe client
      ((chargeDiscipline ι intent transactionId).Closes client finish) middle
      (Procedure.updateJob jobId (unlockedJob now) >>= fun _ => pure value :
        Procedure α) := by
  refine Discipline.safe_script_bind ?_
  refine Discipline.safe_of_leaves_inside Database.Keeps.refl Database.Keeps.trans
    (Procedure.leaves_unlockJob (chargeView_free transactionId) jobId now) stable ?_
  intro result last held know kept
  cases result with
  | error error =>
      exact chargeDiscipline_tolerates.closes_error client ends error last
  | ok job =>
      exact closes_booked ends (booked.of_keeps held know kept) value

/-- The look for a charge entry and what follows it. -/
theorem safe_unlockContact {row : PaymentIntent} (same : row.fixed = intent.fixed)
    (now : Time) (value : α) {standing : Standing Database Database Target}
    (marked : Marked ι intent transactionId standing) :
    (chargeDiscipline ι intent transactionId).Safe client
      ((chargeDiscipline ι intent transactionId).Closes client finish) standing
      (Procedure.unlockContact row transactionId now >>= fun _ => pure value :
        Procedure α) := by
  simp only [Procedure.unlockContact, Procedure.ensureChargeLedgerEntries,
    Script.bind_assoc, Script.pure_bind]
  refine Discipline.safe_select_bind fun database charged _ _ => ?_
  -- what the look finds is what was committed, and stays so under the lock
  have found : hasCustomerCharge (standing.pending database).ledger transactionId =
      isConfirmed database.applied transactionId :=
    hasCustomerCharge_iff ((marked.unbooked database).trans charged.group)
  refine ⟨fun later => isConfirmed later.applied transactionId =
    isConfirmed database.applied transactionId, rfl, confirmed_stable marked.locked _, ?_⟩
  simp only [chargeDiscipline_data, found]
  cases confirmed : isConfirmed database.applied transactionId with
  | true =>
      rw [if_pos rfl, Script.pure_bind]
      refine safe_unlockJob ends true ?_ (confirmed_stable marked.locked true) row.jobId now
        value
      refine ⟨marked.locked, fun _ knows => knows, marked.grows, marked.confirms, ?_⟩
      simpa using marked.unbooked
  | false =>
      have grows : ∀ later : Database, later.Grows
          { standing.pending later with
            ledger := (standing.pending later).ledger ++ chargeEntries row transactionId } :=
        fun later => (marked.grows later).trans (.of_append _)
      rw [if_neg Bool.false_ne_true]
      refine safe_unlockJob ends false ?_ (confirmed_stable marked.locked false) row.jobId now
        value
      refine ⟨marked.locked, fun _ knows => knows, grows, marked.confirms, ?_⟩
      intro later
      simp only [Function.comp_apply, chargeGroup_append, marked.unbooked,
        chargeEntries_of_fixed same, chargeGroup_chargeEntries]
      simp

/-- The intent's part of a report of success. -/
theorem safe_applyToIntent (now : Time) (value : α) {standing : Standing Database Database Target}
    (marked : Marked ι intent transactionId standing) :
    (chargeDiscipline ι intent transactionId).Safe client
      ((chargeDiscipline ι intent transactionId).Closes client finish) standing
      (Procedure.applyToIntent intent.id transactionId .succeeded now >>= fun _ => pure value :
        Procedure α) := by
  simp only [Procedure.applyToIntent, Script.bind_assoc]
  refine Discipline.safe_consult_bind fun database charged knows _ => ?_
  refine ⟨standing.know, knows, marked.stable, ?_⟩
  simp only [chargeDiscipline_data]
  cases opened : (standing.pending database).intents.find? intent.id with
  | none =>
      exact chargeDiscipline_tolerates.closes_error client ends _ _
  | some row =>
      have same : row.fixed = intent.fixed := by
        obtain ⟨old, foundOld, sameOld⟩ := charged.stored
        obtain ⟨later, foundLater, kept⟩ := (marked.grows database).intents _ old foundOld
        obtain rfl : later = row := Option.some.inj (foundLater.symm.trans opened)
        exact kept.trans sameOld
      refine Discipline.safe_script_bind ?_
      refine Discipline.safe_of_leaves_inside Database.Keeps.refl Database.Keeps.trans
        (Procedure.leaves_updateIntentStatus (chargeView_free transactionId) row _)
        marked.stable ?_
      intro result middle held know kept
      cases result with
      | error error =>
          exact chargeDiscipline_tolerates.closes_error client ends error middle
      | ok _ =>
          exact safe_unlockContact ends same now value (marked.of_keeps held know kept)

end Confirmation

/-! ## Calls -/

section Calls

variable {client : ι}

variable (intent transactionId client) in
/-- The calls of the rest of this section keep the charge of the transaction. -/
abbrev KeepsCharge {α : Type} (script : Procedure α) : Prop :=
  (chargeDiscipline ι intent transactionId).Carries client
    (Database.Keeps (chargeView transactionId)) script

variable (intent transactionId client) in
/-- They do so as the rest of a transaction's body. -/
abbrev KeepsChargeInside {α : Type} (script : Procedure α) : Prop :=
  (chargeDiscipline ι intent transactionId).CarriesInside client
    (Database.Keeps (chargeView transactionId)) script

/-- A report of success commits one charge group, unless there is one already. -/
theorem keepsCharge_confirmation {event : Option (PaymentProvider × String)}
    {transaction : PaymentTransaction} (about : transaction.id = transactionId)
    (rawPayload : Option Json) (reason : Option String) (now : Time) :
    KeepsChargeInside intent transactionId client
      (Procedure.applyGatewayStatus event transaction .succeeded rawPayload reason now) := by
  subst about
  intro finish standing steady ends
  have locked := steady.stable.mono (Set.subset_insert (.transaction transaction.id) _)
  refine Discipline.safe_script_bind (Procedure.safe_update (fun _ _ knows _ => knows) locked
    ?_ fun _ _ _ _ => chargeDiscipline_tolerates.closes_error client ends _ _)
  intro database row charged knows found
  -- the row is of the intent, whatever its other fields
  have linked : row.paymentIntentId = some intent.id := by
    obtain ⟨old, foundOld, linked⟩ := charged.linked
    obtain ⟨later, foundLater, kept⟩ := (steady.kept database).1.transactions _ old foundOld
    obtain rfl : later = row := Option.some.inj (foundLater.symm.trans found)
    rw [field_eq kept PaymentTransaction.paymentIntentId fun _ => rfl, linked]
  have sameId : row.id = transaction.id := Table.key_of_find? _ found
  refine ⟨standing.know, knows, locked, ?_⟩
  simp only [Discipline.Continues, settledRow_paymentIntentId, settledRow_id, linked, sameId]
  refine safe_applyToIntent ends now _ ⟨locked, Set.mem_insert _ _, ?_, ?_, ?_⟩
  · intro later
    refine (steady.kept later).1.trans ?_
    exact .of_settled transaction .succeeded rawPayload reason now _
  · intro later
    simp [isConfirmed]
  · intro later
    exact congrArg Prod.fst (steady.kept later).2

/-- Every report is safe, whatever it is about. -/
theorem keepsCharge_report (event : Option (PaymentProvider × String))
    (transaction : PaymentTransaction) (status : GatewayOperationStatus)
    (rawPayload : Option Json) (reason : Option String) (now : Time) :
    KeepsChargeInside intent transactionId client
      (Procedure.applyGatewayStatus event transaction status rawPayload reason now) := by
  by_cases target : transaction.id = transactionId ∧ status = .succeeded
  · rw [target.2]
    exact keepsCharge_confirmation target.1 rawPayload reason now
  · exact chargeDiscipline_tolerates.carriesInside
      (leaves_other_report target rawPayload reason now)

theorem keepsCharge_handleWebhook (environment : WebhookEnvironment)
    (provider : PaymentProvider) (dto : PaymentWebhookDto) (headers : WebhookHeaders)
    (eventId : Nat) (now : Time) :
    KeepsCharge intent transactionId client
      (Procedure.handleWebhook environment provider dto headers eventId now) := by
  have tolerates : (chargeDiscipline ι intent transactionId).Tolerates _ :=
    chargeDiscipline_tolerates
  refine (Procedure.carries_consult tolerates _ _).bind fun gate => ?_
  cases gate with
  | deduplicated event =>
      exact tolerates.carries (Script.leaves_pure _)
  | accepted signatureValid =>
      refine Discipline.Carries.bind
        (tolerates.carries (Procedure.leaves_createEvent (fun _ _ => rfl) _)) fun _ => ?_
      refine Discipline.Carries.bind (tolerates.carries
        (Procedure.leaves_webhookTransaction provider dto)) fun transaction => ?_
      have close : ∀ processed closed reply, KeepsCharge intent transactionId client
          (Procedure.closeEvent eventId processed closed now >>= fun _ => pure reply :
            Procedure WebhookReply) := fun processed closed reply =>
        tolerates.carries ((Procedure.leaves_closeEvent (fun _ _ => rfl) _ _ _ _).bind
          fun _ => Script.leaves_pure _)
      cases transaction with
      | none =>
          exact close false none (.unprocessed eventId)
      | some transaction =>
          cases truthy dto.status with
          | none =>
              exact close false (some transaction) (.unprocessed eventId)
          | some status =>
              refine Discipline.Carries.bind (Discipline.CarriesInside.transaction ?_)
                fun updated => close true (some updated) (.processed eventId updated.id)
              apply tolerates.carriesInside_bind
              · exact Procedure.carries_consult tolerates _ _
              · exact fun _ => keepsCharge_report _ _ _ _ _ _

theorem keepsCharge_procedure (call : ChargeCall) :
    KeepsCharge intent transactionId client call.procedure := by
  have creates : ∀ row, (Procedure.createTransaction row).Leaves
      (Database.Keeps (chargeView transactionId)) True :=
    Procedure.leaves_createTransaction fun _ _ => rfl
  have reply : ∀ value : ChargeReply, KeepsCharge intent transactionId client
      (pure value : Procedure ChargeReply) :=
    Procedure.carries_pure chargeDiscipline_tolerates
  cases call with
  | payIntent intentId actorUserId dto answer created now =>
      exact (Procedure.carries_payIntent chargeDiscipline_tolerates keepsCharge_report creates
        intentId actorUserId dto answer created now).bind fun _ => reply _
  | handleWebhook environment provider dto headers eventId now =>
      exact (keepsCharge_handleWebhook environment provider dto headers eventId now).bind
        fun _ => reply _
  | reconcileTransaction reconciled answer now =>
      exact (Procedure.carries_reconcileTransaction chargeDiscipline_tolerates
        keepsCharge_report reconciled answer now).bind fun _ => reply _

end Calls

/-- However the statements of the calls interleave, and whichever calls fail, the
transaction has its charge group exactly if it is confirmed. -/
theorem run_chargedAs [DecidableEq ι] {database : Database}
    (charged : database.ChargedAs intent transactionId) (calls : ι → ChargeCall)
    (schedule : List (ι × Turn)) :
    ((readCommitted Database Target ι (Except ApiError ChargeReply)).run
      (Cluster.start database fun client => (calls client).procedure) schedule).data.ChargedAs
        intent transactionId := by
  have safe : ∀ client, (chargeDiscipline ι intent transactionId).Safe client
      ((chargeDiscipline ι intent transactionId).Ends (fun _ _ _ _ => True) client)
      (Standing.initial Database Database Target) (calls client).procedure := fun client =>
    keepsCharge_procedure (calls client) _ _ (chargeDiscipline_tolerates.steady none)
      fun _ _ _ _ _ _ => trivial
  obtain ⟨after, lawful⟩ := (chargeDiscipline ι intent transactionId).run_lawful_of_allowed
    (fun _ _ _ _ => trivial) charged safe schedule
  have ends := lawful.invariant
  rw [show after = _ from lawful.data] at ends
  exact ends

end Safety

/-! ## After the first application -/

theorem chargeGroup_nextId {books : Books} (foreignKeys : books.ForeignKeys) :
    chargeGroup books.ledger books.transactions.nextId = [] := by
  rw [chargeGroup, List.filter_eq_nil_iff]
  intro entry member both
  simp only [Bool.and_eq_true, decide_eq_true_eq] at both
  obtain ⟨transaction, found⟩ := Option.isSome_iff_exists.mp
    (foreignKeys.entry_transaction entry member _ both.1)
  have bound := books.transactions.key_lt_nextId (books.transactions.mem_of_find? found)
  rw [books.transactions.key_of_find? found] at bound
  exact lt_irrefl _ bound

/-- The books after an attempt to charge and the report on it. -/
def attemptedBooks (books : Books) (intent : PaymentIntent) (idempotencyKey : String)
    (answer : GatewayResult) (now : Time) : Books :=
  bookkeeping.run books
    [.attemptCharge intent idempotencyKey answer now,
      .applyReport (attemptReport books intent idempotencyKey answer now)]

/-- An attempt leaves its transaction charged as the gateway has answered. -/
theorem attempted_chargedAs {store : Store} (foreignKeys : store.ForeignKeys)
    {intent : PaymentIntent} (stored : store.intents.find? intent.id = some intent)
    (idempotencyKey : String) (answer : GatewayResult) (now : Time) {after : Store}
    (attempted : after.toBooks = attemptedBooks store.toBooks intent idempotencyKey answer now) :
    (Database.mk after [⟨none, store.transactions.nextId, answer.status⟩]).ChargedAs intent
      store.transactions.nextId where
  stored := by
    have early := Movement.intents_evolve store.toBooks
      (.attemptCharge intent idempotencyKey answer now)
    have late := Movement.intents_evolve
      (Movement.apply store.toBooks (.attemptCharge intent idempotencyKey answer now))
      (.applyReport (attemptReport store.toBooks intent idempotencyKey answer now))
    obtain ⟨row, found, same⟩ := (early.trans late) intent.id intent stored
    refine ⟨row, ?_, same⟩
    change after.intents.find? intent.id = some row
    rw [attempted]
    exact found
  linked := by
    have recorded := store.transactions.find?_insert_nextId
      (chargeRow intent idempotencyKey answer now) fun _ => rfl
    have settled : (attemptedBooks store.toBooks intent idempotencyKey answer
        now).transactions.find? store.transactions.nextId =
          some (settledRow (chargeRow intent idempotencyKey answer now
            store.transactions.nextId) answer.status answer.rawPayload answer.reason now
            (chargeRow intent idempotencyKey answer now store.transactions.nextId)) :=
      @Report.find?_transactions
        (Movement.apply store.toBooks (.attemptCharge intent idempotencyKey answer now))
        (attemptReport store.toBooks intent idempotencyKey answer now) recorded
    rw [← attempted] at settled
    exact ⟨_, settled, rfl⟩
  group := by
    have unbooked := chargeGroup_nextId foreignKeys
    have unmarked : hasCustomerCharge store.ledger store.transactions.nextId = false :=
      @hasCustomerCharge_iff _ intent _ _ (by simpa using unbooked)
    have appended : after.ledger = store.ledger ++
        if answer.status = .succeeded then
          chargeEntries intent store.transactions.nextId
        else
          [] := by
      have opened : (attemptReport store.toBooks intent idempotencyKey answer now).intent?
          (Movement.apply store.toBooks (.attemptCharge intent idempotencyKey answer now)) =
          some intent := stored
      rw [attempted]
      change (store.ledger ++ []) ++ Movement.entries
        (Movement.apply store.toBooks (.attemptCharge intent idempotencyKey answer now))
        (.applyReport (attemptReport store.toBooks intent idempotencyKey answer now)) = _
      rw [List.append_nil]
      refine congrArg (store.ledger ++ ·) ?_
      simp only [Movement.entries, opened, Report.posts]
      refine if_congr (and_iff_left ?_) rfl rfl
      change hasCustomerCharge (store.ledger ++ []) store.transactions.nextId = false
      rw [List.append_nil, unmarked]
    change chargeGroup after.ledger _ = _
    rw [appended, chargeGroup_append, unbooked, List.nil_append]
    by_cases succeeded : answer.status = .succeeded
    · rw [if_pos succeeded, chargeGroup_chargeEntries]
      simp [isConfirmed, succeeded]
    · rw [if_neg succeeded]
      simp [isConfirmed, succeeded, chargeGroup]

/-- For every transaction which `payIntent` has created, and however the deliveries,
the reconciliations and the other payments after it interleave, the ledger holds one
charge group of the transaction if a success was reported for it, and none if not. -/
theorem charged_exactly_once {ι : Type} [DecidableEq ι] (market : Marketplace)
    (operations : List Operation) (intentId : IntentId) (actorUserId : UserId)
    (dto : PayPaymentIntentDto) (answer : GatewayResult) (now : Time)
    {store paid : Store} (before : store = payments.run (Store.initial market) operations)
    (after : paid = (payIntent intentId actorUserId dto answer now store).state)
    {transaction : PaymentTransaction}
    (created : paid.transactions.find? store.transactions.nextId = some transaction)
    (calls : ι → ChargeCall) (schedule : List (ι × Turn)) {final : Database}
    (ran : final = ((readCommitted Database Target ι (Except ApiError ChargeReply)).run
      (Cluster.start ⟨paid, [⟨none, transaction.id, answer.status⟩]⟩
        fun client => (calls client).procedure) schedule).data) :
    ∃ intent, paid.intents.find? intent.id = some intent ∧
      transaction.paymentIntentId = some intent.id ∧
      chargeGroup final.ledger transaction.id =
        if isConfirmed final.applied transaction.id then
          chargeEntries intent transaction.id
        else
          [] := by
  have reachable := reachable_run market operations
  rw [← before] at reachable
  have foreignKeys := (reachable_consistent reachable).toForeignKeys
  have id_eq : transaction.id = store.transactions.nextId :=
    paid.transactions.key_of_find? created
  have paidBooks := payIntent_books foreignKeys intentId actorUserId dto answer now
  rw [← after] at paidBooks
  -- a call which creates the transaction has passed the gate and the unique constraints
  have absent : ¬ paid.toBooks = store.toBooks := by
    intro same
    rw [same, store.transactions.find?_nextId] at created
    cases created
  unfold chargeMovements at paidBooks
  split at paidBooks
  · rename_i intent idempotencyKey gate
    split_ifs at paidBooks with admitted
    · obtain ⟨stored, _⟩ := payIntentGate_charge gate
      have charged := attempted_chargedAs foreignKeys stored idempotencyKey answer now paidBooks
      obtain ⟨row, foundRow, sameTerms⟩ := charged.stored
      obtain ⟨linkedRow, foundLinked, linked⟩ := charged.linked
      have sameRow : transaction = linkedRow :=
        Option.some.inj (created.symm.trans foundLinked)
      have ends := run_chargedAs charged calls schedule
      have rowId : row.id = intent.id := Table.key_of_find? _ foundRow
      rw [id_eq] at ran ⊢
      rw [← ran] at ends
      refine ⟨row, rowId ▸ foundRow, ?_, ?_⟩
      · rw [sameRow, linked, rowId]
      · rw [ends.group, chargeEntries_of_fixed sameTerms]
    · exact absurd paidBooks absent
  · exact absurd paidBooks absent

/-! ## Two deliveries at once -/

section Sample

/-- The gateway has left the deposit pending. -/
def samplePendingStore : Store :=
  (payIntent 0 0 ⟨none⟩ (sampleAnswer .pending "charge") 2
    (payments.run (Store.initial sampleMarketplace) [sampleSelection])).state

/-- Two deliveries which report the same success in two events. -/
def sampleReports (client : Bool) : ChargeCall :=
  .handleWebhook sampleWebhookEnvironment .internal
    ⟨some (toString client), none, some 0, some "SUCCEEDED", none⟩ ⟨none, none⟩
    client.toNat 3

/-- Both are processed, statement by statement in turn. -/
def sampleReported : Cluster Database Target Bool (Except ApiError ChargeReply) :=
  (readCommitted Database Target Bool (Except ApiError ChargeReply)).run
    (Cluster.start ⟨samplePendingStore, [⟨none, 0, .pending⟩]⟩
      fun client => (sampleReports client).procedure)
    (List.replicate 40 [(true, Turn.advance), (false, Turn.advance)]).flatten

theorem two_deliveries_charge_once :
    sampleReported.data.applied.length = 3 ∧
      ∃ intent, samplePendingStore.intents.find? intent.id = some intent ∧
        chargeGroup sampleReported.data.ledger 0 = chargeEntries intent 0 := by
  have created : samplePendingStore.transactions.find? 0 ≠ none := by decide +kernel
  obtain ⟨transaction, found⟩ := Option.ne_none_iff_exists'.mp created
  have id_eq : transaction.id = 0 := Table.key_of_find? _ found
  have reports : sampleReported.data.applied.length = 3 ∧
      isConfirmed sampleReported.data.applied 0 = true := by
    decide +kernel
  have ran : sampleReported.data =
      ((readCommitted Database Target Bool (Except ApiError ChargeReply)).run
        (Cluster.start ⟨samplePendingStore, [⟨none, transaction.id, .pending⟩]⟩
          fun client => (sampleReports client).procedure)
        (List.replicate 40 [(true, Turn.advance), (false, Turn.advance)]).flatten).data := by
    rw [id_eq]
    rfl
  obtain ⟨intent, stored, _, group⟩ := charged_exactly_once sampleMarketplace
    [sampleSelection] 0 0 ⟨none⟩ (sampleAnswer .pending "charge") 2 rfl rfl found
    sampleReports _ ran
  rw [id_eq, reports.2, if_pos rfl] at group
  exact ⟨reports.1, intent, stored, group⟩

end Sample

end Tchuno.Payments
