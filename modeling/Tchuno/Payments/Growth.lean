import Tchuno.Payments.ConcurrentCharges
import Tchuno.Payments.Consistency

/-!
# What concurrent clients leave in place

Rows are never deleted and keep what identifies them, the ledger and the history
only get longer.  This is true of every single write of every client, whatever the
others do; what a write touches beyond that is said by a view it leaves alone.
-/

namespace Tchuno.Payments

open Tchuno.Library Tchuno.Library.Ecma

def PaymentEvent.fixed (event : PaymentEvent) : PaymentEvent :=
  { event with
    paymentIntentId := none
    transactionId := none
    processed := false
    processedAt := none }

/-- The rows of the older database are in the newer one. -/
structure Database.Grows (before after : Database) : Prop where
  jobs : Table.Evolves Job.fixed before.jobs after.jobs
  intents : Table.Evolves PaymentIntent.fixed before.intents after.intents
  transactions : Table.Evolves PaymentTransaction.fixed before.transactions
    after.transactions
  refunds : Table.Evolves RefundRequest.fixed before.refunds after.refunds
  payouts : Table.Evolves Payout.fixed before.payouts after.payouts
  events : Table.Evolves PaymentEvent.fixed before.events after.events
  incidents : Table.Evolves OperationalIncident.id before.incidents after.incidents
  ledger : before.ledger <+: after.ledger
  applied : before.applied <:+ after.applied

namespace Database.Grows

theorem refl (database : Database) : database.Grows database where
  jobs := .refl _ _
  intents := .refl _ _
  transactions := .refl _ _
  refunds := .refl _ _
  payouts := .refl _ _
  events := .refl _ _
  incidents := .refl _ _
  ledger := List.prefix_rfl
  applied := List.suffix_rfl

theorem trans {first second third : Database} (early : first.Grows second)
    (late : second.Grows third) : first.Grows third where
  jobs := early.jobs.trans late.jobs
  intents := early.intents.trans late.intents
  transactions := early.transactions.trans late.transactions
  refunds := early.refunds.trans late.refunds
  payouts := early.payouts.trans late.payouts
  events := early.events.trans late.events
  incidents := early.incidents.trans late.incidents
  ledger := early.ledger.trans late.ledger
  applied := early.applied.trans late.applied

variable {database : Database}

theorem of_jobs {jobs : Table Job} (evolve : Table.Evolves Job.fixed database.jobs jobs) :
    database.Grows { database with jobs := jobs } :=
  { refl database with jobs := evolve }

theorem of_intents {intents : Table PaymentIntent}
    (evolve : Table.Evolves PaymentIntent.fixed database.intents intents) :
    database.Grows { database with intents := intents } :=
  { refl database with intents := evolve }

theorem of_transactions {transactions : Table PaymentTransaction}
    (evolve : Table.Evolves PaymentTransaction.fixed database.transactions transactions) :
    database.Grows { database with transactions := transactions } :=
  { refl database with transactions := evolve }

theorem of_events {events : Table PaymentEvent}
    (evolve : Table.Evolves PaymentEvent.fixed database.events events) :
    database.Grows { database with events := events } :=
  { refl database with events := evolve }

theorem of_append (entries : List LedgerEntry) :
    database.Grows { database with ledger := database.ledger ++ entries } :=
  { refl database with ledger := List.prefix_append _ _ }

theorem of_settled (snapshot : PaymentTransaction) (status : GatewayOperationStatus)
    (rawPayload : Option Json) (reason : Option String) (now : Time)
    (report : AppliedReport) :
    database.Grows
      { database with
        transactions := database.transactions.update snapshot.id
          (settledRow snapshot status rawPayload reason now)
        applied := report :: database.applied } := by
  have evolve : Table.Evolves PaymentTransaction.fixed database.transactions
      (database.transactions.update snapshot.id
        (settledRow snapshot status rawPayload reason now)) :=
    .update _ _ _ _ _ fun _ => rfl
  exact
    { refl database with
      transactions := evolve
      applied := List.suffix_cons _ _ }

end Database.Grows

/-- The database grows and the view stays as it is. -/
def Database.Keeps {τ : Type} (view : Database → τ) (before after : Database) : Prop :=
  before.Grows after ∧ view after = view before

namespace Database.Keeps

variable {τ : Type} {view : Database → τ}

theorem refl (database : Database) : Keeps view database database :=
  ⟨.refl database, rfl⟩

theorem trans {first second third : Database} (early : Keeps view first second)
    (late : Keeps view second third) : Keeps view first third :=
  ⟨early.1.trans late.1, late.2.trans early.2⟩

end Database.Keeps

namespace Procedure

variable {kept : Database → Database → Prop} {commits : Prop} {α : Type}

/-! ## Statements -/

theorem leaves_consult_bind {α β : Type} {target : Target}
    {checks : Database → Except ApiError α} {next : α → Procedure β}
    (leaves : ∀ database value, checks database = .ok value → (next value).Leaves kept commits) :
    (Script.consult target checks >>= next : Procedure β).Leaves kept commits := by
  intro database
  cases checked : checks database with
  | ok value =>
      simp only [Program.bind, checked]
      exact leaves database value checked
  | error error =>
      simp only [Program.bind, checked]
      trivial

theorem leaves_update_bind {ρ β : Type} {target : Target} {find : Database → Option ρ}
    {change : ρ → ρ} {rewrite : Database → Database} {next : ρ → Procedure β}
    (keeps : ∀ database, kept database (rewrite database))
    (leaves : ∀ database row, find database = some row →
      (next (change row)).Leaves kept commits) :
    (update target find change rewrite >>= next : Procedure β).Leaves kept commits := by
  simp only [update, Script.bind_assoc, Script.pure_bind]
  refine (Script.leaves_lock target).bind fun _ => ?_
  refine leaves_consult_bind fun database row found => ?_
  refine (Script.leaves_write keeps).bind fun _ => ?_
  exact leaves database row (orThrow_eq_ok.mp found)

theorem leaves_update {ρ : Type} {target : Target} {find : Database → Option ρ}
    {change : ρ → ρ} {rewrite : Database → Database}
    (keeps : ∀ database, kept database (rewrite database)) :
    (update target find change rewrite).Leaves kept commits := by
  refine Script.leaves_lock target |>.bind fun _ => ?_
  refine (Script.leaves_consult _ _).bind fun row => ?_
  exact (Script.leaves_write keeps).bind fun _ => Script.leaves_pure _

theorem leaves_create {keys : List Target} {target : Target} {admits : Database → Bool}
    {place : Database → Database} (keeps : ∀ database, kept database (place database)) :
    (create keys target admits place).Leaves kept commits := by
  refine (Script.leaves_lockAll keys).bind fun _ => ?_
  refine (Script.leaves_consult _ _).bind fun _ => ?_
  exact Script.leaves_write keeps

section Rules

variable {τ ι ρ : Type} {discipline : Discipline τ Database Target ι} {client : ι}
  {standing : Standing τ Database Target}

/-- An `update` locks its row before it reads it, so what is learned from the row may
rest on the lock. -/
theorem safe_update {target : Target} {find : Database → Option ρ} {change : ρ → ρ}
    {rewrite : Database → Database}
    {finish : Except ApiError ρ → Standing τ Database Target → Prop} {learned : τ → Prop}
    (locked : ∀ state, discipline.invariant state → standing.know state →
      discipline.allowed client standing.seen (.lock target) (discipline.data state) →
      learned state)
    (stable : discipline.Stable (insert target standing.held) learned)
    (found : ∀ state row, discipline.invariant state → learned state →
      find (standing.pending (discipline.data state)) = some row →
      ∃ known, known state ∧
        discipline.Stable (insert target standing.held) known ∧
        finish (.ok (change row))
          ⟨some (discipline.data state), insert target standing.held,
            rewrite ∘ standing.pending, known⟩)
    (missing : ∀ state, discipline.invariant state → learned state →
      find (standing.pending (discipline.data state)) = none →
      finish (.error (.database "P2025"))
        ⟨some (discipline.data state), insert target standing.held, standing.pending,
          learned⟩) :
    discipline.Safe client finish standing (update target find change rewrite) := by
  refine fun state invariant knows allowed =>
    ⟨learned, locked state invariant knows allowed, stable, ?_⟩
  refine Discipline.safe_consult_bind fun state invariant knows _ => ?_
  simp only
  cases opened : find (standing.pending (discipline.data state)) with
  | none =>
      exact ⟨learned, knows, stable, missing state invariant knows opened⟩
  | some row =>
      exact found state row invariant knows opened

end Rules

theorem leaves_read_bind {α β : Type} {target : Target} {look : Database → α}
    {next : α → Procedure β} (leaves : ∀ value, (next value).Leaves kept commits) :
    (Script.select target look >>= next : Procedure β).Leaves kept commits :=
  (Script.leaves_select target look).bind leaves

/-! ## Charges and webhooks -/

section Charges

variable {τ : Type} {view : Database → τ}

/-- The view does not look at the rows which a report rewrites. -/
structure FreeOfRows (view : Database → τ) : Prop where
  jobs : ∀ database jobs, view { database with jobs := jobs } = view database
  intents : ∀ database intents, view { database with intents := intents } = view database
  transactions : ∀ (database : Database) (transactions : Table PaymentTransaction),
    transactions.rows.map PaymentTransaction.fixed =
        database.transactions.rows.map PaymentTransaction.fixed →
      view { database with transactions := transactions } = view database

variable (free : FreeOfRows view)

include free

theorem leaves_updateIntentStatus (intent : PaymentIntent)
    (nextIntentStatus : PaymentIntentStatus) :
    (updateIntentStatus intent nextIntentStatus).Leaves (Database.Keeps view) commits := by
  unfold updateIntentStatus
  split_ifs
  · exact Script.leaves_pure _
  · refine (leaves_update fun database => ?_).bind fun _ => Script.leaves_pure _
    exact ⟨.of_intents (.update _ _ _ _ _ fun _ => rfl), free.intents _ _⟩

theorem leaves_unlockJob (jobId : JobId) (now : Time) :
    (updateJob jobId (unlockedJob now)).Leaves (Database.Keeps view) commits :=
  leaves_update fun _ =>
    ⟨.of_jobs (.update _ _ _ _ _ fun _ => rfl), free.jobs _ _⟩

omit free in
theorem leaves_createTransaction
    (free : ∀ database transactions,
      view { database with transactions := transactions } = view database)
    (row : PaymentTransaction) :
    (createTransaction row).Leaves (Database.Keeps view) commits :=
  leaves_create fun _ => ⟨.of_transactions (.place _ _ _), free _ _⟩

section Report

variable {event : Option (PaymentProvider × String)} {transactionId : TransactionId}
  {status : GatewayOperationStatus}
  (reported : ∀ database : Database,
    view { database with
      applied := ⟨event, transactionId, status⟩ :: database.applied } = view database)
  (booked : status = .succeeded → ∀ (database : Database) (intent : PaymentIntent),
    view { database with ledger := database.ledger ++ chargeEntries intent transactionId } =
      view database)

include booked

theorem leaves_applyToIntent (intentId : IntentId) (now : Time) :
    (applyToIntent intentId transactionId status now).Leaves (Database.Keeps view)
      commits := by
  refine (Script.leaves_consult _ _).bind fun intent => ?_
  refine (leaves_updateIntentStatus free _ _).bind fun _ => ?_
  split_ifs with succeeded
  · have books := booked (mapGatewayToTransactionStatus_eq_succeeded.mp succeeded)
    refine Script.Leaves.bind ?_ fun _ =>
      (leaves_unlockJob free _ _).bind fun _ => Script.leaves_pure _
    refine leaves_read_bind fun existing => ?_
    cases existing with
    | true =>
        exact Script.leaves_pure _
    | false =>
        exact Script.leaves_write fun database =>
          ⟨.of_append _, books database intent⟩
  · exact Script.leaves_pure _

include reported

theorem leaves_applyGatewayStatus {transaction : PaymentTransaction}
    (same : transaction.id = transactionId) (rawPayload : Option Json)
    (reason : Option String) (now : Time) :
    (applyGatewayStatus event transaction status rawPayload reason now).Leaves
      (Database.Keeps view) commits := by
  subst same
  refine leaves_update_bind (fun database => ?_) fun database row found => ?_
  · refine ⟨.of_settled transaction status rawPayload reason now _, ?_⟩
    refine (free.transactions { database with applied := _ :: database.applied } _ ?_).trans
      (reported database)
    exact Table.map_rows_update _ _ _ _ fun _ => rfl
  · have sameId : row.id = transaction.id := database.transactions.key_of_find? found
    simp only [settledRow_paymentIntentId, settledRow_id, sameId]
    cases row.paymentIntentId with
    | none =>
        exact Script.leaves_pure _
    | some intentId =>
        exact (leaves_applyToIntent free booked intentId now).bind fun _ =>
          Script.leaves_pure _

end Report

end Charges

section Deliveries

variable {τ : Type} {view : Database → τ}

theorem leaves_createEvent
    (free : ∀ database events, view { database with events := events } = view database)
    (event : PaymentEvent) :
    (createEvent event).Leaves (Database.Keeps view) True :=
  (leaves_create fun _ => ⟨.of_events (.place _ _ _), free _ _⟩).transaction

theorem leaves_closeEvent
    (free : ∀ database events, view { database with events := events } = view database)
    (eventId : Nat) (processed : Bool) (transaction : Option PaymentTransaction)
    (now : Time) :
    (closeEvent eventId processed transaction now).Leaves (Database.Keeps view) True :=
  (leaves_update fun _ =>
    ⟨.of_events (.update _ _ _ _ _ fun _ => rfl), free _ _⟩).transaction

theorem leaves_webhookTransaction (provider : PaymentProvider) (dto : PaymentWebhookDto) :
    (webhookTransaction provider dto).Leaves kept commits := by
  refine Script.Leaves.bind ?_ fun named => ?_
  · unfold namedTransaction
    cases dto.transactionId with
    | none =>
        exact Script.leaves_pure _
    | some transactionId =>
        exact Script.leaves_select _ _
  · cases named with
    | some transaction =>
        exact Script.leaves_pure _
    | none =>
        cases truthy dto.providerReference with
        | none =>
            exact Script.leaves_pure _
        | some reference =>
            exact Script.leaves_select _ _

end Deliveries

/-! ## Calls which report -/

section Calls

variable {τ ι : Type} {discipline : Discipline τ Database Target ι} {client : ι}
  (tolerates : discipline.Tolerates kept)
  (reports : ∀ event transaction status rawPayload reason now,
    discipline.CarriesInside client kept
      (applyGatewayStatus event transaction status rawPayload reason now))

include tolerates

theorem carries_consult (target : Target) (checks : Database → Except ApiError α) :
    discipline.Carries client kept (Script.consult target checks : Procedure α) :=
  tolerates.carries (Script.leaves_consult target checks)

theorem carries_pure (value : α) :
    discipline.Carries client kept (pure value : Procedure α) :=
  tolerates.carries (Script.leaves_pure value)

include reports

theorem carries_reconcileTransaction (transactionId : TransactionId)
    (answer : GatewayResult) (now : Time) :
    discipline.Carries client kept (reconcileTransaction transactionId answer now) :=
  (carries_consult tolerates _ _).bind fun _ => (reports _ _ _ _ _ _).transaction

theorem carries_payIntent (creates : ∀ row, (createTransaction row).Leaves kept True)
    (intentId : IntentId) (actorUserId : UserId) (dto : PayPaymentIntentDto)
    (answer : GatewayResult) (transactionId : TransactionId) (now : Time) :
    discipline.Carries client kept
      (payIntent intentId actorUserId dto answer transactionId now) := by
  have find : ∀ intentId, discipline.Carries client kept (findIntentOrThrow intentId) :=
    fun _ => carries_consult tolerates _ _
  refine (carries_consult tolerates _ _).bind fun found => ?_
  refine (tolerates.carries (Script.leaves_require _ _)).bind fun _ => ?_
  split_ifs
  · exact carries_pure tolerates found
  · refine (tolerates.carries (Script.leaves_require _ _)).bind fun _ => ?_
    refine Discipline.Carries.bind ?_ fun existing => ?_
    · unfold existingTransaction?
      split_ifs
      · exact tolerates.carries (Script.leaves_select _ _)
      · exact carries_pure tolerates none
    · split_ifs
      · exact find _
      · refine Discipline.Carries.bind (Discipline.CarriesInside.transaction ?_) fun _ => find _
        refine tolerates.carriesInside_bind (tolerates.carries (creates _)) fun _ => ?_
        exact reports _ _ _ _ _ _

end Calls

end Procedure

end Tchuno.Payments
