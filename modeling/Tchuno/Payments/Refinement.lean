import Tchuno.Payments.Movement

/-!
# The services make the movements

On books whose foreign keys hold, what an operation leaves behind is exactly the
run of its movements.  A service that throws has made no movement, or only the
one it committed before its last database transaction.
-/

namespace Tchuno.Payments

open Tchuno.Library

/-! ## Foreign keys -/

/-- The rows an existing row refers to exist. -/
structure Books.ForeignKeys (books : Books) : Prop where
  intent_job : ∀ intent ∈ books.intents, (books.jobs.find? intent.jobId).isSome
  transaction_intent : ∀ transaction ∈ books.transactions, ∀ intentId,
    transaction.paymentIntentId = some intentId → (books.intents.find? intentId).isSome
  refund_intent : ∀ refund ∈ books.refunds,
    (books.intents.find? refund.paymentIntentId).isSome
  refund_transaction : ∀ refund ∈ books.refunds, ∀ transactionId,
    refund.transactionId = some transactionId →
      (books.transactions.find? transactionId).isSome
  payout_intent : ∀ payout ∈ books.payouts, ∀ intentId,
    payout.paymentIntentId = some intentId → (books.intents.find? intentId).isSome
  entry_intent : ∀ entry ∈ books.ledger, ∀ intentId,
    entry.paymentIntentId = some intentId → (books.intents.find? intentId).isSome
  entry_transaction : ∀ entry ∈ books.ledger, ∀ transactionId,
    entry.transactionId = some transactionId →
      (books.transactions.find? transactionId).isSome

/-! ## Reports -/

theorem ensureChargeLedgerEntries_apply (intent : PaymentIntent)
    (transactionId : TransactionId) (store : Store) :
    ensureChargeLedgerEntries intent transactionId store =
      ⟨.ok (),
        { store with
          ledger := store.ledger ++
            if hasCustomerCharge store.ledger transactionId then
              []
            else
              chargeEntries intent transactionId },
        []⟩ := by
  unfold ensureChargeLedgerEntries
  rw [Action.inspect_bind_apply]
  by_cases posted : hasCustomerCharge store.ledger transactionId = true
  · simp [posted]
  · simp [posted, appendEntries]

theorem applyToIntent_of_found {store : Store} {intent : PaymentIntent} {job : Job}
    (foundIntent : store.intents.find? intent.id = some intent)
    (foundJob : store.jobs.find? intent.jobId = some job)
    (transactionId : TransactionId) (status : GatewayOperationStatus) (now : Time) :
    applyToIntent intent.id transactionId status now store =
      ⟨.ok (),
        { store with
          jobs :=
            if status = .succeeded then
              store.jobs.update intent.jobId (unlockedJob now)
            else
              store.jobs
          intents := store.intents.update intent.id fun row =>
            { row with status := mapGatewayToIntentStatus status intent.metadata }
          ledger := store.ledger ++
            if status = .succeeded ∧ hasCustomerCharge store.ledger transactionId = false then
              chargeEntries intent transactionId
            else
              [] },
        []⟩ := by
  have written :
      (if intent.status = mapGatewayToIntentStatus status intent.metadata then
          store
        else
          { store with
            intents := store.intents.update intent.id fun row =>
              { row with status := mapGatewayToIntentStatus status intent.metadata } }) =
        { store with
          intents := store.intents.update intent.id fun row =>
            { row with status := mapGatewayToIntentStatus status intent.metadata } } := by
    split_ifs with same
    · rw [store.intents.update_eq_self _ _ foundIntent (by rw [← same])]
    · rfl
  unfold applyToIntent
  simp only [Action.consult_bind_apply, foundIntent, orThrow]
  rw [Action.alter_bind_apply, written]
  by_cases succeeded : status = .succeeded
  · subst succeeded
    rw [if_pos (by rfl), Action.bind_of_ok (ensureChargeLedgerEntries_apply ..)]
    by_cases posted : hasCustomerCharge store.ledger transactionId = true <;>
      simp [Action.consult_bind_apply, foundJob, posted]
  · rw [if_neg (by simpa using succeeded)]
    simp [succeeded]

/-- A report on a stored transaction is applied as a whole. -/
theorem applyGatewayStatus_of_stored {store : Store} {report : Report}
    (stored : store.transactions.find? report.transaction.id = some report.transaction)
    (intentLinked : ∀ intentId, report.transaction.paymentIntentId = some intentId →
      (store.intents.find? intentId).isSome)
    (jobLinked : ∀ intent ∈ store.intents, (store.jobs.find? intent.jobId).isSome) :
    applyGatewayStatus report.transaction report.status report.rawPayload report.reason
        report.now store =
      ⟨.ok (settledRow report.transaction report.status report.rawPayload report.reason
          report.now report.transaction),
        { store with toBooks := Movement.apply store.toBooks (.applyReport report) },
        []⟩ := by
  unfold applyGatewayStatus
  simp only [Action.consult_bind_apply, stored, orThrow, Action.alter_bind_apply,
    settledRow_paymentIntentId]
  cases reference : report.transaction.paymentIntentId with
  | none =>
      simp [reference, Movement.apply, Movement.jobs, Movement.intents,
        Movement.transactions, Movement.entries, Movement.refunds, Movement.payouts,
        Report.intent?]
  | some intentId =>
      obtain ⟨intent, foundIntent⟩ := Option.isSome_iff_exists.mp (intentLinked _ reference)
      obtain ⟨job, foundJob⟩ := Option.isSome_iff_exists.mp
        (jobLinked intent (store.intents.mem_of_find? foundIntent))
      obtain rfl : intent.id = intentId := store.intents.key_of_find? foundIntent
      have opened : report.intent? store.toBooks = some intent := by
        simpa [Report.intent?, reference] using foundIntent
      have applied := @applyToIntent_of_found
        { store with
          transactions := store.transactions.update report.transaction.id
            (settledRow report.transaction report.status report.rawPayload report.reason
              report.now) }
        intent job foundIntent foundJob report.transaction.id report.status report.now
      refine (Action.bind_of_ok applied).trans ?_
      simp [Movement.apply, Movement.jobs, Movement.intents, Movement.transactions,
        Movement.entries, Movement.refunds, Movement.payouts, opened, Report.posts]
      rfl

theorem Books.ForeignKeys.applyGatewayStatus {store : Store}
    (foreignKeys : store.ForeignKeys) (report : Report)
    (stored : store.transactions.find? report.transaction.id = some report.transaction) :
    applyGatewayStatus report.transaction report.status report.rawPayload report.reason
        report.now store =
      ⟨.ok (settledRow report.transaction report.status report.rawPayload report.reason
          report.now report.transaction),
        { store with toBooks := bookkeeping.run store.toBooks [.applyReport report] },
        []⟩ :=
  applyGatewayStatus_of_stored stored
    (foreignKeys.transaction_intent _ (store.transactions.mem_of_find? stored))
    foreignKeys.intent_job

theorem reconcileTransaction_books {store : Store} (foreignKeys : store.ForeignKeys)
    (transactionId : TransactionId) (answer : GatewayResult) (now : Time) :
    (reconcileTransaction transactionId answer now store).state.toBooks =
      bookkeeping.run store.toBooks
        ((reconciliationReport? store transactionId answer now).map .applyReport).toList := by
  unfold reconcileTransaction reconciliationReport?
  rw [Action.consult_bind_apply]
  cases found : store.transactions.find? transactionId with
  | none =>
      rfl
  | some transaction =>
      have applied := foreignKeys.applyGatewayStatus
        ⟨transaction, answer.status, answer.rawPayload, answer.reason, now⟩
        (store.transactions.find?_key found)
      simp only [orThrow, Action.call_bind_apply, Outcome.after_state]
      rw [Action.transaction_of_ok applied]
      rfl

theorem webhookTransaction?_stored {store : Store} {provider : PaymentProvider}
    {dto : PaymentWebhookDto} {transaction : PaymentTransaction}
    (target : store.webhookTransaction? provider dto = some transaction) :
    store.transactions.find? transaction.id = some transaction := by
  unfold Store.webhookTransaction? at target
  split at target
  · rename_i named lookup
    obtain rfl : named = transaction := Option.some.inj target
    obtain ⟨transactionId, _, found⟩ := Option.bind_eq_some_iff.mp lookup
    exact store.transactions.find?_key found
  · split at target
    · obtain ⟨member, _⟩ := store.transactions.mem_of_findFirst? target
      exact store.transactions.find?_eq_some_iff.mpr ⟨member, rfl⟩
    · simp at target

theorem applyWebhook_apply {store : Store} (foreignKeys : store.ForeignKeys)
    {transaction : PaymentTransaction}
    (stored : store.transactions.find? transaction.id = some transaction)
    (dto : PaymentWebhookDto) (status : String) (now : Time) :
    applyWebhook transaction.id dto status now store =
      ⟨.ok (settledRow transaction (parseGatewayStatus status) dto.payload none now
          transaction),
        { store with
          toBooks := bookkeeping.run store.toBooks
            [.applyReport ⟨transaction, parseGatewayStatus status, dto.payload, none, now⟩] },
        []⟩ := by
  unfold applyWebhook
  simp only [Action.consult_bind_apply, stored, orThrow]
  generalize parseGatewayStatus status = reported
  exact foreignKeys.applyGatewayStatus
    ⟨transaction, reported, dto.payload, none, now⟩ stored

theorem handleWebhook_books {store : Store} (foreignKeys : store.ForeignKeys)
    (environment : WebhookEnvironment) (provider : PaymentProvider)
    (dto : PaymentWebhookDto) (headers : WebhookHeaders) (now : Time) :
    (handleWebhook environment provider dto headers now store).state.toBooks =
      bookkeeping.run store.toBooks
        ((webhookReport? store environment provider dto headers now).map
          .applyReport).toList := by
  unfold handleWebhook webhookReport?
  rw [Action.consult_bind_apply]
  rcases gate : webhookGate environment provider dto headers now store with error | decision
  · rfl
  · cases decision with
    | deduplicated event =>
        rfl
    | accepted signatureValid =>
        simp only [Action.inspect_bind_apply, Action.require_bind_apply]
        by_cases admitted :
            store.admitsEvent provider (dto.externalEventId.map Library.Ecma.trim) = true
        · simp only [admitted, if_true, Action.alter_bind_apply,
            Action.inspect_bind_apply]
          have sameTarget : Store.webhookTransaction?
              { store with
                events := store.events.insert (webhookEvent provider dto signatureValid) }
              provider dto = store.webhookTransaction? provider dto := rfl
          rw [sameTarget]
          rcases target : store.webhookTransaction? provider dto with _ | transaction
          · rfl
          · rcases reported : Library.Ecma.truthy dto.status with _ | status
            · rfl
            · have applied := @applyWebhook_apply
                { store with
                  events := store.events.insert (webhookEvent provider dto signatureValid) }
                foreignKeys transaction (webhookTransaction?_stored target) dto status now
              dsimp only
              rw [Action.bind_of_ok (Action.transaction_of_ok applied)]
              rfl
        · simp only [admitted]
          rfl

/-! ## Paying -/

theorem payIntentGate_charge {store : Store} {intentId : IntentId} {actorUserId : UserId}
    {dto : PayPaymentIntentDto} {now : Time} {intent : PaymentIntent}
    {idempotencyKey : String}
    (passed : payIntentGate intentId actorUserId dto now store =
      .ok (.charge intent idempotencyKey)) :
    store.intents.find? intent.id = some intent ∧ intent.status.isPaid = false := by
  simp only [payIntentGate, gate_bind_eq_ok, orThrow_eq_ok, guardThat_eq_ok] at passed
  obtain ⟨found, foundIntent, _, _, decided⟩ := passed
  by_cases paid : found.status = .paidPartial ∨ found.status = .succeeded
  · rw [if_pos paid] at decided
    simp at decided
  · rw [if_neg paid, gate_bind_eq_ok] at decided
    obtain ⟨_, _, decided⟩ := decided
    have charged : found = intent := by
      split_ifs at decided <;> simp at decided <;> exact decided.1
    subst charged
    refine ⟨?_, ?_⟩
    · exact store.intents.find?_key foundIntent
    · simpa [PaymentIntentStatus.isPaid] using paid

theorem recordCharge_apply {store : Store} (foreignKeys : store.ForeignKeys)
    {intent : PaymentIntent} (foundIntent : store.intents.find? intent.id = some intent)
    (idempotencyKey : String) (answer : GatewayResult) (now : Time) :
    recordCharge intent idempotencyKey answer now store =
      if store.admitsTransaction idempotencyKey intent.provider
          (some answer.providerReference) then
        ⟨.ok (settledRow (attemptReport store.toBooks intent idempotencyKey answer now).transaction
            answer.status answer.rawPayload answer.reason now
            (attemptReport store.toBooks intent idempotencyKey answer now).transaction),
          { store with
            toBooks := bookkeeping.run store.toBooks
              [.attemptCharge intent idempotencyKey answer now,
                .applyReport (attemptReport store.toBooks intent idempotencyKey answer now)] },
          []⟩
      else
        ⟨.error (.database "P2002"), store, []⟩ := by
  unfold recordCharge
  by_cases admitted : store.admitsTransaction idempotencyKey intent.provider
      (some answer.providerReference) = true
  · rw [if_pos admitted]
    refine (Action.bind_of_ok (createTransaction_of_admitted admitted)).trans ?_
    have recorded : Movement.apply store.toBooks
        (.attemptCharge intent idempotencyKey answer now) =
        { store.toBooks with
          transactions := store.transactions.insert
            (chargeRow intent idempotencyKey answer now) } :=
      Movement.apply_of_silent _ _ rfl
    have applied := @applyGatewayStatus_of_stored
      { store with
        transactions := store.transactions.insert
          (chargeRow intent idempotencyKey answer now) }
      (attemptReport store.toBooks intent idempotencyKey answer now)
      (store.transactions.find?_insert_nextId _ fun _ => rfl)
      (by
        intro intentId linked
        obtain rfl : intent.id = intentId := Option.some.inj linked
        exact Option.isSome_iff_exists.mpr ⟨intent, foundIntent⟩)
      foreignKeys.intent_job
    rw [Outcome.after_nil, Machine.run_cons, Machine.run_cons, Machine.run_nil]
    simp only [bookkeeping, recorded]
    exact applied
  · rw [if_neg admitted]
    exact Action.bind_of_error (createTransaction_of_refused admitted)

theorem payIntent_books {store : Store} (foreignKeys : store.ForeignKeys)
    (intentId : IntentId) (actorUserId : UserId) (dto : PayPaymentIntentDto)
    (answer : GatewayResult) (now : Time) :
    (payIntent intentId actorUserId dto answer now store).state.toBooks =
      bookkeeping.run store.toBooks
        (chargeMovements store intentId actorUserId dto answer now) := by
  unfold payIntent chargeMovements
  rw [Action.consult_bind_apply]
  rcases gate : payIntentGate intentId actorUserId dto now store with error | decision
  · rfl
  · cases decision with
    | alreadyPaid intent =>
        rfl
    | replay intent =>
        rfl
    | charge intent idempotencyKey =>
        obtain ⟨foundIntent, _⟩ := payIntentGate_charge gate
        simp only [Action.call_bind_apply, Outcome.after_state]
        rw [Action.state_bind_of_reads fun _ _ => rfl]
        have recorded := recordCharge_apply foreignKeys foundIntent idempotencyKey answer now
        split_ifs at recorded ⊢ with admitted
        · rw [Action.transaction_of_ok recorded]
        · rw [Action.transaction_of_error recorded]
          rfl

theorem createIntent_books (store : Store) (policy : PaymentPolicy) (actorUserId : UserId)
    (dto : CreatePaymentIntentDto) (now : Time) :
    (createIntent policy actorUserId dto now store).state.toBooks =
      bookkeeping.run store.toBooks (intentMovements store policy actorUserId dto now) := by
  unfold createIntent intentMovements
  rw [Action.consult_bind_apply]
  rcases createIntentGate actorUserId dto store with error | decision
  · rfl
  · cases decision with
    | existing intent =>
        rfl
    | create job chargeAmount providerUserId =>
        have silent := Movement.apply_of_silent store.toBooks
          (.openIntent (policy.computeSplit chargeAmount) actorUserId dto now job
            providerUserId) rfl
        exact silent.symm

/-! ## Jobs -/

theorem updateStatus_books (store : Store) (jobId : JobId) (requesterId : UserId)
    (dto : UpdateJobStatusDto) (now : Time) :
    (updateStatus jobId requesterId dto now store).state.toBooks =
      bookkeeping.run store.toBooks
        ((Operation.updateStatus jobId requesterId dto now).movements store) := by
  unfold updateStatus
  simp only [Operation.movements]
  rw [Action.consult_bind_apply]
  rcases updateStatusGate jobId requesterId dto store with error | job
  · rfl
  · have silent := Movement.apply_of_silent store.toBooks
      (.moveJob job requesterId dto now) rfl
    simp only [bookkeeping, Machine.run_cons, Machine.run_nil, silent]
    by_cases canceled : dto.status = .canceled
    · simp only [canceled, if_true, Movement.intents]
      rfl
    · simp only [canceled, if_false, Movement.intents]
      rfl

theorem admitsJob_eq_false {store : Store} {requestId : RequestId} {job : Job}
    (existing : store.jobOfRequest? requestId = some job) (proposalId : ProposalId) :
    store.admitsJob requestId proposalId = false := by
  obtain ⟨member, accepted⟩ := store.jobs.mem_of_findFirst? existing
  rw [Books.admitsJob, Option.isNone_eq_false_iff, Option.isSome_iff_ne_none]
  intro nothing
  refine store.jobs.findFirst?_eq_none_iff.mp nothing job member ?_
  simp only [decide_eq_true_eq] at accepted
  simp [accepted]

theorem recordSelection_books (store : Store) (policy : PaymentPolicy)
    (request : ServiceRequest) (terms : SelectionTerms) (actorUserId : UserId)
    (now : Time) :
    (Action.transaction (recordSelection policy request terms actorUserId now)
        store).state.toBooks =
      bookkeeping.run store.toBooks
        (if store.admitsJob request.id terms.proposal.id = true then
          [.selectProposal policy request terms actorUserId]
        else
          []) := by
  unfold Action.transaction recordSelection
  rcases existing : store.jobOfRequest? request.id with _ | job
  · by_cases admitted : store.admitsJob request.id terms.proposal.id = true
    · simp only [Action.inspect_bind_apply, existing, Action.alter_bind_apply,
        Action.require_bind_apply, admitted, if_true]
      exact (Movement.apply_of_silent store.toBooks
        (.selectProposal policy request terms actorUserId) rfl).symm
    · simp only [Action.inspect_bind_apply, existing, Action.alter_bind_apply,
        Action.require_bind_apply, admitted]
      rfl
  · simp only [Action.inspect_bind_apply, existing, Action.alter_bind_apply,
      admitsJob_eq_false existing]
    rfl

theorem decideSelection_books (store : Store) (policy : PaymentPolicy)
    (request : ServiceRequest) (currentStatus : ServiceRequestStatus)
    (proposalId : ProposalId) (actorUserId : UserId)
    (depositPercent : Option DepositPercent) (now : Time) :
    ((Action.consult
          (selectionGate policy request currentStatus proposalId depositPercent) >>=
        fun terms => Action.transaction
          (recordSelection policy request terms actorUserId now)) store).state.toBooks =
      bookkeeping.run store.toBooks
        (match selectionGate policy request currentStatus proposalId depositPercent store with
        | .error _ => []
        | .ok terms =>
            if store.admitsJob request.id terms.proposal.id = true then
              [.selectProposal policy request terms actorUserId]
            else
              []) := by
  rw [Action.consult_bind_apply]
  rcases selectionGate policy request currentStatus proposalId depositPercent store
    with error | terms
  · rfl
  · exact recordSelection_books store policy request terms actorUserId now

theorem selectProposal_books (store : Store) (policy : PaymentPolicy)
    (requestId : RequestId) (proposalId : ProposalId) (actorUserId : UserId)
    (depositPercent : Option DepositPercent) (now : Time) :
    (selectProposal policy requestId proposalId actorUserId depositPercent now
        store).state.toBooks =
      bookkeeping.run store.toBooks
        (selectionMovements store policy requestId proposalId actorUserId depositPercent
          now) := by
  unfold selectProposal selectionMovements
  rw [Action.consult_bind_apply]
  rcases ownedRequestGate requestId actorUserId store with error | request
  · rfl
  · simp only [Action.inspect_bind_apply]
    by_cases expired : isRequestPastExpiry request now = true
    · have refreshed : refreshRequestStatusIfExpired request now store =
          ⟨.ok .expired, (expireRequest request.id now store).state, []⟩ := by
        unfold refreshRequestStatusIfExpired
        rw [if_pos expired]
        rfl
      rw [Action.bind_of_ok refreshed, Outcome.after_nil, Action.require_bind_apply]
      have unselected : request.selectedProposalId = none := by
        simp only [isRequestPastExpiry, Bool.and_eq_true, Option.isNone_iff_eq_none]
          at expired
        exact expired.1.2
      simp only [unselected, expired]
      rfl
    · have refreshed : refreshRequestStatusIfExpired request now store =
          ⟨.ok request.status, store, []⟩ := by
        unfold refreshRequestStatusIfExpired
        rw [if_neg expired]
        rfl
      rw [Action.bind_of_ok refreshed, Outcome.after_nil, Action.require_bind_apply,
        if_neg expired]
      by_cases selectable : request.selectedProposalId = none ∨
          request.selectedProposalId = some proposalId
      · simp only [selectable, if_true, true_and]
        have decided := decideSelection_books store policy request request.status
          proposalId actorUserId depositPercent now
        rcases existing : store.jobOfRequest? request.id with _ | job
        · cases request.selectedProposalId <;> exact decided
        · cases request.selectedProposalId with
          | none =>
              exact decided
          | some selected =>
              simp only [admitsJob_eq_false existing]
              split <;> rfl
      · simp only [selectable, if_false, false_and]
        split <;> rfl

/-! ## Refunds -/

theorem ensureRefundDisputeCase_reads (input : RefundDisputeInput) (now : Time)
    (store : Store) :
    ∃ incident middle, ensureRefundDisputeCase input now store = ⟨.ok incident, middle, []⟩ ∧
      middle.toBooks = store.toBooks := by
  unfold ensureRefundDisputeCase
  rw [Action.inspect_bind_apply]
  generalize store.incidents.findFirst? _ = existing
  cases existing <;> exact ⟨_, _, rfl, rfl⟩

theorem syncRefundCaseDecision_reads (input : RefundDecisionInput) (now : Time)
    (store : Store) :
    ∃ middle, syncRefundCaseDecision input now store = ⟨.ok (), middle, []⟩ ∧
      middle.toBooks = store.toBooks := by
  unfold syncRefundCaseDecision
  rw [Action.inspect_bind_apply]
  generalize store.incidents.findFirst? _ = found
  cases found <;> exact ⟨_, rfl, rfl⟩

theorem createJobRefundRequest_books (store : Store) (jobId : JobId)
    (actor : IntentActorInput) (dto : CreateJobRefundRequestDto) (now : Time) :
    (createJobRefundRequest jobId actor dto now store).state.toBooks =
      bookkeeping.run store.toBooks
        ((Operation.createJobRefundRequest jobId actor dto now).movements store) := by
  unfold createJobRefundRequest
  simp only [Operation.movements]
  rw [Action.consult_bind_apply]
  rcases createJobRefundGate jobId actor dto store with error | terms
  · rfl
  · obtain ⟨incident, middle, opened, same⟩ := ensureRefundDisputeCase_reads
      { refundRequestId := (pendingRefund terms.intent actor.userId terms.amount dto.reason
          dto.evidenceItems store.refunds.nextId).id
        jobId := terms.access.job.id
        createdByUserId := actor.userId
        actorName := resolveParticipantActorName terms.access actor.userId
        amount := terms.amount
        currency := terms.intent.currency
        reason := Library.Ecma.trim dto.reason
        evidenceItems := normalizeEvidenceItems dto.evidenceItems } now
      { store with
        refunds := store.refunds.insert (pendingRefund terms.intent actor.userId
          terms.amount dto.reason dto.evidenceItems) }
    unfold Action.transaction
    simp only [Action.inspect_bind_apply, Action.alter_bind_apply]
    rw [Action.bind_of_ok opened]
    refine same.trans ?_
    exact (Movement.apply_of_silent store.toBooks
      (.openRefund terms.intent actor.userId terms.amount dto.reason dto.evidenceItems)
      rfl).symm

theorem pendingRefundGate_eq_ok {refundRequestId : RefundId} {refusal : String}
    {store : Store} {refund : RefundRequest} :
    pendingRefundGate refundRequestId refusal store = .ok refund ↔
      store.refunds.find? refundRequestId = some refund ∧ refund.status = .pending := by
  simp only [pendingRefundGate, gate_bind_eq_ok, orThrow_eq_ok, guardThat_eq_ok,
    gate_pure_eq_ok]
  constructor
  · rintro ⟨found, lookup, _, pending, rfl⟩
    exact ⟨lookup, pending⟩
  · rintro ⟨lookup, pending⟩
    exact ⟨refund, lookup, (), pending, rfl⟩

theorem cancelRefundGate_ok {refundRequestId : RefundId} {actor : IntentActorInput}
    {store : Store} {terms : CancelRefundTerms}
    (passed : cancelRefundGate refundRequestId actor store = .ok terms) :
    store.refunds.find? terms.refund.id = some terms.refund ∧
      terms.refund.status = .pending := by
  simp only [cancelRefundGate, gate_bind_eq_ok, orThrow_eq_ok, guardThat_eq_ok,
    gate_pure_eq_ok] at passed
  obtain ⟨refund, lookup, _, _, _, _, _, _, _, pending, rfl⟩ := passed
  exact ⟨store.refunds.find?_key lookup, pending⟩

theorem decideRefund_books {store : Store} {refundRequestId : RefundId}
    {refund : RefundRequest} (found : store.refunds.find? refundRequestId = some refund)
    (change : RefundRequest → RefundRequest)
    (keeps : ∀ refund, Keyed.key (change refund) = Keyed.key refund)
    (decision : RefundDecisionInput) (now : Time) :
    (decideRefund refundRequestId change keeps decision now store).state.toBooks =
      { store.toBooks with refunds := store.refunds.update refundRequestId change keeps } := by
  obtain ⟨middle, recorded, same⟩ := syncRefundCaseDecision_reads decision now
    { store with refunds := store.refunds.update refundRequestId change keeps }
  have stillThere : middle.refunds.find? refundRequestId = some (change refund) := by
    rw [same, Table.find?_update, if_pos rfl, found]
    rfl
  unfold decideRefund Action.transaction
  simp only [Action.alter_bind_apply]
  rw [Action.bind_of_ok recorded]
  simp only [Outcome.after_nil, Action.consult, stillThere, orThrow]
  exact same

theorem cancelRefundRequest_books (store : Store) (refundRequestId : RefundId)
    (actor : IntentActorInput) (now : Time) :
    (cancelRefundRequest refundRequestId actor now store).state.toBooks =
      bookkeeping.run store.toBooks
        ((Operation.cancelRefundRequest refundRequestId actor now).movements store) := by
  unfold cancelRefundRequest
  simp only [Operation.movements]
  rw [Action.consult_bind_apply]
  rcases gate : cancelRefundGate refundRequestId actor store with error | terms
  · rfl
  · obtain ⟨found, _⟩ := cancelRefundGate_ok gate
    refine (decideRefund_books found _ _ _ _).trans ?_
    exact (Movement.apply_of_silent store.toBooks (.cancelRefund terms.refund now) rfl).symm

theorem adminRejectRefund_books (store : Store) (actorUserId : UserId)
    (refundRequestId : RefundId) (dto : RejectRefundRequestDto) (now : Time) :
    (adminRejectRefund actorUserId refundRequestId dto now store).state.toBooks =
      bookkeeping.run store.toBooks
        ((Operation.adminRejectRefund actorUserId refundRequestId dto now).movements
          store) := by
  unfold adminRejectRefund
  simp only [Operation.movements]
  rw [Action.consult_bind_apply]
  rcases gate : pendingRefundGate refundRequestId
    "Only pending refund requests can be rejected" store with error | refund
  · rfl
  · obtain ⟨found, _⟩ := pendingRefundGate_eq_ok.mp gate
    dsimp only
    rw [Action.state_bind_of_reads]
    · refine (decideRefund_books (store.refunds.find?_key found) _ _ _ _).trans ?_
      exact (Movement.apply_of_silent store.toBooks
        (.rejectRefund refund actorUserId dto now) rfl).symm
    · intro updated middle
      rw [Action.state_bind_of_reads fun _ _ => rfl]
      rfl

theorem appendRefundLedgerEntries_apply (store : Store) (order : RefundOrder)
    (transactionId : TransactionId) (actorUserId : UserId) :
    appendRefundLedgerEntries order.intent transactionId order.refund.amount
        (refundShares order.intent order.refund.amount) actorUserId store =
      if order.Covered store.ledger then
        ⟨.ok (),
          { store with
            ledger := store.ledger ++
              refundEntries order.intent transactionId order.refund.amount
                (refundShares order.intent order.refund.amount)
                (refundableBalances store.ledger order.intent.id) actorUserId },
          []⟩
      else if (refundShares order.intent order.refund.amount).platformPart ≤
          (refundableBalances store.ledger order.intent.id).platformReserved then
        ⟨.error (.conflict "Insufficient provider balance for refund"), store, []⟩
      else
        ⟨.error (.conflict
          "Insufficient platform reserved balance for refund settlement"), store, []⟩ := by
  unfold appendRefundLedgerEntries
  simp only [Action.inspect_bind_apply, Action.require_bind_apply]
  by_cases reserved : (refundShares order.intent order.refund.amount).platformPart ≤
      (refundableBalances store.ledger order.intent.id).platformReserved
  · by_cases provided : (refundShares order.intent order.refund.amount).providerPart ≤
        (refundableBalances store.ledger order.intent.id).providerHeld +
          (refundableBalances store.ledger order.intent.id).providerAvailable
    · simp [RefundOrder.Covered, reserved, provided, appendEntries]
    · simp [RefundOrder.Covered, reserved, provided]
  · simp [RefundOrder.Covered, reserved]

/-- The request a refund sends to the gateway. -/
def RefundRequest.gatewayCall (refund : RefundRequest) : GatewayCall :=
  .requestRefund (getAdapter refund.provider) (refundIdempotencyKey refund.id)
    refund.amount refund.currency

section SettleRefund

variable {order : RefundOrder} {answer : GatewayResult}
  (actorUserId : UserId) (decisionNote : Option String) (now : Time)

theorem recordRefund_of_settles {store : Store}
    (present : (store.refunds.find? order.refund.id).isSome)
    (settles : order.Settles store.toBooks answer) :
    ∃ reply middle,
      recordRefund order order.refund actorUserId decisionNote answer now store =
        ⟨.ok reply, middle, []⟩ ∧
      middle.toBooks =
        { store.toBooks with
          transactions := store.transactions.insert (refundRow order.refund answer now)
          refunds := store.refunds.update order.refund.id
            (settledRefund (refundRow order.refund answer now store.transactions.nextId)
              answer.status)
          ledger := store.ledger ++ Movement.entries store.toBooks
            (.settleRefund order actorUserId decisionNote answer now) } := by
  obtain ⟨refund, found⟩ := Option.isSome_iff_exists.mp present
  unfold recordRefund
  rw [Action.bind_of_ok (createTransaction_of_admitted settles.1), Outcome.after_nil,
    Action.alter_bind_apply]
  generalize RefundDecisionInput.mk _ _ _ _ _ _ _ = decision
  obtain ⟨synced, decided, same⟩ := syncRefundCaseDecision_reads decision now
    { store with
      transactions := store.transactions.insert (refundRow order.refund answer now)
      refunds := store.refunds.update order.refund.id
        (settledRefund (refundRow order.refund answer now store.transactions.nextId)
          answer.status) }
  rw [Action.bind_of_ok decided, Outcome.after_nil]
  have stillThere : (synced.refunds.find? order.refund.id) =
      some (settledRefund (refundRow order.refund answer now store.transactions.nextId)
        answer.status refund) := by
    rw [same, Table.find?_update, if_pos rfl, found]
    rfl
  by_cases succeeded : answer.status = .succeeded
  · have covered : order.Covered synced.ledger := by
      rw [same]
      exact settles.2 succeeded
    have posted := appendRefundLedgerEntries_apply synced order store.transactions.nextId
      actorUserId
    rw [if_pos covered] at posted
    have booked : (refundRow order.refund answer now store.transactions.nextId).status =
        .succeeded := by
      simp [refundRow, succeeded]
    rw [if_pos booked]
    refine ⟨settledRefund (refundRow order.refund answer now store.transactions.nextId)
        answer.status refund,
      { synced with
        ledger := synced.ledger ++ refundEntries order.intent store.transactions.nextId
          order.refund.amount (refundShares order.intent order.refund.amount)
          (refundableBalances synced.ledger order.intent.id) actorUserId },
      (Action.bind_of_ok posted).trans ?_, ?_⟩
    · simp [Action.consult, stillThere]
    · simp [same, Movement.entries, succeeded]
  · have unbooked : (refundRow order.refund answer now store.transactions.nextId).status ≠
        .succeeded := by
      simpa [refundRow] using succeeded
    rw [if_neg unbooked]
    refine ⟨settledRefund (refundRow order.refund answer now store.transactions.nextId)
      answer.status refund, synced, ?_, ?_⟩
    · simp [Action.consult, stillThere]
    · simp [same, Movement.entries, succeeded]

theorem recordRefund_of_not_settles {store : Store}
    (unsettled : ¬ order.Settles store.toBooks answer) :
    ∃ error middle,
      recordRefund order order.refund actorUserId decisionNote answer now store =
        ⟨.error error, middle, []⟩ := by
  unfold recordRefund
  by_cases admitted : store.admitsTransaction (refundIdempotencyKey order.refund.id)
      order.refund.provider (some answer.providerReference) = true
  · rw [Action.bind_of_ok (createTransaction_of_admitted admitted), Outcome.after_nil,
      Action.alter_bind_apply]
    generalize RefundDecisionInput.mk _ _ _ _ _ _ _ = decision
    obtain ⟨synced, decided, same⟩ := syncRefundCaseDecision_reads decision now
      { store with
        transactions := store.transactions.insert (refundRow order.refund answer now)
        refunds := store.refunds.update order.refund.id
          (settledRefund (refundRow order.refund answer now store.transactions.nextId)
            answer.status) }
    rw [Action.bind_of_ok decided, Outcome.after_nil]
    obtain ⟨succeeded, uncovered⟩ :
        answer.status = .succeeded ∧ ¬ order.Covered store.ledger := by
      simpa [RefundOrder.Settles, admitted] using unsettled
    have booked : (refundRow order.refund answer now store.transactions.nextId).status =
        .succeeded := by
      simp [refundRow, succeeded]
    have stillUncovered : ¬ order.Covered synced.ledger := by
      rw [same]
      exact uncovered
    have thrown := appendRefundLedgerEntries_apply synced order store.transactions.nextId
      actorUserId
    rw [if_neg stillUncovered] at thrown
    rw [if_pos booked]
    split_ifs at thrown
    · exact ⟨_, synced, Action.bind_of_error thrown⟩
    · exact ⟨_, synced, Action.bind_of_error thrown⟩
  · exact ⟨_, store, Action.bind_of_error (createTransaction_of_refused admitted)⟩

/-- Approving the request does not change whether the answer can be settled. -/
theorem settleRefund_eq {store : Store}
    (stored : store.refunds.find? order.refund.id = some order.refund)
    (pending : order.refund.status = .pending) :
    settleRefund order actorUserId decisionNote answer now store =
      (recordRefund order order.refund actorUserId decisionNote answer now
        { store with
          refunds := store.refunds.update order.refund.id
            (approvedRefund order.refund actorUserId decisionNote) }).after
        [order.refund.gatewayCall] := by
  have gate : pendingRefundGate order.refund.id
      "Only pending refund requests can be approved" store = .ok order.refund :=
    pendingRefundGate_eq_ok.mpr ⟨stored, pending⟩
  unfold settleRefund
  simp only [Action.consult_bind_apply, gate, Action.alter_bind_apply,
    Action.call_bind_apply]
  rfl

theorem transaction_settleRefund {store : Store}
    (stored : store.refunds.find? order.refund.id = some order.refund)
    (pending : order.refund.status = .pending) :
    if order.Settles store.toBooks answer then
      ∃ reply middle,
        Action.transaction (settleRefund order actorUserId decisionNote answer now) store =
          ⟨.ok reply, middle, [order.refund.gatewayCall]⟩ ∧
        middle.toBooks = Movement.apply store.toBooks
          (.settleRefund order actorUserId decisionNote answer now)
    else
      ∃ error,
        Action.transaction (settleRefund order actorUserId decisionNote answer now) store =
          ⟨.error error, store, [order.refund.gatewayCall]⟩ := by
  have opened := @settleRefund_eq order answer actorUserId decisionNote now store stored
    pending
  split_ifs with settles
  · obtain ⟨reply, middle, recorded, written⟩ := @recordRefund_of_settles order answer
      actorUserId decisionNote now
      { store with
        refunds := store.refunds.update order.refund.id
          (approvedRefund order.refund actorUserId decisionNote) }
      (by simp [Table.find?_update, stored]) settles
    rw [recorded] at opened
    exact ⟨reply, middle, Action.transaction_of_ok opened, written⟩
  · obtain ⟨error, middle, thrown⟩ := @recordRefund_of_not_settles order answer
      actorUserId decisionNote now
      { store with
        refunds := store.refunds.update order.refund.id
          (approvedRefund order.refund actorUserId decisionNote) } settles
    rw [thrown] at opened
    exact ⟨error, Action.transaction_of_error opened⟩

end SettleRefund

theorem getRemainingRefundableAmount_ok {books : Books} {intentId : IntentId}
    {remaining : Int} (computed : getRemainingRefundableAmount intentId books = .ok remaining) :
    ∃ intent, books.intents.find? intentId = some intent ∧
      remaining = max 0 (intent.amount - books.refundSum intentId [.succeeded]) := by
  simp only [getRemainingRefundableAmount, gate_bind_eq_ok, orThrow_eq_ok,
    gate_pure_eq_ok] at computed
  obtain ⟨intent, found, rfl⟩ := computed
  exact ⟨intent, found, rfl⟩

theorem processRefundGate_ok {refundRequestId : RefundId} {store : Store}
    {order : RefundOrder} (passed : processRefundGate refundRequestId store = .ok order) :
    order.refund.id = refundRequestId ∧
      store.refunds.find? order.refund.id = some order.refund ∧
      order.refund.status = .pending ∧
      store.intents.find? order.refund.paymentIntentId = some order.intent ∧
      order.refund.amount ≤
        max 0 (order.intent.amount - store.refundSum order.intent.id [.succeeded]) := by
  simp only [processRefundGate, gate_bind_eq_ok, orThrow_eq_ok, guardThat_eq_ok,
    gate_pure_eq_ok, pendingRefundGate_eq_ok] at passed
  obtain ⟨refund, ⟨lookup, pending⟩, intent, foundIntent, _, _, remaining, computed, _,
    bounded, rfl⟩ := passed
  obtain ⟨same, foundSame, rfl⟩ := getRemainingRefundableAmount_ok computed
  obtain rfl : intent = same := by
    have again := store.intents.find?_key foundIntent
    rw [key_intent, foundSame] at again
    exact (Option.some.inj again).symm
  exact ⟨store.refunds.key_of_find? lookup, store.refunds.find?_key lookup, pending,
    foundIntent, bounded⟩

theorem processRefundRequest_books (store : Store) (refundRequestId : RefundId)
    (actorUserId : UserId) (decisionNote : Option String) (answer : GatewayResult)
    (now : Time) :
    (processRefundRequest refundRequestId actorUserId decisionNote answer now
        store).state.toBooks =
      bookkeeping.run store.toBooks
        (refundMovements store refundRequestId actorUserId decisionNote answer now) := by
  unfold processRefundRequest refundMovements
  rw [Action.consult_bind_apply]
  rcases gate : processRefundGate refundRequestId store with error | order
  · rfl
  · obtain ⟨_, stored, pending, _⟩ := processRefundGate_ok gate
    have settled := @transaction_settleRefund order answer actorUserId decisionNote now store
      stored pending
    dsimp only
    split_ifs at settled ⊢ with settles
    · obtain ⟨reply, middle, outcome, written⟩ := settled
      rw [outcome]
      exact written
    · obtain ⟨error, outcome⟩ := settled
      rw [outcome]
      rfl

theorem adminApproveRefund_books (store : Store) (actorUserId : UserId)
    (refundRequestId : RefundId) (decisionNote : Option String) (answer : GatewayResult)
    (now : Time) :
    (adminApproveRefund actorUserId refundRequestId decisionNote answer now
        store).state.toBooks =
      bookkeeping.run store.toBooks
        ((Operation.adminApproveRefund actorUserId refundRequestId decisionNote answer
          now).movements store) := by
  unfold adminApproveRefund
  simp only [Operation.movements]
  rw [Action.consult_bind_apply]
  rcases gate : pendingRefundGate refundRequestId
    "Only pending refund requests can be approved" store with error | refund
  · simp [refundMovements, processRefundGate, gate, Bind.bind, Except.bind]
  · obtain ⟨found, _⟩ := pendingRefundGate_eq_ok.mp gate
    obtain rfl : refund.id = refundRequestId := store.refunds.key_of_find? found
    dsimp only
    rw [Action.state_bind_of_reads]
    · exact processRefundRequest_books ..
    · intro processed middle
      rw [Action.state_bind_of_reads fun _ _ => rfl]
      rfl

theorem adminCreateRefund_books (store : Store) (actorUserId : UserId)
    (dto : CreateRefundRequestDto) (answer : GatewayResult) (now : Time) :
    (adminCreateRefund actorUserId dto answer now store).state.toBooks =
      bookkeeping.run store.toBooks
        ((Operation.adminCreateRefund actorUserId dto answer now).movements store) := by
  unfold adminCreateRefund
  simp only [Operation.movements]
  rw [Action.consult_bind_apply]
  rcases gate : adminCreateRefundGate dto store with error | ⟨intent, amount⟩
  · rfl
  · simp only [Action.inspect_bind_apply, Action.alter_bind_apply]
    rw [Action.state_bind_of_reads, processRefundRequest_books, Machine.run_cons]
    · have silent := Movement.apply_of_silent store.toBooks
        (.openRefund intent actorUserId amount dto.reason dto.evidenceItems) rfl
      simp only [bookkeeping, silent]
      rfl
    · intro processed middle
      rw [Action.state_bind_of_reads fun _ _ => rfl]
      rfl

/-! ## Releases and payouts -/

theorem adminReleaseProviderFunds_books (store : Store) (policy : PaymentPolicy)
    (actorUserId : UserId) (jobId : JobId) (now : Time) :
    (adminReleaseProviderFunds policy actorUserId jobId now store).state.toBooks =
      bookkeeping.run store.toBooks
        ((Operation.adminReleaseProviderFunds policy actorUserId jobId now).movements
          store) := by
  unfold adminReleaseProviderFunds
  simp only [Operation.movements]
  rw [Action.consult_bind_apply]
  rcases releaseGate policy jobId now store with error | intent
  · rfl
  · unfold Action.transaction
    simp only [Action.inspect_bind_apply, Action.require_bind_apply]
    split_ifs <;> rfl

theorem payoutGate_eq_ok {payoutId : PayoutId} {status : PayoutStatus} {refusal : String}
    {store : Store} {payout : Payout} :
    payoutGate payoutId status refusal store = .ok payout ↔
      store.payouts.find? payoutId = some payout ∧ payout.status = status := by
  simp only [payoutGate, gate_bind_eq_ok, orThrow_eq_ok, guardThat_eq_ok, gate_pure_eq_ok]
  constructor
  · rintro ⟨found, lookup, _, sameStatus, rfl⟩
    exact ⟨lookup, sameStatus⟩
  · rintro ⟨lookup, sameStatus⟩
    exact ⟨payout, lookup, (), sameStatus, rfl⟩

theorem adminCreatePayout_books (store : Store) (actorUserId : UserId)
    (dto : CreatePayoutDto) :
    (adminCreatePayout actorUserId dto store).state.toBooks =
      bookkeeping.run store.toBooks
        ((Operation.adminCreatePayout actorUserId dto).movements store) := by
  unfold adminCreatePayout
  simp only [Operation.movements]
  rw [Action.consult_bind_apply]
  rcases createPayoutGate dto store with error | intent
  · rfl
  · simp only [Action.inspect_bind_apply, Action.require_bind_apply]
    split_ifs
    · exact (Movement.apply_of_silent store.toBooks
        (.openPayout intent actorUserId dto) rfl).symm
    · rfl

theorem adminApprovePayout_books (store : Store) (actorUserId : UserId)
    (payoutId : PayoutId) :
    (adminApprovePayout actorUserId payoutId store).state.toBooks =
      bookkeeping.run store.toBooks
        ((Operation.adminApprovePayout actorUserId payoutId).movements store) := by
  unfold adminApprovePayout
  simp only [Operation.movements]
  rw [Action.consult_bind_apply]
  rcases payoutGate payoutId .pending "Only pending payouts can be approved" store
    with error | payout
  · rfl
  · exact (Movement.apply_of_silent store.toBooks
      (.approvePayout payout actorUserId) rfl).symm

/-- The request a payout sends to the gateway. -/
def Payout.gatewayCall (payout : Payout) : GatewayCall :=
  .requestPayout (getAdapter payout.provider) (payoutIdempotencyKey payout.id)
    payout.amount payout.currency payout.providerUserId

section SettlePayout

variable {store : Store} {payout : Payout} {dto : ProcessPayoutDto}
  {answer : GatewayResult} (actorUserId : UserId) (now : Time)

theorem recordPayout_of_settles
    (stored : store.payouts.find? payout.id = some payout)
    (settles : payout.Settles store.toBooks dto answer) :
    ∃ reply middle,
      recordPayout payout actorUserId dto answer now store = ⟨.ok reply, middle, []⟩ ∧
      middle.toBooks = Movement.apply store.toBooks
        (.settlePayout payout actorUserId dto answer now) := by
  have stillThere : ∀ transaction, (store.payouts.update payout.id
      (settledPayout payout actorUserId transaction answer.status)).find? payout.id =
      some (settledPayout payout actorUserId transaction answer.status payout) := by
    intro transaction
    rw [Table.find?_update, if_pos rfl, stored]
    rfl
  unfold recordPayout
  rw [Action.bind_of_ok (createTransaction_of_admitted settles.1), Outcome.after_nil,
    Action.alter_bind_apply]
  by_cases succeeded : answer.status = .succeeded
  · rw [if_pos (nextPayoutStatus_eq_paid.mpr succeeded)]
    simp only [Action.inspect_bind_apply, Action.require_bind_apply,
      settles.2 succeeded, if_true, appendEntries, Action.alter_bind_apply,
      findPayoutOrThrow, Action.consult, stillThere, orThrow]
    refine ⟨_, _, rfl, ?_⟩
    have booked : Movement.entries store.toBooks
        (.settlePayout payout actorUserId dto answer now) =
        payoutEntries payout store.transactions.nextId actorUserId :=
      if_pos succeeded
    rw [Movement.apply, booked]
    rfl
  · rw [if_neg (nextPayoutStatus_eq_paid.not.mpr succeeded)]
    simp only [findPayoutOrThrow, Action.consult, stillThere, orThrow]
    refine ⟨_, _, rfl, ?_⟩
    exact (Movement.apply_of_silent store.toBooks
      (.settlePayout payout actorUserId dto answer now) (if_neg succeeded)).symm

theorem recordPayout_of_not_settles
    (unsettled : ¬ payout.Settles store.toBooks dto answer) :
    ∃ error middle,
      recordPayout payout actorUserId dto answer now store = ⟨.error error, middle, []⟩ := by
  unfold recordPayout
  by_cases admitted : store.admitsTransaction (payoutIdempotencyKey payout.id)
      payout.provider (some (payoutReference dto answer)) = true
  · obtain ⟨succeeded, uncovered⟩ : answer.status = .succeeded ∧
        ¬ payout.amount ≤ providerAvailable store.ledger payout.paymentIntentId := by
      simpa [Payout.Settles, admitted] using unsettled
    rw [Action.bind_of_ok (createTransaction_of_admitted admitted), Outcome.after_nil,
      Action.alter_bind_apply, if_pos (nextPayoutStatus_eq_paid.mpr succeeded)]
    simp only [Action.inspect_bind_apply, Action.require_bind_apply, uncovered, if_false]
    exact ⟨_, _, rfl⟩
  · exact ⟨_, _, Action.bind_of_error (createTransaction_of_refused admitted)⟩

theorem transaction_settlePayout
    (stored : store.payouts.find? payout.id = some payout)
    (approved : payout.status = .approved)
    (unused : store.transactionByKey? (payoutIdempotencyKey payout.id) = none) :
    if payout.Settles store.toBooks dto answer then
      ∃ reply middle,
        Action.transaction (settlePayout payout.id actorUserId dto answer now) store =
          ⟨.ok reply, middle, []⟩ ∧
        middle.toBooks = Movement.apply store.toBooks
          (.settlePayout payout actorUserId dto answer now)
    else
      ∃ error,
        Action.transaction (settlePayout payout.id actorUserId dto answer now) store =
          ⟨.error error, store, []⟩ := by
  have gate : payoutGate payout.id .approved "Only approved payouts can be processed" store =
      .ok payout :=
    payoutGate_eq_ok.mpr ⟨stored, approved⟩
  have opened : settlePayout payout.id actorUserId dto answer now store =
      recordPayout payout actorUserId dto answer now store := by
    unfold settlePayout
    simp only [Action.consult_bind_apply, gate, Action.inspect_bind_apply, unused]
    rfl
  split_ifs with settles
  · obtain ⟨reply, middle, recorded, written⟩ :=
      recordPayout_of_settles actorUserId now stored settles
    exact ⟨reply, middle, Action.transaction_of_ok (opened.trans recorded), written⟩
  · obtain ⟨error, middle, thrown⟩ := recordPayout_of_not_settles actorUserId now settles
    exact ⟨error, Action.transaction_of_error (opened.trans thrown)⟩

end SettlePayout

theorem adminProcessPayout_books (store : Store) (actorUserId : UserId)
    (payoutId : PayoutId) (dto : ProcessPayoutDto) (answer : GatewayResult) (now : Time) :
    (adminProcessPayout actorUserId payoutId dto answer now store).state.toBooks =
      bookkeeping.run store.toBooks
        (payoutMovements store actorUserId payoutId dto answer now) := by
  unfold adminProcessPayout payoutMovements
  rw [Action.consult_bind_apply]
  rcases gate : payoutGate payoutId .approved "Only approved payouts can be processed" store
    with error | payout
  · rfl
  · obtain ⟨found, approved⟩ := payoutGate_eq_ok.mp gate
    simp only [Action.inspect_bind_apply]
    by_cases used : (store.transactionByKey? (payoutIdempotencyKey payout.id)).isSome = true
    · have unsettled : ¬ payout.Settles store.toBooks dto answer := by
        intro settles
        rw [Books.transactionByKey?_of_admitted settles.1] at used
        simp at used
      rw [if_pos used, if_neg unsettled]
      rfl
    · have settled := @transaction_settlePayout store payout dto answer actorUserId now
        (store.payouts.find?_key found) approved
        (Option.not_isSome_iff_eq_none.mp used)
      rw [if_neg used]
      split_ifs at settled ⊢ with settles
      · obtain ⟨reply, middle, outcome, written⟩ := settled
        rw [Action.call_bind_apply, outcome]
        exact written
      · obtain ⟨error, outcome⟩ := settled
        rw [Action.call_bind_apply, outcome]
        rfl

/-! ## All operations -/

/-- What an operation leaves in the books is the run of its movements. -/
theorem perform_books {store : Store} (foreignKeys : store.ForeignKeys)
    (operation : Operation) :
    (operation.perform store).toBooks =
      bookkeeping.run store.toBooks (operation.movements store) := by
  cases operation with
  | environment market =>
      rfl
  | selectProposal policy requestId proposalId actorUserId depositPercent now =>
      exact selectProposal_books ..
  | updateStatus jobId requesterId dto now =>
      exact updateStatus_books ..
  | createIntent policy actorUserId dto now =>
      exact createIntent_books ..
  | payIntent intentId actorUserId dto answer now =>
      exact payIntent_books foreignKeys ..
  | handleWebhook environment provider dto headers now =>
      exact handleWebhook_books foreignKeys ..
  | reconcileTransaction transactionId answer now =>
      exact reconcileTransaction_books foreignKeys ..
  | createJobRefundRequest jobId actor dto now =>
      exact createJobRefundRequest_books ..
  | cancelRefundRequest refundRequestId actor now =>
      exact cancelRefundRequest_books ..
  | adminRejectRefund actorUserId refundRequestId dto now =>
      exact adminRejectRefund_books ..
  | adminApproveRefund actorUserId refundRequestId decisionNote answer now =>
      exact adminApproveRefund_books ..
  | adminCreateRefund actorUserId dto answer now =>
      exact adminCreateRefund_books ..
  | adminCreatePayout actorUserId dto =>
      exact adminCreatePayout_books ..
  | adminApprovePayout actorUserId payoutId =>
      exact adminApprovePayout_books ..
  | adminProcessPayout actorUserId payoutId dto answer now =>
      exact adminProcessPayout_books ..
  | adminReleaseProviderFunds policy actorUserId jobId now =>
      exact adminReleaseProviderFunds_books ..

end Tchuno.Payments
