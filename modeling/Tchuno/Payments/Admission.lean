import Tchuno.Payments.Refinement

/-!
# The movements an operation makes are admitted

Every movement of an operation satisfies, in the books it is made in, what
`Movement.Admitted` asks for.  With the refinement this turns a property of the
bookkeeping machine into a property of every run of the services.
-/

namespace Tchuno.Payments

open Tchuno.Library Tchuno.Library.Ecma

/-! ## What the gates check -/

theorem updateStatusGate_ok {jobId : JobId} {requesterId : UserId}
    {dto : UpdateJobStatusDto} {store : Store} {job : Job}
    (passed : updateStatusGate jobId requesterId dto store = .ok job) :
    store.jobs.find? job.id = some job := by
  simp only [updateStatusGate, gate_bind_eq_ok, orThrow_eq_ok] at passed
  obtain ⟨found, lookup, _, _, _, _, checked⟩ := passed
  have same : found = job := by
    split_ifs at checked <;>
      simp only [gate_bind_eq_ok, gate_pure_eq_ok] at checked <;> tauto
  subst same
  exact store.jobs.find?_key lookup

theorem selectionGate_ok {policy : PaymentPolicy} {request : ServiceRequest}
    {currentStatus : ServiceRequestStatus} {proposalId : ProposalId}
    {depositPercent : Option DepositPercent} {store : Store} {terms : SelectionTerms}
    (passed : selectionGate policy request currentStatus proposalId depositPercent store =
      .ok terms) :
    0 < terms.proposal.price ∧ terms.split.grossAmount ≤ columnMax := by
  simp only [selectionGate, gate_bind_eq_ok, gate_pure_eq_ok] at passed
  obtain ⟨_, _, proposal, _, _, _, _, _, _, _, split, computed, rfl⟩ := passed
  exact ⟨policy.deposit_price_pos _ _ _ computed,
    (policy.deposit_gross_le _ _ _ computed).trans proposal.price_le⟩

theorem resolveChargeAmount_le {job : Job} {chargeAmount : Int}
    (resolved : resolveChargeAmount job = .ok chargeAmount) : chargeAmount ≤ columnMax := by
  unfold resolveChargeAmount at resolved
  cases agreed : job.agreedPrice.filter (0 < ·) with
  | some price =>
      rw [agreed] at resolved
      obtain rfl := Except.ok.inj resolved
      exact job.agreedPrice_le price (Option.eq_some_of_filter_eq_some agreed)
  | none =>
      cases offered : job.budget.filter (0 < ·) with
      | some budget =>
          rw [agreed, offered] at resolved
          obtain rfl := Except.ok.inj resolved
          exact job.budget_le budget (Option.eq_some_of_filter_eq_some offered)
      | none =>
          rw [agreed, offered] at resolved
          cases resolved

theorem createIntentGate_create {actorUserId : UserId} {dto : CreatePaymentIntentDto}
    {store : Store} {job : Job} {chargeAmount : Int} {providerUserId : UserId}
    (passed : createIntentGate actorUserId dto store =
      .ok (.create job chargeAmount providerUserId)) :
    store.jobs.find? job.id = some job ∧ chargeAmount ≤ columnMax := by
  simp only [createIntentGate, gate_bind_eq_ok, orThrow_eq_ok] at passed
  obtain ⟨found, lookup, _, _, _, _, amount, resolved, decided⟩ := passed
  split at decided
  · simp at decided
  · simp only [gate_bind_eq_ok, gate_pure_eq_ok, CreateIntentGate.create.injEq] at decided
    obtain ⟨_, _, rfl, rfl, _⟩ := decided
    exact ⟨store.jobs.find?_key lookup, resolveChargeAmount_le resolved⟩

theorem resolveSuggestedRefundAmount_pos {job : Job} {remaining amount : Int}
    (suggested : resolveSuggestedRefundAmount job remaining = some amount) : 1 ≤ amount := by
  unfold resolveSuggestedRefundAmount at suggested
  split_ifs at suggested
  · obtain rfl := Option.some.inj suggested
    exact le_max_left _ _
  · obtain rfl := Option.some.inj suggested
    omega

theorem createJobRefundGate_ok {jobId : JobId} {actor : IntentActorInput}
    {dto : CreateJobRefundRequestDto} {store : Store} {terms : RefundTerms}
    (passed : createJobRefundGate jobId actor dto store = .ok terms) :
    store.intents.find? terms.intent.id = some terms.intent ∧ 1 ≤ terms.amount ∧
      terms.amount ≤ terms.intent.amount - store.refundSum terms.intent.id [.succeeded] := by
  simp only [createJobRefundGate, gate_bind_eq_ok, orThrow_eq_ok, guardThat_eq_ok,
    gate_pure_eq_ok] at passed
  obtain ⟨access, _, intent, latest, _, _, remaining, computed, _, positive, _, bounded,
    rfl⟩ := passed
  obtain ⟨member, _⟩ := store.intents.mem_of_findFirst? latest
  have lookup : store.intents.find? intent.id = some intent :=
    store.intents.find?_eq_some_iff.mpr ⟨member, rfl⟩
  obtain ⟨same, foundSame, rfl⟩ := getRemainingRefundableAmount_ok computed
  obtain rfl : intent = same := Option.some.inj (lookup.symm.trans foundSame)
  refine ⟨lookup, ?_, by dsimp only; omega⟩
  dsimp only
  cases dto.amount with
  | some requested =>
      exact requested.property.1
  | none =>
      cases suggested : resolveSuggestedRefundAmount access.job
          (max 0 (intent.amount - store.refundSum intent.id [.succeeded])) with
      | some amount =>
          exact resolveSuggestedRefundAmount_pos suggested
      | none =>
          simp only [Option.map_none, Option.or_none, Option.getD_none]
          omega

theorem adminCreateRefundGate_ok {dto : CreateRefundRequestDto} {store : Store}
    {intent : PaymentIntent} {amount : Int}
    (passed : adminCreateRefundGate dto store = .ok (intent, amount)) :
    store.intents.find? intent.id = some intent ∧ 1 ≤ amount ∧
      amount ≤ intent.amount - store.refundSum intent.id [.succeeded] := by
  simp only [adminCreateRefundGate, gate_bind_eq_ok, orThrow_eq_ok, guardThat_eq_ok,
    gate_pure_eq_ok, Prod.mk.injEq] at passed
  obtain ⟨found, lookup, _, _, remaining, computed, _, positive, _, bounded, rfl, rfl⟩ :=
    passed
  obtain ⟨same, foundSame, rfl⟩ := getRemainingRefundableAmount_ok computed
  have lookupSelf := store.intents.find?_key lookup
  obtain rfl : found = same := Option.some.inj (lookupSelf.symm.trans foundSame)
  refine ⟨lookupSelf, ?_, by omega⟩
  cases dto.amount with
  | some requested =>
      exact requested.property.1
  | none =>
      simp only [Option.map_none, Option.getD_none]
      omega

theorem createPayoutGate_ok {dto : CreatePayoutDto} {store : Store}
    {intent : PaymentIntent} (passed : createPayoutGate dto store = .ok intent) :
    store.intents.find? intent.id = some intent ∧
      dto.amount.val ≤ providerAvailable store.ledger (some intent.id) -
        store.reservedByPendingPayout intent.id := by
  simp only [createPayoutGate, gate_bind_eq_ok, orThrow_eq_ok, guardThat_eq_ok,
    gate_pure_eq_ok] at passed
  obtain ⟨_, _, found, lookup, _, _, _, bounded, rfl⟩ := passed
  exact ⟨store.intents.find?_key lookup, bounded⟩

theorem releaseGate_ok {policy : PaymentPolicy} {jobId : JobId} {now : Time}
    {store : Store} {intent : PaymentIntent}
    (passed : releaseGate policy jobId now store = .ok intent) :
    store.intents.find? intent.id = some intent := by
  simp only [releaseGate, gate_bind_eq_ok, orThrow_eq_ok, guardThat_eq_ok] at passed
  obtain ⟨_, _, _, _, _, _, latest⟩ := passed
  obtain ⟨member, _⟩ := store.intents.mem_of_findFirst? latest
  exact store.intents.find?_eq_some_iff.mpr ⟨member, rfl⟩

/-! ## Admission -/

theorem refundMovements_admitted (store : Store) (refundRequestId : RefundId)
    (actorUserId : UserId) (decisionNote : Option String) (answer : GatewayResult)
    (now : Time) :
    bookkeeping.Along Movement.Admitted store.toBooks
      (refundMovements store refundRequestId actorUserId decisionNote answer now) := by
  unfold refundMovements
  rcases gate : processRefundGate refundRequestId store with error | order
  · trivial
  · obtain ⟨_, stored, pending, foundIntent, _⟩ := processRefundGate_ok gate
    dsimp only
    split_ifs with settles
    · exact ⟨⟨stored, pending, foundIntent, settles⟩, trivial⟩
    · trivial

theorem movements_admitted (store : Store) (operation : Operation) :
    bookkeeping.Along Movement.Admitted store.toBooks (operation.movements store) := by
  cases operation with
  | environment market =>
      trivial
  | selectProposal policy requestId proposalId actorUserId depositPercent now =>
      simp only [Operation.movements, selectionMovements]
      split
      · trivial
      · split
        · trivial
        · rename_i gate
          split_ifs with selectable
          · exact ⟨⟨selectable.2, selectionGate_ok gate⟩, trivial⟩
          · trivial
  | updateStatus jobId requesterId dto now =>
      simp only [Operation.movements]
      rcases gate : updateStatusGate jobId requesterId dto store with error | job
      · trivial
      · exact ⟨updateStatusGate_ok gate, trivial⟩
  | createIntent policy actorUserId dto now =>
      simp only [Operation.movements, intentMovements]
      split
      · rename_i gate
        obtain ⟨stored, small⟩ := createIntentGate_create gate
        refine ⟨⟨stored, ?_⟩, trivial⟩
        exact (policy.split_gross_le _).trans (max_le (by decide) small)
      · trivial
  | payIntent intentId actorUserId dto answer now =>
      simp only [Operation.movements, chargeMovements]
      split
      · rename_i intent idempotencyKey gate
        split_ifs with admitted
        · exact ⟨⟨(payIntentGate_charge gate).1, admitted⟩,
            store.transactions.find?_insert_nextId _ fun _ => rfl, trivial⟩
        · trivial
      · trivial
  | handleWebhook environment provider dto headers now =>
      simp only [Operation.movements, webhookReport?]
      split
      · split_ifs
        · split
          · rename_i target _
            exact ⟨webhookTransaction?_stored target, trivial⟩
          · trivial
        · trivial
      · trivial
  | reconcileTransaction transactionId answer now =>
      simp only [Operation.movements, reconciliationReport?]
      cases found : store.transactions.find? transactionId with
      | none =>
          trivial
      | some transaction =>
          exact ⟨store.transactions.find?_key found, trivial⟩
  | createJobRefundRequest jobId actor dto now =>
      simp only [Operation.movements]
      rcases gate : createJobRefundGate jobId actor dto store with error | terms
      · trivial
      · exact ⟨createJobRefundGate_ok gate, trivial⟩
  | cancelRefundRequest refundRequestId actor now =>
      simp only [Operation.movements]
      rcases gate : cancelRefundGate refundRequestId actor store with error | terms
      · trivial
      · exact ⟨cancelRefundGate_ok gate, trivial⟩
  | adminRejectRefund actorUserId refundRequestId dto now =>
      simp only [Operation.movements]
      rcases gate : pendingRefundGate refundRequestId
        "Only pending refund requests can be rejected" store with error | refund
      · trivial
      · obtain ⟨found, pending⟩ := pendingRefundGate_eq_ok.mp gate
        exact ⟨⟨store.refunds.find?_key found, pending⟩, trivial⟩
  | adminApproveRefund actorUserId refundRequestId decisionNote answer now =>
      exact refundMovements_admitted ..
  | adminCreateRefund actorUserId dto answer now =>
      simp only [Operation.movements]
      rcases gate : adminCreateRefundGate dto store with error | ⟨intent, amount⟩
      · trivial
      · refine ⟨adminCreateRefundGate_ok gate, ?_⟩
        have opened : bookkeeping.step store.toBooks
            (.openRefund intent actorUserId amount dto.reason dto.evidenceItems) =
            { store.toBooks with
              refunds := store.refunds.insert
                (pendingRefund intent actorUserId amount dto.reason dto.evidenceItems) } :=
          Movement.apply_of_silent _ _ rfl
        rw [opened]
        exact refundMovements_admitted
          { store with
            refunds := store.refunds.insert
              (pendingRefund intent actorUserId amount dto.reason dto.evidenceItems) }
          store.refunds.nextId actorUserId none answer now
  | adminCreatePayout actorUserId dto =>
      simp only [Operation.movements]
      rcases gate : createPayoutGate dto store with error | intent
      · trivial
      · dsimp only
        split_ifs
        · exact ⟨createPayoutGate_ok gate, trivial⟩
        · trivial
  | adminApprovePayout actorUserId payoutId =>
      simp only [Operation.movements]
      rcases gate : payoutGate payoutId .pending "Only pending payouts can be approved" store
        with error | payout
      · trivial
      · obtain ⟨found, pending⟩ := payoutGate_eq_ok.mp gate
        exact ⟨⟨store.payouts.find?_key found, pending⟩, trivial⟩
  | adminProcessPayout actorUserId payoutId dto answer now =>
      simp only [Operation.movements, payoutMovements]
      rcases gate : payoutGate payoutId .approved
        "Only approved payouts can be processed" store with error | payout
      · trivial
      · obtain ⟨found, approved⟩ := payoutGate_eq_ok.mp gate
        dsimp only
        split_ifs with settles
        · exact ⟨⟨store.payouts.find?_key found, approved, settles⟩, trivial⟩
        · trivial
  | adminReleaseProviderFunds policy actorUserId jobId now =>
      simp only [Operation.movements]
      rcases gate : releaseGate policy jobId now store with error | intent
      · trivial
      · dsimp only
        split_ifs with held
        · exact ⟨⟨releaseGate_ok gate, held⟩, trivial⟩
        · trivial

end Tchuno.Payments
