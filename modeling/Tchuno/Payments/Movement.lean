import Tchuno.Payments.Operation

/-!
# Movements of the books

Whatever an operation checks, reads or calls, what it leaves in the books is a
short list of movements, and each movement rewrites the six tables in one way.
`Operation.movements` reads the list off the store before the operation, and
`Movement.apply` says table by table what a movement writes, so that an
invariant of one table is checked against the movements which touch that table.
-/

namespace Tchuno.Payments

open Tchuno.Library

/-! ## Reports -/

/-- A gateway status on its way to a transaction, as `applyGatewayStatus`
receives it. -/
structure Report where
  transaction : PaymentTransaction
  status : GatewayOperationStatus
  rawPayload : Option Json
  reason : Option String
  now : Time

/-- The report `payIntent` makes on the attempt it has just recorded. -/
def attemptReport (books : Books) (intent : PaymentIntent) (idempotencyKey : String)
    (answer : GatewayResult) (now : Time) : Report where
  transaction := chargeRow intent idempotencyKey answer now books.transactions.nextId
  status := answer.status
  rawPayload := answer.rawPayload
  reason := answer.reason
  now := now

/-- The intent of the transaction. -/
def Report.intent? (report : Report) (books : Books) : Option PaymentIntent :=
  report.transaction.paymentIntentId.bind books.intents.find?

/-- The charge is booked: a success for a transaction without a charge entry. -/
def Report.posts (report : Report) (books : Books) : Prop :=
  report.status = .succeeded ∧
    hasCustomerCharge books.ledger report.transaction.id = false

instance (report : Report) (books : Books) : Decidable (report.posts books) :=
  inferInstanceAs (Decidable (_ ∧ _))

/-! ## Settlements -/

/-- The balances of the intent cover both shares of the refund. -/
def RefundOrder.Covered (order : RefundOrder) (ledger : List LedgerEntry) : Prop :=
  let shares := refundShares order.intent order.refund.amount
  let balances := refundableBalances ledger order.intent.id
  shares.platformPart ≤ balances.platformReserved ∧
    shares.providerPart ≤ balances.providerHeld + balances.providerAvailable

instance (order : RefundOrder) (ledger : List LedgerEntry) :
    Decidable (order.Covered ledger) :=
  inferInstanceAs (Decidable (_ ∧ _))

/-- The gateway's answer to a refund can be recorded and, if it is a success,
booked. -/
def RefundOrder.Settles (order : RefundOrder) (books : Books) (answer : GatewayResult) :
    Prop :=
  books.admitsTransaction (refundIdempotencyKey order.refund.id) order.refund.provider
      (some answer.providerReference) = true ∧
    (answer.status = .succeeded → order.Covered books.ledger)

instance (order : RefundOrder) (books : Books) (answer : GatewayResult) :
    Decidable (order.Settles books answer) :=
  inferInstanceAs (Decidable (_ ∧ (_ → _)))

/-- The gateway's answer to a payout can be recorded and, if it is a success,
booked. -/
def Payout.Settles (payout : Payout) (books : Books) (dto : ProcessPayoutDto)
    (answer : GatewayResult) : Prop :=
  books.admitsTransaction (payoutIdempotencyKey payout.id) payout.provider
      (some (payoutReference dto answer)) = true ∧
    (answer.status = .succeeded →
      payout.amount ≤ providerAvailable books.ledger payout.paymentIntentId)

instance (payout : Payout) (books : Books) (dto : ProcessPayoutDto)
    (answer : GatewayResult) : Decidable (payout.Settles books dto answer) :=
  inferInstanceAs (Decidable (_ ∧ (_ → _)))

/-! ## Movements -/

/-- One kind of write for each constructor, with the data it is made of. -/
inductive Movement where
  | selectProposal (policy : PaymentPolicy) (request : ServiceRequest)
      (terms : SelectionTerms) (actorUserId : UserId)
  | moveJob (job : Job) (requesterId : UserId) (dto : UpdateJobStatusDto) (now : Time)
  | openIntent (split : FeeSplit) (actorUserId : UserId) (dto : CreatePaymentIntentDto)
      (now : Time) (job : Job) (providerUserId : UserId)
  | attemptCharge (intent : PaymentIntent) (idempotencyKey : String)
      (answer : GatewayResult) (now : Time)
  | applyReport (report : Report)
  | openRefund (intent : PaymentIntent) (requestedByUserId : UserId) (amount : Int)
      (reason : String) (evidenceItems : List String)
  | cancelRefund (refund : RefundRequest) (now : Time)
  | rejectRefund (refund : RefundRequest) (actorUserId : UserId)
      (dto : RejectRefundRequestDto) (now : Time)
  | settleRefund (order : RefundOrder) (actorUserId : UserId)
      (decisionNote : Option String) (answer : GatewayResult) (now : Time)
  | openPayout (intent : PaymentIntent) (actorUserId : UserId) (dto : CreatePayoutDto)
  | approvePayout (payout : Payout) (actorUserId : UserId)
  | settlePayout (payout : Payout) (actorUserId : UserId) (dto : ProcessPayoutDto)
      (answer : GatewayResult) (now : Time)
  | releaseFunds (intent : PaymentIntent) (actorUserId : UserId)

namespace Movement

def jobs (books : Books) : Movement → Table Job
  | selectProposal _ request terms actorUserId =>
      books.jobs.insert (selectedJob request terms actorUserId)
        (selectedJob_key request terms actorUserId)
  | moveJob job requesterId dto now =>
      books.jobs.update job.id (movedJob dto requesterId now) (movedJob_key dto requesterId now)
  | applyReport report =>
      match report.intent? books with
      | some intent =>
          if report.status = .succeeded then
            books.jobs.update intent.jobId (unlockedJob report.now)
          else
            books.jobs
      | none => books.jobs
  | _ => books.jobs

def intents (books : Books) : Movement → Table PaymentIntent
  | selectProposal policy request terms actorUserId =>
      books.intents.insert
        (depositIntent policy request terms actorUserId books.jobs.nextId)
  | moveJob job _ dto _ =>
      if dto.status = .canceled then
        books.intents.updateMany (isCancelable job.id) canceledIntent canceledIntent_key
      else
        books.intents
  | openIntent split actorUserId dto now job providerUserId =>
      books.intents.insert (requestedIntent split actorUserId dto now job providerUserId)
  | applyReport report =>
      match report.intent? books with
      | some intent =>
          books.intents.update intent.id fun row =>
            { row with status := mapGatewayToIntentStatus report.status intent.metadata }
      | none => books.intents
  | _ => books.intents

def transactions (books : Books) : Movement → Table PaymentTransaction
  | attemptCharge intent idempotencyKey answer now =>
      books.transactions.insert (chargeRow intent idempotencyKey answer now)
  | applyReport report =>
      books.transactions.update report.transaction.id
        (settledRow report.transaction report.status report.rawPayload report.reason
          report.now)
  | settleRefund order _ _ answer now =>
      books.transactions.insert (refundRow order.refund answer now)
  | settlePayout payout _ dto answer now =>
      books.transactions.insert (payoutRow payout dto answer now)
  | _ => books.transactions

/-- The entries a movement appends to the ledger. -/
def entries (books : Books) : Movement → List LedgerEntry
  | applyReport report =>
      match report.intent? books with
      | some intent =>
          if report.posts books then chargeEntries intent report.transaction.id else []
      | none => []
  | settleRefund order actorUserId _ answer _ =>
      if answer.status = .succeeded then
        refundEntries order.intent books.transactions.nextId order.refund.amount
          (refundShares order.intent order.refund.amount)
          (refundableBalances books.ledger order.intent.id) actorUserId
      else
        []
  | settlePayout payout actorUserId _ answer _ =>
      if answer.status = .succeeded then
        payoutEntries payout books.transactions.nextId actorUserId
      else
        []
  | releaseFunds intent actorUserId =>
      releaseEntries intent
        (computeBucketNet books.ledger .providerHeld (ofIntent .provider (some intent.id)))
        actorUserId
  | _ => []

def refunds (books : Books) : Movement → Table RefundRequest
  | openRefund intent requestedByUserId amount reason evidenceItems =>
      books.refunds.insert
        (pendingRefund intent requestedByUserId amount reason evidenceItems)
  | cancelRefund refund now => books.refunds.update refund.id (canceledRefund now)
  | rejectRefund refund actorUserId dto now =>
      books.refunds.update refund.id (rejectedRefund actorUserId dto now)
  | settleRefund order actorUserId decisionNote answer now =>
      (books.refunds.update order.refund.id
        (approvedRefund order.refund actorUserId decisionNote)).update order.refund.id
          (settledRefund (refundRow order.refund answer now books.transactions.nextId)
            answer.status)
  | _ => books.refunds

def payouts (books : Books) : Movement → Table Payout
  | openPayout intent actorUserId dto =>
      books.payouts.insert (pendingPayout intent actorUserId dto)
  | approvePayout payout actorUserId =>
      books.payouts.update payout.id (approvedPayout actorUserId)
        (approvedPayout_key actorUserId)
  | settlePayout payout actorUserId dto answer now =>
      books.payouts.update payout.id
        (settledPayout payout actorUserId
          (payoutRow payout dto answer now books.transactions.nextId) answer.status)
  | _ => books.payouts

/-- The books after a movement. -/
def apply (books : Books) (movement : Movement) : Books where
  jobs := movement.jobs books
  intents := movement.intents books
  transactions := movement.transactions books
  ledger := books.ledger ++ movement.entries books
  refunds := movement.refunds books
  payouts := movement.payouts books

theorem apply_of_silent (books : Books) (movement : Movement)
    (silent : movement.entries books = []) :
    apply books movement =
      ⟨movement.jobs books, movement.intents books, movement.transactions books,
        books.ledger, movement.refunds books, movement.payouts books⟩ := by
  rw [apply, silent, List.append_nil]

/-- What the operations have checked before they make the movement. -/
def Admitted (books : Books) : Movement → Prop
  | selectProposal _ request terms _ =>
      books.admitsJob request.id terms.proposal.id = true ∧ 0 < terms.proposal.price ∧
        terms.split.grossAmount ≤ columnMax
  | moveJob job .. => books.jobs.find? job.id = some job
  | openIntent split _ _ _ job _ =>
      books.jobs.find? job.id = some job ∧ split.grossAmount ≤ columnMax
  | attemptCharge intent idempotencyKey answer _ =>
      books.intents.find? intent.id = some intent ∧
        books.admitsTransaction idempotencyKey intent.provider
          (some answer.providerReference) = true
  | applyReport report =>
      books.transactions.find? report.transaction.id = some report.transaction
  | openRefund intent _ amount _ _ =>
      books.intents.find? intent.id = some intent ∧ 1 ≤ amount ∧
        amount ≤ intent.amount - books.refundSum intent.id [.succeeded]
  | cancelRefund refund _ =>
      books.refunds.find? refund.id = some refund ∧ refund.status = .pending
  | rejectRefund refund .. =>
      books.refunds.find? refund.id = some refund ∧ refund.status = .pending
  | settleRefund order _ _ answer _ =>
      books.refunds.find? order.refund.id = some order.refund ∧
        order.refund.status = .pending ∧
        books.intents.find? order.refund.paymentIntentId = some order.intent ∧
        order.Settles books answer
  | openPayout intent _ dto =>
      books.intents.find? intent.id = some intent ∧
        dto.amount.val ≤ providerAvailable books.ledger (some intent.id) -
          books.reservedByPendingPayout intent.id
  | approvePayout payout _ =>
      books.payouts.find? payout.id = some payout ∧ payout.status = .pending
  | settlePayout payout _ dto answer _ =>
      books.payouts.find? payout.id = some payout ∧ payout.status = .approved ∧
        payout.Settles books dto answer
  | releaseFunds intent _ =>
      books.intents.find? intent.id = some intent ∧
        0 < computeBucketNet books.ledger .providerHeld
          (ofIntent .provider (some intent.id))

end Movement

/-- The books as a machine over movements. -/
def bookkeeping : Machine Books Movement where
  step := Movement.apply

/-! ## The movements of an operation -/

section Movements

variable (store : Store)

def selectionMovements (policy : PaymentPolicy) (requestId : RequestId)
    (proposalId : ProposalId) (actorUserId : UserId)
    (depositPercent : Option DepositPercent) (now : Time) : List Movement :=
  match ownedRequestGate requestId actorUserId store with
  | .error _ => []
  | .ok request =>
      let currentStatus :=
        if isRequestPastExpiry request now then .expired else request.status
      match selectionGate policy request currentStatus proposalId depositPercent store with
      | .error _ => []
      | .ok terms =>
          if (request.selectedProposalId = none ∨
              request.selectedProposalId = some proposalId) ∧
              store.admitsJob request.id terms.proposal.id = true then
            [.selectProposal policy request terms actorUserId]
          else
            []

def intentMovements (policy : PaymentPolicy) (actorUserId : UserId)
    (dto : CreatePaymentIntentDto) (now : Time) : List Movement :=
  match createIntentGate actorUserId dto store with
  | .ok (.create job chargeAmount providerUserId) =>
      [.openIntent (policy.computeSplit chargeAmount) actorUserId dto now job providerUserId]
  | _ => []

def chargeMovements (intentId : IntentId) (actorUserId : UserId)
    (dto : PayPaymentIntentDto) (answer : GatewayResult) (now : Time) : List Movement :=
  match payIntentGate intentId actorUserId dto now store with
  | .ok (.charge intent idempotencyKey) =>
      if store.admitsTransaction idempotencyKey intent.provider
          (some answer.providerReference) then
        [.attemptCharge intent idempotencyKey answer now,
          .applyReport (attemptReport store.toBooks intent idempotencyKey answer now)]
      else
        []
  | _ => []

/-- The report a webhook delivery hands to `applyGatewayStatus`. -/
def webhookReport? (environment : WebhookEnvironment) (provider : PaymentProvider)
    (dto : PaymentWebhookDto) (headers : WebhookHeaders) (now : Time) : Option Report :=
  match webhookGate environment provider dto headers now store with
  | .ok (.accepted _) =>
      if store.admitsEvent provider (dto.externalEventId.map Library.Ecma.trim) then
        match store.webhookTransaction? provider dto, Library.Ecma.truthy dto.status with
        | some transaction, some status =>
            some ⟨transaction, parseGatewayStatus status, dto.payload, none, now⟩
        | _, _ => none
      else
        none
  | _ => none

/-- The report a reconciliation hands to `applyGatewayStatus`. -/
def reconciliationReport? (transactionId : TransactionId) (answer : GatewayResult)
    (now : Time) : Option Report :=
  (store.transactions.find? transactionId).map fun transaction =>
    ⟨transaction, answer.status, answer.rawPayload, answer.reason, now⟩

def refundMovements (refundRequestId : RefundId) (actorUserId : UserId)
    (decisionNote : Option String) (answer : GatewayResult) (now : Time) : List Movement :=
  match processRefundGate refundRequestId store with
  | .error _ => []
  | .ok order =>
      if order.Settles store.toBooks answer then
        [.settleRefund order actorUserId decisionNote answer now]
      else
        []

def payoutMovements (actorUserId : UserId) (payoutId : PayoutId) (dto : ProcessPayoutDto)
    (answer : GatewayResult) (now : Time) : List Movement :=
  match payoutGate payoutId .approved "Only approved payouts can be processed" store with
  | .error _ => []
  | .ok payout =>
      if payout.Settles store.toBooks dto answer then
        [.settlePayout payout actorUserId dto answer now]
      else
        []

/-- The movements an operation makes, read off the store before it. -/
def Operation.movements : Operation → List Movement
  | .environment _ => []
  | .selectProposal policy requestId proposalId actorUserId depositPercent now =>
      selectionMovements store policy requestId proposalId actorUserId depositPercent now
  | .updateStatus jobId requesterId dto now =>
      match updateStatusGate jobId requesterId dto store with
      | .ok job => [.moveJob job requesterId dto now]
      | .error _ => []
  | .createIntent policy actorUserId dto now =>
      intentMovements store policy actorUserId dto now
  | .payIntent intentId actorUserId dto answer now =>
      chargeMovements store intentId actorUserId dto answer now
  | .handleWebhook webhookEnvironment provider dto headers now =>
      ((webhookReport? store webhookEnvironment provider dto headers now).map
        .applyReport).toList
  | .reconcileTransaction transactionId answer now =>
      ((reconciliationReport? store transactionId answer now).map .applyReport).toList
  | .createJobRefundRequest jobId actor dto _ =>
      match createJobRefundGate jobId actor dto store with
      | .ok terms =>
          [.openRefund terms.intent actor.userId terms.amount dto.reason dto.evidenceItems]
      | .error _ => []
  | .cancelRefundRequest refundRequestId actor now =>
      match cancelRefundGate refundRequestId actor store with
      | .ok terms => [.cancelRefund terms.refund now]
      | .error _ => []
  | .adminRejectRefund actorUserId refundRequestId dto now =>
      match pendingRefundGate refundRequestId
          "Only pending refund requests can be rejected" store with
      | .ok refund => [.rejectRefund refund actorUserId dto now]
      | .error _ => []
  | .adminApproveRefund actorUserId refundRequestId decisionNote answer now =>
      refundMovements store refundRequestId actorUserId
        (Library.Ecma.truthy (decisionNote.map Library.Ecma.trim)) answer now
  | .adminCreateRefund actorUserId dto answer now =>
      match adminCreateRefundGate dto store with
      | .ok (intent, amount) =>
          let make := pendingRefund intent actorUserId amount dto.reason dto.evidenceItems
          .openRefund intent actorUserId amount dto.reason dto.evidenceItems ::
            refundMovements
              { store with
                refunds :=
                  store.refunds.insert make (pendingRefund_key intent actorUserId amount dto) }
              store.refunds.nextId actorUserId none answer now
      | .error _ => []
  | .adminCreatePayout actorUserId dto =>
      match createPayoutGate dto store with
      | .ok intent =>
          if ((pendingPayout intent actorUserId dto store.payouts.nextId).jobId.bind
              store.jobs.find?).isSome then
            [.openPayout intent actorUserId dto]
          else
            []
      | .error _ => []
  | .adminApprovePayout actorUserId payoutId =>
      match payoutGate payoutId .pending "Only pending payouts can be approved" store with
      | .ok payout => [.approvePayout payout actorUserId]
      | .error _ => []
  | .adminProcessPayout actorUserId payoutId dto answer now =>
      payoutMovements store actorUserId payoutId dto answer now
  | .adminReleaseProviderFunds policy actorUserId jobId now =>
      match releaseGate policy jobId now store with
      | .ok intent =>
          if 0 < computeBucketNet store.ledger .providerHeld
              (ofIntent .provider (some intent.id)) then
            [.releaseFunds intent actorUserId]
          else
            []
      | .error _ => []

/-- A movement of an operation, with the check it has passed. -/
inductive Operation.Makes : Operation → Movement → Prop where
  | selectProposal {policy : PaymentPolicy} {requestId : RequestId} {proposalId : ProposalId}
      {actorUserId : UserId} {depositPercent : Option DepositPercent} {now : Time}
      {request : ServiceRequest} {currentStatus : ServiceRequestStatus} {terms : SelectionTerms}
      (gate : selectionGate policy request currentStatus proposalId depositPercent store =
        .ok terms) :
      Makes (.selectProposal policy requestId proposalId actorUserId depositPercent now)
        (.selectProposal policy request terms actorUserId)
  | moveJob {jobId : JobId} {requesterId : UserId} {dto : UpdateJobStatusDto} {now : Time}
      {job : Job} (gate : updateStatusGate jobId requesterId dto store = .ok job) :
      Makes (.updateStatus jobId requesterId dto now) (.moveJob job requesterId dto now)
  | openIntent {policy : PaymentPolicy} {actorUserId : UserId} {dto : CreatePaymentIntentDto}
      {now : Time} {job : Job} {chargeAmount : Int} {providerUserId : UserId}
      (gate : createIntentGate actorUserId dto store =
        .ok (.create job chargeAmount providerUserId)) :
      Makes (.createIntent policy actorUserId dto now)
        (.openIntent (policy.computeSplit chargeAmount) actorUserId dto now job providerUserId)
  | attemptCharge {intentId : IntentId} {actorUserId : UserId} {dto : PayPaymentIntentDto}
      {answer : GatewayResult} {now : Time} {intent : PaymentIntent} {idempotencyKey : String}
      (gate : payIntentGate intentId actorUserId dto now store =
        .ok (.charge intent idempotencyKey)) :
      Makes (.payIntent intentId actorUserId dto answer now)
        (.attemptCharge intent idempotencyKey answer now)
  | reportCharge {intentId : IntentId} {actorUserId : UserId} {dto : PayPaymentIntentDto}
      {answer : GatewayResult} {now : Time} {intent : PaymentIntent} {idempotencyKey : String}
      (gate : payIntentGate intentId actorUserId dto now store =
        .ok (.charge intent idempotencyKey)) :
      Makes (.payIntent intentId actorUserId dto answer now)
        (.applyReport (attemptReport store.toBooks intent idempotencyKey answer now))
  | reportWebhook {environment : WebhookEnvironment} {provider : PaymentProvider}
      {dto : PaymentWebhookDto} {headers : WebhookHeaders} {now : Time} {report : Report}
      (delivered : webhookReport? store environment provider dto headers now = some report) :
      Makes (.handleWebhook environment provider dto headers now) (.applyReport report)
  | reportReconciliation {transactionId : TransactionId} {answer : GatewayResult}
      {now : Time} {report : Report}
      (queried : reconciliationReport? store transactionId answer now = some report) :
      Makes (.reconcileTransaction transactionId answer now) (.applyReport report)
  | openJobRefund {jobId : JobId} {actor : IntentActorInput} {dto : CreateJobRefundRequestDto}
      {now : Time} {terms : RefundTerms}
      (gate : createJobRefundGate jobId actor dto store = .ok terms) :
      Makes (.createJobRefundRequest jobId actor dto now)
        (.openRefund terms.intent actor.userId terms.amount dto.reason dto.evidenceItems)
  | cancelRefund {refundRequestId : RefundId} {actor : IntentActorInput} {now : Time}
      {terms : CancelRefundTerms} (gate : cancelRefundGate refundRequestId actor store =
        .ok terms) :
      Makes (.cancelRefundRequest refundRequestId actor now) (.cancelRefund terms.refund now)
  | rejectRefund {actorUserId : UserId} {refundRequestId : RefundId}
      {dto : RejectRefundRequestDto} {now : Time} {refund : RefundRequest}
      (gate : pendingRefundGate refundRequestId
        "Only pending refund requests can be rejected" store = .ok refund) :
      Makes (.adminRejectRefund actorUserId refundRequestId dto now)
        (.rejectRefund refund actorUserId dto now)
  | settleRefund {actorUserId : UserId} {refundRequestId : RefundId}
      {decisionNote note : Option String} {answer : GatewayResult} {now : Time}
      {order : RefundOrder} (gate : processRefundGate refundRequestId store = .ok order) :
      Makes (.adminApproveRefund actorUserId refundRequestId decisionNote answer now)
        (.settleRefund order actorUserId note answer now)
  | openAdminRefund {actorUserId : UserId} {dto : CreateRefundRequestDto}
      {answer : GatewayResult} {now : Time} {intent : PaymentIntent} {amount : Int}
      (gate : adminCreateRefundGate dto store = .ok (intent, amount)) :
      Makes (.adminCreateRefund actorUserId dto answer now)
        (.openRefund intent actorUserId amount dto.reason dto.evidenceItems)
  | settleAdminRefund {actorUserId : UserId} {dto : CreateRefundRequestDto}
      {answer : GatewayResult} {now : Time} {order : RefundOrder} :
      Makes (.adminCreateRefund actorUserId dto answer now)
        (.settleRefund order actorUserId none answer now)
  | openPayout {actorUserId : UserId} {dto : CreatePayoutDto} {intent : PaymentIntent}
      (gate : createPayoutGate dto store = .ok intent) :
      Makes (.adminCreatePayout actorUserId dto) (.openPayout intent actorUserId dto)
  | approvePayout {actorUserId : UserId} {payoutId : PayoutId} {payout : Payout}
      (gate : payoutGate payoutId .pending "Only pending payouts can be approved" store =
        .ok payout) :
      Makes (.adminApprovePayout actorUserId payoutId) (.approvePayout payout actorUserId)
  | settlePayout {actorUserId : UserId} {payoutId : PayoutId} {dto : ProcessPayoutDto}
      {answer : GatewayResult} {now : Time} {payout : Payout}
      (gate : payoutGate payoutId .approved "Only approved payouts can be processed" store =
        .ok payout) :
      Makes (.adminProcessPayout actorUserId payoutId dto answer now)
        (.settlePayout payout actorUserId dto answer now)
  | releaseFunds {policy : PaymentPolicy} {actorUserId : UserId} {jobId : JobId} {now : Time}
      {intent : PaymentIntent} (gate : releaseGate policy jobId now store = .ok intent) :
      Makes (.adminReleaseProviderFunds policy actorUserId jobId now)
        (.releaseFunds intent actorUserId)

variable {store}

theorem mem_refundMovements {refundRequestId : RefundId} {actorUserId : UserId}
    {decisionNote : Option String} {answer : GatewayResult} {now : Time}
    {movement : Movement}
    (member : movement ∈ refundMovements store refundRequestId actorUserId decisionNote
      answer now) :
    ∃ order, processRefundGate refundRequestId store = .ok order ∧
      movement = .settleRefund order actorUserId decisionNote answer now := by
  unfold refundMovements at member
  cases gate : processRefundGate refundRequestId store with
  | error error =>
      rw [gate] at member
      cases member
  | ok order =>
      rw [gate] at member
      dsimp only at member
      split_ifs at member
      · exact ⟨order, rfl, List.mem_singleton.mp member⟩
      · cases member

/-- Where the movements of an operation come from. -/
theorem makes_of_mem {operation : Operation} {movement : Movement}
    (member : movement ∈ operation.movements store) : operation.Makes store movement := by
  cases operation with
  | environment market =>
      cases member
  | selectProposal policy requestId proposalId actorUserId depositPercent now =>
      simp only [Operation.movements, selectionMovements] at member
      split at member
      · cases member
      · split at member
        · cases member
        · rename_i gate
          split_ifs at member
          · obtain rfl := List.mem_singleton.mp member
            exact .selectProposal gate
          · cases member
  | updateStatus jobId requesterId dto now =>
      simp only [Operation.movements] at member
      split at member
      · rename_i gate
        obtain rfl := List.mem_singleton.mp member
        exact .moveJob gate
      · cases member
  | createIntent policy actorUserId dto now =>
      simp only [Operation.movements, intentMovements] at member
      split at member
      · rename_i gate
        obtain rfl := List.mem_singleton.mp member
        exact .openIntent gate
      · cases member
  | payIntent intentId actorUserId dto answer now =>
      simp only [Operation.movements, chargeMovements] at member
      split at member
      · rename_i gate
        split_ifs at member
        · rcases List.mem_cons.mp member with rfl | reported
          · exact .attemptCharge gate
          · obtain rfl := List.mem_singleton.mp reported
            exact .reportCharge gate
        · cases member
      · cases member
  | handleWebhook environment provider dto headers now =>
      simp only [Operation.movements, Option.mem_toList, Option.map_eq_some_iff] at member
      obtain ⟨report, delivered, rfl⟩ := member
      exact .reportWebhook delivered
  | reconcileTransaction transactionId answer now =>
      simp only [Operation.movements, Option.mem_toList, Option.map_eq_some_iff] at member
      obtain ⟨report, queried, rfl⟩ := member
      exact .reportReconciliation queried
  | createJobRefundRequest jobId actor dto now =>
      simp only [Operation.movements] at member
      split at member
      · rename_i gate
        obtain rfl := List.mem_singleton.mp member
        exact .openJobRefund gate
      · cases member
  | cancelRefundRequest refundRequestId actor now =>
      simp only [Operation.movements] at member
      split at member
      · rename_i gate
        obtain rfl := List.mem_singleton.mp member
        exact .cancelRefund gate
      · cases member
  | adminRejectRefund actorUserId refundRequestId dto now =>
      simp only [Operation.movements] at member
      split at member
      · rename_i gate
        obtain rfl := List.mem_singleton.mp member
        exact .rejectRefund gate
      · cases member
  | adminApproveRefund actorUserId refundRequestId decisionNote answer now =>
      obtain ⟨order, gate, rfl⟩ := mem_refundMovements member
      exact .settleRefund gate
  | adminCreateRefund actorUserId dto answer now =>
      simp only [Operation.movements] at member
      split at member
      · rename_i gate
        rcases List.mem_cons.mp member with rfl | settled
        · exact .openAdminRefund gate
        · obtain ⟨order, _, rfl⟩ := mem_refundMovements settled
          exact .settleAdminRefund
      · cases member
  | adminCreatePayout actorUserId dto =>
      simp only [Operation.movements] at member
      split at member
      · rename_i gate
        split_ifs at member
        · obtain rfl := List.mem_singleton.mp member
          exact .openPayout gate
        · cases member
      · cases member
  | adminApprovePayout actorUserId payoutId =>
      simp only [Operation.movements] at member
      split at member
      · rename_i gate
        obtain rfl := List.mem_singleton.mp member
        exact .approvePayout gate
      · cases member
  | adminProcessPayout actorUserId payoutId dto answer now =>
      simp only [Operation.movements, payoutMovements] at member
      split at member
      · cases member
      · rename_i gate
        split_ifs at member
        · obtain rfl := List.mem_singleton.mp member
          exact .settlePayout gate
        · cases member
  | adminReleaseProviderFunds policy actorUserId jobId now =>
      simp only [Operation.movements] at member
      split at member
      · rename_i gate
        split_ifs at member
        · obtain rfl := List.mem_singleton.mp member
          exact .releaseFunds gate
        · cases member
      · cases member

end Movements

end Tchuno.Payments
