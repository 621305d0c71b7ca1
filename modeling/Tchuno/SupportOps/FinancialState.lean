import Tchuno.SupportOps.Incidents

/-!
# What a job shows of its payments, refunds and cases

`getJobFinancialState` and what it builds its answer from.  `paymentState` is
`none` for `NOT_REQUIRED`; event identifiers and creation times are not stored
in this model.
-/

namespace Tchuno.SupportOps

open Tchuno.Library Tchuno.Library.Ecma Tchuno.Payments

/-! ## Support cases -/

structure TimelineEvent where
  eventType : OperationalIncidentEventType
  visibility : OperationalIncidentEventVisibility
  title : String
  description : String
  actorName : Option String
  deriving DecidableEq

structure SupportCaseDto where
  id : Nat
  source : OperationalIncidentSource
  severity : OperationalIncidentSeverity
  status : OperationalIncidentStatus
  baseSlaHours : Int
  slaTargetAt : Time
  isOverdue : Bool
  detectedAt : Time
  assumedAt : Option Time
  resolvedAt : Option Time
  customerImpact : Option String
  ownerAssigned : Bool
  ownerAdminUser : Option User
  resolutionNote : Option String
  timeline : List TimelineEvent

/-- The events of one case which the reader may see, in order. -/
def caseTimeline (incidentEvents : List OperationalIncidentEvent) (incidentId : Nat)
    (includeInternal : Bool) : List TimelineEvent :=
  (incidentEvents.filter fun event => event.incidentId = incidentId &&
      (includeInternal || event.visibility = .participants)).map fun event =>
    ⟨event.eventType, event.visibility, event.title, event.description, event.actorName⟩

def mapRefundSupportCase (store : Store) (includeInternal : Bool) (now : Time)
    (supportCase : OperationalIncident) : SupportCaseDto where
  id := supportCase.id
  source := supportCase.source
  severity := supportCase.severity
  status := supportCase.status
  baseSlaHours := supportCase.baseSlaHours
  slaTargetAt := supportCase.slaTargetAt
  isOverdue := !supportCase.status.isClosed && supportCase.slaTargetAt < now
  detectedAt := supportCase.detectedAt
  assumedAt := supportCase.assumedAt
  resolvedAt := supportCase.resolvedAt
  customerImpact := supportCase.customerImpact
  ownerAssigned := supportCase.ownerAdminUserId.isSome
  ownerAdminUser :=
    if includeInternal then
      supportCase.ownerAdminUserId.bind store.market.users.find?
    else
      none
  resolutionNote := if includeInternal then supportCase.resolutionNote else none
  timeline := caseTimeline store.incidentEvents supportCase.id includeInternal

/-- The newest open case of the request, or the newest of all. -/
def pickRefundSupportCase (refundRequestId : RefundId) (store : Store) :
    Option OperationalIncident :=
  (store.incidents.findFirst? fun incident =>
      incident.relatedRefundRequestId = some refundRequestId &&
        !incident.status.isClosed).or
    (newestCase refundRequestId store)

/-! ## Refunds -/

structure UserName where
  id : UserId
  name : Option String

structure SerializedRefund where
  refund : RefundRequest
  requestedByUser : Option UserName
  approvedByUser : Option UserName
  supportCase : Option SupportCaseDto

def userName (market : Marketplace) (userId : UserId) : Option UserName :=
  (market.users.find? userId).map fun user => ⟨user.id, user.name⟩

def serializeRefundRequest (store : Store) (includeInternalCaseDetails : Bool) (now : Time)
    (refund : RefundRequest) : SerializedRefund where
  refund := refund
  requestedByUser := userName store.market refund.requestedByUserId
  approvedByUser := refund.approvedByUserId.bind (userName store.market)
  supportCase := (pickRefundSupportCase refund.id store).map
    (mapRefundSupportCase store includeInternalCaseDetails now)

inductive RefundStage where
  | beforePayment | preStart | inProgress | postCompletion
  deriving DecidableEq

def resolveRefundStage (job : Job) (latestPaidIntent : Option PaymentIntent) : RefundStage :=
  match latestPaidIntent with
  | none => .beforePayment
  | some _ =>
      if job.status = .completed then
        .postCompletion
      else if job.startedAt.isSome ∨ job.status = .inProgress then
        .inProgress
      else
        .preStart

def RefundStage.label : RefundStage → String
  | .beforePayment => "Antes do pagamento"
  | .preStart => "Antes do início"
  | .inProgress => "Durante a execução"
  | .postCompletion => "Após conclusão"

def suggestedRefundLabel (stage : RefundStage) (suggestedRefundAmount : Option Int) : String :=
  if suggestedRefundAmount.isNone then
    if stage = .postCompletion then
      "O caso segue para análise como disputa."
    else
      "Ainda não existe valor sugerido para reembolso."
  else if stage = .preStart then
    "Estimativa base: refund integral do sinal."
  else
    "Estimativa base: refund parcial sujeito a decisão da equipa."

structure RefundSummary where
  stage : RefundStage
  stageLabel : String
  hasPaidDeposit : Bool
  paidAmount : Int
  refundedAmount : Int
  remainingRefundableAmount : Int
  hasActiveRefund : Bool
  canRequestRefund : Bool
  canCancelJob : Bool
  suggestedRefundAmount : Option Int
  suggestedRefundLabel : String
  disputeWindowEndsAt : Option Time
  withinDisputeWindow : Bool
  myPendingRefundRequestId : Option RefundId

def buildRefundSummary (market : Marketplace) (job : Job) (intents : List PaymentIntent)
    (refunds : List RefundRequest) (actor : IntentActorInput) (now : Time) : RefundSummary :=
  let latestPaidIntent := intents.find? fun intent => intent.status.isPaid
  let refundedAmount :=
    ((refunds.filter fun refund => refund.status = .succeeded).map RefundRequest.amount).sum
  let remainingRefundableAmount :=
    latestPaidIntent.elim 0 fun intent => max 0 (intent.amount - refundedAmount)
  let hasActiveRefund := refunds.any fun refund =>
    [RefundStatus.pending, .approved, .processing].contains refund.status
  let stage := resolveRefundStage job latestPaidIntent
  let suggestedRefundAmount := latestPaidIntent.bind fun _ =>
    resolveSuggestedRefundAmount job remainingRefundableAmount
  let disputeWindowEndsAt := job.completedAt.map (· + 24 * 60 * 60 * 1000)
  let worker := (market.workerProfiles.find? job.workerProfileId).map WorkerProfile.userId
  { stage := stage
    stageLabel := stage.label
    hasPaidDeposit := latestPaidIntent.isSome
    paidAmount := latestPaidIntent.elim 0 PaymentIntent.amount
    refundedAmount := refundedAmount
    remainingRefundableAmount := remainingRefundableAmount
    hasActiveRefund := hasActiveRefund
    canRequestRefund :=
      latestPaidIntent.isSome && 0 < remainingRefundableAmount && !hasActiveRefund
    canCancelJob :=
      ((actor.role.getD .customer).isAdmin || job.clientId = actor.userId ||
        worker = some actor.userId) &&
        !(job.status = .completed || job.status = .canceled)
    suggestedRefundAmount := suggestedRefundAmount
    suggestedRefundLabel := suggestedRefundLabel stage suggestedRefundAmount
    disputeWindowEndsAt := disputeWindowEndsAt
    withinDisputeWindow := disputeWindowEndsAt.any fun endsAt => now ≤ endsAt
    myPendingRefundRequestId := (refunds.find? fun refund =>
      refund.status = .pending && refund.requestedByUserId = actor.userId).map
        RefundRequest.id }

/-! ## The answer -/

structure IntentRecord where
  intent : PaymentIntent
  transactions : List PaymentTransaction

structure JobFinancialState where
  jobId : JobId
  jobStatus : JobStatus
  paymentState : Option PaymentIntentStatus
  intents : List IntentRecord
  refunds : List SerializedRefund
  canceledAt : Option Time
  canceledBy : Option UserId
  cancelReason : Option String
  refundSummary : RefundSummary

def getJobFinancialState (jobId : JobId) (actor : IntentActorInput) (now : Time)
    (store : Store) : Except ApiError JobFinancialState := do
  let access ← getAccessibleJobOrThrow jobId actor store
  let intents := store.intents.rows.filter fun intent => intent.jobId = jobId
  let refunds := store.refunds.rows.filter fun refund => refund.jobId = jobId
  pure
    { jobId := jobId
      jobStatus := access.job.status
      paymentState := intents.head?.map PaymentIntent.status
      intents := intents.map fun intent =>
        ⟨intent, store.transactions.rows.filter fun transaction =>
          transaction.paymentIntentId = some intent.id⟩
      refunds := refunds.map (serializeRefundRequest store access.isAdmin now)
      canceledAt := access.job.canceledAt
      canceledBy := access.job.canceledBy
      cancelReason := access.job.cancelReason
      refundSummary := buildRefundSummary store.market access.job intents refunds actor now }

end Tchuno.SupportOps
