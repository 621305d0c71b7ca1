import Tchuno.Payments.Gateway
import Tchuno.Payments.Policy

/-!
# Selecting a proposal and moving a job

`selectProposal` of the service-request service creates the job and its deposit
intent; `updateStatus` of the job service moves the job and cancels unpaid
intents with it.  No other operation creates a job or changes an intent outside
the payments service.
-/

namespace Tchuno.Payments

open Tchuno.Library Tchuno.Library.Ecma

/-! ## Selection -/

/-- `expireRequestsByIds` for one request, in its own transaction. -/
def expireRequest (requestId : RequestId) (now : Time) : Service Unit :=
  .alter fun store =>
    { store with
      market :=
        { store.market with
          requests := store.market.requests.updateMany
            (fun request => request.id = requestId && request.status = .open)
            (fun request => { request with status := .expired })
          invitations := store.market.invitations.updateMany
            (fun invitation => invitation.requestId = requestId && invitation.status = .sent)
            (fun invitation =>
              { invitation with
                status := .expired
                respondedAt := some now
                expiresAt := some now }) } }

def isRequestPastExpiry (request : ServiceRequest) (now : Time) : Bool :=
  request.status = .open && request.selectedProposalId.isNone && request.expiresAt ≤ now

def refreshRequestStatusIfExpired (request : ServiceRequest) (now : Time) :
    Service ServiceRequestStatus := do
  if isRequestPastExpiry request now then
    expireRequest request.id now
    pure .expired
  else
    pure request.status

structure SelectionReply where
  selectedProposalId : ProposalId
  job : Job
  paymentIntent : Option PaymentIntent
  idempotent : Bool

/-- `job: { include: { paymentIntents: { take: 1 } } }` of a request. -/
def Store.jobOfRequest? (store : Store) (requestId : RequestId) : Option Job :=
  store.jobs.findFirst? fun job => job.requestId = some requestId

def Store.newestIntent? (store : Store) (jobId : JobId) : Option PaymentIntent :=
  store.intents.findFirst? fun intent => intent.jobId = jobId

def ownedRequestGate (requestId : RequestId) (actorUserId : UserId) (store : Store) :
    Except ApiError ServiceRequest := do
  let request ← orThrow (store.market.requests.find? requestId)
    (.notFound "Service request not found")
  guardThat (request.customerId = actorUserId)
    (.forbidden "Only request owner can select a proposal")
  pure request

/-- What a selection is made of. -/
structure SelectionTerms where
  proposal : Proposal
  providerProfile : WorkerProfile
  split : DepositSplit

def selectionGate (policy : PaymentPolicy) (request : ServiceRequest)
    (currentStatus : ServiceRequestStatus) (proposalId : ProposalId)
    (depositPercent : Option DepositPercent) (store : Store) :
    Except ApiError SelectionTerms := do
  guardThat (currentStatus = .open) (.conflict "Service request is not open anymore")
  let proposal ← orThrow
    ((store.market.proposals.find? proposalId).filter fun proposal =>
      proposal.requestId = request.id)
    (.notFound "Proposal not found for this request")
  guardThat (proposal.status = .submitted ∨ proposal.status = .selected)
    (.conflict "Proposal cannot be selected in current status")
  let providerProfile ← orThrow
    (store.market.workerProfiles.findFirst? fun profile =>
      profile.userId = proposal.providerId)
    (.conflict "Selected provider profile does not exist")
  guardThat (providerProfile.isAvailable = true)
    (.conflict "Selected provider is currently unavailable")
  let split ← policy.computeDepositSplit proposal.price depositPercent
  pure ⟨proposal, providerProfile, split⟩

def expireInvitations (requestId : RequestId) (now : Time) (market : Marketplace) :
    Marketplace :=
  { market with
    invitations := market.invitations.updateMany
      (fun invitation => invitation.requestId = requestId && invitation.status = .sent)
      (fun invitation =>
        { invitation with
          status := .expired
          respondedAt := some now
          expiresAt := some now }) }

/-- Reject the other proposals, select this one and close the request. -/
def closeRequest (requestId : RequestId) (proposalId : ProposalId)
    (market : Marketplace) : Marketplace :=
  { market with
    proposals :=
      (market.proposals.updateMany
        (fun proposal => proposal.requestId = requestId && proposal.id ≠ proposalId)
        (fun proposal => { proposal with status := .rejected })).update proposalId
          (fun proposal => { proposal with status := .selected })
    requests := market.requests.update requestId fun request =>
      { request with status := .closed, selectedProposalId := some proposalId } }

def selectedJob (request : ServiceRequest) (terms : SelectionTerms)
    (actorUserId : UserId) (id : JobId) : Job where
  id := id
  clientId := actorUserId
  customerId := some actorUserId
  providerId := some terms.proposal.providerId
  workerProfileId := terms.providerProfile.id
  categoryId := request.categoryId
  requestId := some request.id
  proposalId := some terms.proposal.id
  agreedPrice := some terms.proposal.price
  pricingMode := .fixedPrice
  title := request.title
  description := request.description
  budget := some terms.proposal.price
  quotedAmount := some terms.proposal.price
  quoteMessage := terms.proposal.comment
  status := .requested
  acceptedAt := none
  startedAt := none
  completedAt := none
  canceledAt := none
  canceledBy := none
  cancelReason := none
  contactUnlockedAt := none
  agreedPrice_le := by
    rintro _ ⟨⟩
    exact terms.proposal.price_le
  budget_le := by
    rintro _ ⟨⟩
    exact terms.proposal.price_le

theorem selectedJob_key (request : ServiceRequest) (terms : SelectionTerms)
    (actorUserId : UserId) (id : JobId) :
    Keyed.key (selectedJob request terms actorUserId id) = id :=
  rfl

def depositIntent (policy : PaymentPolicy) (request : ServiceRequest)
    (terms : SelectionTerms) (actorUserId : UserId) (jobId : JobId) (id : IntentId) :
    PaymentIntent where
  id := id
  jobId := jobId
  customerId := actorUserId
  providerUserId := some terms.proposal.providerId
  amount := terms.split.grossAmount
  currency := "MZN"
  platformFeeAmount := terms.split.platformFeeAmount
  providerNetAmount := terms.split.providerNetAmount
  status := .awaitingPayment
  provider := policy.defaultProvider
  expiresAt := none
  acceptedQuoteSnapshot := some terms.proposal.price
  metadata := some (.object
    [("kind", .string "deposit"),
     ("agreedPrice", .number (toString terms.proposal.price)),
     ("depositPercent", .number (toString terms.split.depositPercent)),
     ("serviceRequestId", .string (renderId request.id)),
     ("proposalId", .string (renderId terms.proposal.id))])

/-- The unique constraints `Job.requestId` and `Job.proposalId`. -/
def Books.admitsJob (books : Books) (requestId : RequestId) (proposalId : ProposalId) :
    Bool :=
  (books.jobs.findFirst? fun job =>
    job.requestId = some requestId || job.proposalId = some proposalId).isNone

/-- The database transaction of a selection. -/
def recordSelection (policy : PaymentPolicy) (request : ServiceRequest)
    (terms : SelectionTerms) (actorUserId : UserId) (now : Time) :
    Service SelectionReply := do
  let existingJob ← .inspect fun store => store.jobOfRequest? request.id
  match existingJob with
  | some job =>
      let newest ← .inspect fun store => store.newestIntent? job.id
      .alter fun store => { store with market := expireInvitations request.id now store.market }
      pure ⟨terms.proposal.id, job, newest, true⟩
  | none =>
      .alter fun store =>
        { store with
          market := expireInvitations request.id now
            (closeRequest request.id terms.proposal.id store.market) }
      let admitted ← .inspect fun store => store.admitsJob request.id terms.proposal.id
      .require (admitted = true) (.database "P2002")
      let job ← .inspect fun store => selectedJob request terms actorUserId store.jobs.nextId
      .alter fun store =>
        { store with jobs := store.jobs.insert (selectedJob request terms actorUserId) }
      let intent ← .inspect fun store =>
        depositIntent policy request terms actorUserId job.id store.intents.nextId
      .alter fun store =>
        { store with
          intents := store.intents.insert
            (depositIntent policy request terms actorUserId job.id) }
      pure ⟨terms.proposal.id, job, some intent, false⟩

def selectProposal (policy : PaymentPolicy) (requestId : RequestId)
    (proposalId : ProposalId) (actorUserId : UserId)
    (depositPercent : Option DepositPercent) (now : Time) : Service SelectionReply := do
  let request ← .consult (ownedRequestGate requestId actorUserId)
  let requestJob ← .inspect fun store => store.jobOfRequest? request.id
  let newest ← .inspect fun store => requestJob.bind fun job => store.newestIntent? job.id
  let currentStatus ← refreshRequestStatusIfExpired request now
  .require (request.selectedProposalId = none ∨ request.selectedProposalId = some proposalId)
    (.conflict "A proposal was already selected for this request")
  match request.selectedProposalId, requestJob with
  | some _, some job => pure ⟨proposalId, job, newest, true⟩
  | _, _ =>
      let terms ← .consult
        (selectionGate policy request currentStatus proposalId depositPercent)
      .transaction (recordSelection policy request terms actorUserId now)

/-! ## Moving a job -/

structure UpdateJobStatusDto where
  status : JobStatus
  cancelReason : Option String

def isTransitionAllowed (current next : JobStatus) (isClient isWorker : Bool) : Bool :=
  if current = next then
    false
  else if current = .completed ∨ current = .canceled then
    false
  else if current = .requested ∧ next = .accepted then
    isWorker
  else if isWorker ∧ current = .accepted ∧ next = .inProgress then
    true
  else if isWorker ∧ current = .inProgress ∧ next = .completed then
    true
  else if (isClient ∨ isWorker) ∧ next = .canceled then
    true
  else
    false

def updateStatusGate (jobId : JobId) (requesterId : UserId) (dto : UpdateJobStatusDto)
    (store : Store) : Except ApiError Job := do
  let job ← orThrow (store.jobs.find? jobId) (.notFound "Job not found")
  let workerProfile ← orThrow (store.market.workerProfiles.find? job.workerProfileId)
    (.database "P2025")
  let isClient := job.clientId = requesterId
  let isWorker := workerProfile.userId = requesterId
  guardThat (isClient ∨ isWorker) (.forbidden "You are not allowed to update this job")
  if dto.status ∈ [JobStatus.accepted, .inProgress, .completed] then
    guardThat (job.requestId.isSome ∧ job.proposalId.isSome)
      (.conflict "Legacy direct jobs cannot progress. Use ServiceRequest -> Proposal -> Selection flow.")
    guardThat
      ((store.intents.findFirst? fun intent =>
        intent.jobId = job.id && intent.status.isPaid).isSome = true)
      (.conflict "Deposit payment is required before provider execution workflow")
  guardThat (isTransitionAllowed job.status dto.status isClient isWorker = true)
    (.conflict ("Invalid transition from " ++ job.status.name ++ " to " ++ dto.status.name))
  guardThat (dto.status = .canceled ∨ truthy dto.cancelReason = none)
    (.badRequest "cancelReason can only be provided when status=CANCELED")
  guardThat (dto.status ≠ .canceled ∨ (truthy (dto.cancelReason.map trim)).isSome)
    (.badRequest "cancelReason is required when status=CANCELED")
  pure job

/-- The job after a move to `next`. -/
def movedJob (dto : UpdateJobStatusDto) (requesterId : UserId) (now : Time) (job : Job) :
    Job :=
  let next := dto.status
  { job with
    status := next
    acceptedAt := if next = .accepted then job.acceptedAt.or (some now) else job.acceptedAt
    startedAt := if next = .inProgress then job.startedAt.or (some now) else job.startedAt
    completedAt := if next = .completed then job.completedAt.or (some now) else job.completedAt
    canceledAt := if next = .canceled then job.canceledAt.or (some now) else job.canceledAt
    canceledBy := if next = .canceled then some requesterId else job.canceledBy
    cancelReason := if next = .canceled then dto.cancelReason.map trim else job.cancelReason }

theorem movedJob_key (dto : UpdateJobStatusDto) (requesterId : UserId) (now : Time)
    (job : Job) : Keyed.key (movedJob dto requesterId now job) = Keyed.key job :=
  rfl

/-- The intents a cancelation of the job cancels with it. -/
def isCancelable (jobId : JobId) (intent : PaymentIntent) : Bool :=
  intent.jobId = jobId &&
    [.created, .awaitingPayment, .pendingConfirmation].contains intent.status

def canceledIntent (intent : PaymentIntent) : PaymentIntent :=
  { intent with status := .canceled }

theorem canceledIntent_key (intent : PaymentIntent) :
    Keyed.key (canceledIntent intent) = Keyed.key intent :=
  rfl

def updateStatus (jobId : JobId) (requesterId : UserId) (dto : UpdateJobStatusDto)
    (now : Time) : Service Job := do
  let job ← .consult (updateStatusGate jobId requesterId dto)
  .transaction do
    .alter fun store =>
      { store with jobs := store.jobs.update job.id (movedJob dto requesterId now) }
    if dto.status = .canceled then
      .alter fun store =>
        { store with
          intents := store.intents.updateMany (isCancelable job.id) canceledIntent }
    else
      pure ()
    pure (movedJob dto requesterId now job)

end Tchuno.Payments
