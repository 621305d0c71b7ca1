import Tchuno.Payments.Selection

/-!
# Service requests, invitations and proposals

The services of the marketplace up to the selection of a proposal.  A request expires when
somebody looks at it after its time, and its pending invitations with it.
-/

namespace Tchuno.Requests

open Tchuno.Library Tchuno.Library.Ecma Tchuno.Payments

/-! ## Inputs -/

structure CreateServiceRequestDto where
  categoryId : Nat
  title : String
  description : String
  location : Option String

structure RecreateServiceRequestDto where
  title : Option String
  description : Option String
  location : Option String

/-- `@IsInt() @Min(1) @Max(72)` -/
abbrev ExtensionHours := { hours : Int // 1 ≤ hours ∧ hours ≤ 72 }

structure UpdateServiceRequestDto where
  title : Option String
  description : Option String
  location : Option String
  extendExpiryHours : Option ExtensionHours

structure SubmitProposalDto where
  price : DtoAmount
  comment : Option String

/-- `resolveRequestExpiryHoursFromEnv` -/
def resolveRequestExpiryHours (parsed : EnvNumber) : Int :=
  match parsed with
  | none => 72
  | some value => min 168 (max 1 (mathTrunc value))

def hoursAfter (hours : Int) (time : Time) : Time :=
  time + hours * 60 * 60 * 1000

def onMarket (change : Marketplace → Marketplace) : Service Unit :=
  .alter fun store => { store with market := change store.market }

/-! ## Expiry -/

def expiredInvitation (now : Time) (invitation : RequestInvitation) : RequestInvitation :=
  { invitation with
    status := .expired
    respondedAt := some now
    expiresAt := some now }

theorem expiredInvitation_key (now : Time) (invitation : RequestInvitation) :
    Keyed.key (expiredInvitation now invitation) = Keyed.key invitation :=
  rfl

theorem expiredRequest_key (request : ServiceRequest) :
    Keyed.key { request with status := .expired } = Keyed.key request :=
  rfl

def expiredByIds (requestIds : List RequestId) (now : Time) (market : Marketplace) :
    Marketplace :=
  { market with
    requests := market.requests.updateMany
      (fun request => requestIds.contains request.id && request.status = .open)
      (fun request => { request with status := .expired }) expiredRequest_key
    invitations := market.invitations.updateMany
      (fun invitation => requestIds.contains invitation.requestId && invitation.status = .sent)
      (expiredInvitation now) (expiredInvitation_key now) }

def expireRequestsByIds (requestIds : List RequestId) (now : Time) : Service Unit :=
  onMarket (expiredByIds requestIds now)

def expireStaleOpenRequests (now : Time) : Service Nat := do
  let staleRequests ← .inspect fun store =>
    store.market.requests.findMany (isRequestPastExpiry · now)
  if staleRequests = [] then
    pure 0
  else
    expireRequestsByIds (staleRequests.map ServiceRequest.id) now
    pure staleRequests.length

/-- The pending invitations a query finds, by their identifiers. -/
def expireFound (stale : Marketplace → RequestInvitation → Bool) (now : Time)
    (market : Marketplace) : Marketplace :=
  { market with
    invitations := market.invitations.updateMany
      (fun invitation =>
        ((market.invitations.findMany (stale market)).map RequestInvitation.id).contains
          invitation.id)
      (expiredInvitation now) (expiredInvitation_key now) }

def expirePendingInvitationsForRequest (requestId : RequestId)
    (requestStatus : ServiceRequestStatus) (now : Time) : Service Unit :=
  if requestStatus = .open then
    pure ()
  else
    onMarket (expireFound (fun _ invitation =>
      invitation.requestId = requestId && invitation.status = .sent) now)

/-- The request of an invitation passes a filter. -/
def requestPasses (accept : ServiceRequest → Bool) (market : Marketplace)
    (invitation : RequestInvitation) : Bool :=
  (market.requests.find? invitation.requestId).any accept

def expirePendingInvitationsForProvider (actorUserId : UserId) (now : Time) : Service Unit :=
  onMarket (expireFound (fun market invitation =>
    invitation.providerUserId = actorUserId && invitation.status = .sent &&
      requestPasses (fun request => request.status ≠ .open) market invitation) now)

/-! ## Requests -/

def categoryGate (categoryId : Nat) (store : Store) : Except ApiError Category :=
  orThrow ((store.market.categories.find? categoryId).filter Category.isActive)
    (.notFound "Category not found")

/-- The request, if the actor owns it. -/
def ownRequestGate (message : String) (requestId : RequestId) (actorUserId : UserId)
    (store : Store) : Except ApiError ServiceRequest := do
  let request ← orThrow (store.market.requests.find? requestId)
    (.notFound "Service request not found")
  guardThat (request.customerId = actorUserId) (.forbidden message)
  pure request

def placeRequest (make : RequestId → ServiceRequest)
    (keyed : ∀ id, Keyed.key (make id) = id := by intro _; exact id rfl) :
    Service ServiceRequest := do
  let created ← .inspect fun store => make store.market.requests.nextId
  onMarket fun market => { market with requests := market.requests.insert make keyed }
  pure created

/-- A request as it is created. -/
def openRequest (customerId : UserId) (categoryId : Nat) (title description : String)
    (location : Option String) (expiresAt : Time) (id : RequestId) : ServiceRequest where
  id := id
  customerId := customerId
  categoryId := categoryId
  title := title
  description := description
  status := .open
  selectedProposalId := none
  expiresAt := expiresAt
  location := location

section Requests

variable (expiryHours : EnvNumber)

def create (actorUserId : UserId) (dto : CreateServiceRequestDto) (now : Time) :
    Service ServiceRequest := do
  let _ ← .consult (categoryGate dto.categoryId)
  placeRequest (openRequest actorUserId dto.categoryId (trim dto.title)
    (trim dto.description) (truthy (dto.location.map trim))
    (hoursAfter (resolveRequestExpiryHours expiryHours) now))

def recreate (actorUserId : UserId) (requestId : RequestId) (dto : RecreateServiceRequestDto)
    (now : Time) : Service ServiceRequest := do
  let request ← .consult
    (ownRequestGate "Only request owner can recreate this request" requestId actorUserId)
  let requestJob ← .inspect fun store => store.jobOfRequest? request.id
  let currentStatus ← refreshRequestStatusIfExpired request now
  .require (currentStatus = .expired ∧ request.selectedProposalId = none ∧
      requestJob.isNone = true)
    (.conflict "Only expired requests without selected proposal can be recreated")
  let _ ← .consult (categoryGate request.categoryId)
  placeRequest (openRequest actorUserId request.categoryId
    ((truthy (dto.title.map trim)).getD request.title)
    ((truthy (dto.description.map trim)).getD request.description)
    (match dto.location with
      | some location => truthy (some (trim location))
      | none => request.location)
    (hoursAfter (resolveRequestExpiryHours expiryHours) now))

/-- What the DTO asks for differs from the request as it was read. -/
def isChanged (dto : UpdateServiceRequestDto) (request : ServiceRequest) : Bool :=
  dto.title.any (fun title => trim title ≠ request.title) ||
    dto.description.any (fun description => trim description ≠ request.description) ||
    dto.location.any (fun location => truthy (some (trim location)) ≠ request.location) ||
    dto.extendExpiryHours.isSome

/-- `data` of an update, on the row; `request` is what was read before. -/
def adjusted (dto : UpdateServiceRequestDto) (request : ServiceRequest) (now : Time)
    (row : ServiceRequest) : ServiceRequest :=
  { row with
    title := ((dto.title.map trim).filter (· ≠ request.title)).getD row.title
    description :=
      ((dto.description.map trim).filter (· ≠ request.description)).getD row.description
    location := ((dto.location.map fun location => truthy (some (trim location))).filter
      (· ≠ request.location)).getD row.location
    expiresAt := (dto.extendExpiryHours.map fun hours =>
      hoursAfter hours.val request.expiresAt).getD row.expiresAt
    lastCustomerEditAt := some now }

def update (actorUserId : UserId) (requestId : RequestId) (dto : UpdateServiceRequestDto)
    (now : Time) : Service ServiceRequest := do
  let request ← .consult
    (ownRequestGate "Only request owner can adjust this request" requestId actorUserId)
  let requestJob ← .inspect fun store => store.jobOfRequest? request.id
  let currentStatus ← refreshRequestStatusIfExpired request now
  .require (currentStatus = .open ∧ request.selectedProposalId = none ∧
      requestJob.isNone = true)
    (.conflict "Only open requests without selected proposal can be adjusted")
  if isChanged dto request then
    onMarket fun market =>
      { market with
        requests := market.requests.update requestId (adjusted dto request now) }
    pure (adjusted dto request now request)
  else
    pure request

def getMineById (actorUserId : UserId) (requestId : RequestId) (now : Time) :
    Service ServiceRequest := do
  let request ← .consult
    (ownRequestGate "Only request owner can read this request" requestId actorUserId)
  let currentStatus ← refreshRequestStatusIfExpired request now
  if currentStatus = .expired then
    .consult fun store => orThrow (store.market.requests.find? requestId) (.database "P2025")
  else
    pure request

end Requests

/-! ## Invitations -/

def listRequestInvitations (requestId : RequestId) (actorUserId : UserId) (now : Time) :
    Service (List RequestInvitation) := do
  let request ← .consult
    (ownRequestGate "Only request owner can read invitations" requestId actorUserId)
  let currentStatus ← refreshRequestStatusIfExpired request now
  expirePendingInvitationsForRequest request.id currentStatus now
  .inspect fun store =>
    store.market.invitations.findMany fun invitation => invitation.requestId = requestId

def describeDuplicateInvitationStatus : RequestInvitationStatus → String
  | .accepted => "This provider already accepted the invitation through a proposal"
  | .declined => "This provider already declined the invitation"
  | .expired => "This invitation already expired for the provider"
  | .sent => "This provider was already invited to the request"

/-- The profile, the proposal and the invitation which `createInvitation` reads. -/
structure InvitationSnapshot where
  providerProfile : Option WorkerProfile
  existingProposal : Option Proposal
  existingInvitation : Option RequestInvitation

def profileOf? (userId : UserId) (market : Marketplace) : Option WorkerProfile :=
  market.workerProfiles.findFirst? fun profile => profile.userId = userId

def proposalOf? (requestId : RequestId) (providerId : UserId) (market : Marketplace) :
    Option Proposal :=
  market.proposals.findFirst? fun proposal =>
    proposal.requestId = requestId && proposal.providerId = providerId

def invitationOf? (requestId : RequestId) (providerUserId : UserId) (market : Marketplace) :
    Option RequestInvitation :=
  market.invitations.findFirst? fun invitation =>
    invitation.requestId = requestId && invitation.providerUserId = providerUserId

def invitationSnapshot (requestId : RequestId) (providerUserId : UserId) (store : Store) :
    InvitationSnapshot where
  providerProfile := profileOf? providerUserId store.market
  existingProposal := proposalOf? requestId providerUserId store.market
  existingInvitation := invitationOf? requestId providerUserId store.market

/-- The profile of a provider who is available. -/
def availableProfile (profile : Option WorkerProfile) (message : String) :
    Except ApiError WorkerProfile := do
  let profile ← orThrow profile (.notFound "Worker profile not found")
  guardThat (profile.isAvailable = true) (.conflict message)
  pure profile

def invitationGate (request : ServiceRequest) (currentStatus : ServiceRequestStatus)
    (snapshot : InvitationSnapshot) : Except ApiError Unit := do
  guardThat (currentStatus = .open ∧ request.selectedProposalId = none)
    (.conflict "Service request is no longer open for invitations")
  let _ ← availableProfile snapshot.providerProfile
    "Only available providers can be invited to send proposals"
  guardThat (snapshot.existingProposal.isNone = true)
    (.conflict "This provider already submitted a proposal for the request")
  match snapshot.existingInvitation with
  | none => pure ()
  | some invitation =>
      throw (.conflict (describeDuplicateInvitationStatus invitation.status))

def sentInvitation (requestId : RequestId) (providerUserId : UserId) (id : Nat) :
    RequestInvitation where
  id := id
  requestId := requestId
  providerUserId := providerUserId
  status := .sent
  openedAt := none
  respondedAt := none
  expiresAt := none

def createInvitation (requestId : RequestId) (actorUserId providerUserId : UserId)
    (now : Time) : Service RequestInvitation := do
  .require (providerUserId ≠ actorUserId)
    (.conflict "You cannot invite yourself to your own service request")
  let snapshot ← .inspect (invitationSnapshot requestId providerUserId)
  let request ← .consult
    (ownRequestGate "Only request owner can invite providers to this request" requestId
      actorUserId)
  let currentStatus ← refreshRequestStatusIfExpired request now
  .consult fun _ => invitationGate request currentStatus snapshot
  let invitation ← .inspect fun store =>
    sentInvitation requestId providerUserId store.market.invitations.nextId
  onMarket fun market =>
    { market with
      invitations := market.invitations.insert (sentInvitation requestId providerUserId) }
  pure invitation

def openedInvitation (now : Time) (invitation : RequestInvitation) : RequestInvitation :=
  { invitation with openedAt := some now }

theorem openedInvitation_key (now : Time) (invitation : RequestInvitation) :
    Keyed.key (openedInvitation now invitation) = Keyed.key invitation :=
  rfl

def markOpened (actorUserId : UserId) (now : Time) (market : Marketplace) : Marketplace :=
  { market with
    invitations := market.invitations.updateMany
      (fun invitation =>
        invitation.providerUserId = actorUserId && invitation.status = .sent &&
          invitation.openedAt.isNone &&
          requestPasses (fun request =>
            request.status = .open && request.selectedProposalId.isNone) market invitation)
      (openedInvitation now) }

def listMineInvitations (actorUserId : UserId) (now : Time) :
    Service (List RequestInvitation) := do
  let _ ← expireStaleOpenRequests now
  expirePendingInvitationsForProvider actorUserId now
  onMarket (markOpened actorUserId now)
  .inspect fun store =>
    store.market.invitations.findMany fun invitation => invitation.providerUserId = actorUserId

structure DeclineTerms where
  invitation : RequestInvitation
  request : ServiceRequest

def declineGate (invitationId : Nat) (actorUserId : UserId) (store : Store) :
    Except ApiError DeclineTerms := do
  let invitation ← orThrow (store.market.invitations.find? invitationId)
    (.notFound "Request invitation not found")
  let request ← orThrow (store.market.requests.find? invitation.requestId)
    (.database "P2025")
  guardThat (invitation.providerUserId = actorUserId)
    (.forbidden "Only invited provider can decline invite")
  guardThat (invitation.status ≠ .accepted)
    (.conflict "Invitation already accepted through submitted proposal")
  pure ⟨invitation, request⟩

/-- `data` for an invitation whose request is no longer open; `invitation` is what was read
before. -/
def lateInvitation (invitation : RequestInvitation) (now : Time) (row : RequestInvitation) :
    RequestInvitation :=
  { row with
    status := .expired
    openedAt := invitation.openedAt.or (some now)
    respondedAt := invitation.respondedAt.or (some now)
    expiresAt := invitation.expiresAt.or (some now) }

def declinedInvitation (invitation : RequestInvitation) (now : Time) (row : RequestInvitation) :
    RequestInvitation :=
  { row with
    status := .declined
    openedAt := invitation.openedAt.or (some now)
    respondedAt := some now }

def rewriteInvitation (invitation : RequestInvitation)
    (change : RequestInvitation → RequestInvitation)
    (keeps : ∀ row, Keyed.key (change row) = Keyed.key row := by intro _; exact id rfl) :
    Service RequestInvitation := do
  onMarket fun market =>
    { market with invitations := market.invitations.update invitation.id change keeps }
  pure (change invitation)

def declineInvitation (invitationId : Nat) (actorUserId : UserId) (now : Time) :
    Service RequestInvitation := do
  let terms ← .consult (declineGate invitationId actorUserId)
  if terms.invitation.status = .declined then
    pure terms.invitation
  else
    let currentRequestStatus ← refreshRequestStatusIfExpired terms.request now
    if terms.invitation.status = .expired then
      pure terms.invitation
    else if currentRequestStatus ≠ .open ∨ terms.request.selectedProposalId.isSome then
      rewriteInvitation terms.invitation (lateInvitation terms.invitation now)
    else
      rewriteInvitation terms.invitation (declinedInvitation terms.invitation now)

/-! ## Proposals -/

def acceptedInvitation (now : Time) (invitation : RequestInvitation) : RequestInvitation :=
  { invitation with
    status := .accepted
    respondedAt := some now
    expiresAt := none }

theorem acceptedInvitation_key (now : Time) (invitation : RequestInvitation) :
    Keyed.key (acceptedInvitation now invitation) = Keyed.key invitation :=
  rfl

/-- `markInvitationAccepted` -/
def markAccepted (requestId : RequestId) (providerUserId : UserId) (now : Time)
    (market : Marketplace) : Marketplace :=
  { market with
    invitations :=
      (market.invitations.updateMany
        (fun invitation =>
          invitation.requestId = requestId && invitation.providerUserId = providerUserId &&
            invitation.openedAt.isNone)
        (openedInvitation now)).updateMany
          (fun invitation =>
            invitation.requestId = requestId && invitation.providerUserId = providerUserId &&
              [.sent, .declined, .expired].contains invitation.status)
          (acceptedInvitation now) }

structure SubmissionTerms where
  request : ServiceRequest
  profile : WorkerProfile

def submissionGate (requestId : RequestId) (actorUserId : UserId) (store : Store) :
    Except ApiError SubmissionTerms := do
  let request ← orThrow (store.market.requests.find? requestId)
    (.notFound "Service request not found")
  let profile ← availableProfile (profileOf? actorUserId store.market)
    "Only available providers can send proposals"
  guardThat (request.customerId ≠ actorUserId)
    (.conflict "You cannot propose to your own service request")
  pure ⟨request, profile⟩

def submissionPrice (dto : SubmitProposalDto) : Int :=
  mathTrunc dto.price.val

theorem submissionPrice_le (dto : SubmitProposalDto) : submissionPrice dto ≤ columnMax := by
  have bound := dto.price.property.2
  rw [submissionPrice, mathTrunc_intCast, columnMax]
  omega

def submittedProposal (requestId : RequestId) (providerId : UserId) (dto : SubmitProposalDto)
    (id : ProposalId) : Proposal where
  id := id
  requestId := requestId
  providerId := providerId
  price := submissionPrice dto
  comment := truthy (dto.comment.map trim)
  status := .submitted
  price_le := submissionPrice_le dto

def resubmitted (dto : SubmitProposalDto) (proposal : Proposal) : Proposal :=
  { proposal with
    price := submissionPrice dto
    comment := truthy (dto.comment.map trim)
    status := .submitted
    price_le := submissionPrice_le dto }

theorem resubmitted_key (dto : SubmitProposalDto) (proposal : Proposal) :
    Keyed.key (resubmitted dto proposal) = Keyed.key proposal :=
  rfl

/-- The provider's proposal for the request is rewritten, or created. -/
def writeProposal (requestId : RequestId) (providerId : UserId) (dto : SubmitProposalDto) :
    Service Proposal := do
  let existing ← .inspect fun store => proposalOf? requestId providerId store.market
  match existing with
  | some proposal =>
      onMarket fun market =>
        { market with proposals := market.proposals.update proposal.id (resubmitted dto) }
      pure (resubmitted dto proposal)
  | none =>
      let created ← .inspect fun store =>
        submittedProposal requestId providerId dto store.market.proposals.nextId
      onMarket fun market =>
        { market with
          proposals := market.proposals.insert (submittedProposal requestId providerId dto) }
      pure created

def submitProposal (requestId : RequestId) (actorUserId : UserId) (dto : SubmitProposalDto)
    (now : Time) : Service Proposal := do
  let terms ← .consult (submissionGate requestId actorUserId)
  let currentStatus ← refreshRequestStatusIfExpired terms.request now
  .require (currentStatus = .open ∧ terms.request.selectedProposalId = none)
    (.conflict "Service request is no longer open for proposals")
  .require (0 < submissionPrice dto) (.badRequest "price must be greater than zero")
  let proposal ← writeProposal requestId actorUserId dto
  onMarket (markAccepted requestId actorUserId now)
  pure proposal

/-! ## Worker profiles -/

/-- `upsertMe`, as far as requests depend on it. -/
def upsertMe (userId : UserId) (isAvailable : Bool) (market : Marketplace) : Marketplace :=
  { market with
    workerProfiles :=
      match profileOf? userId market with
      | some profile =>
          market.workerProfiles.update profile.id fun row => { row with isAvailable := isAvailable }
      | none =>
          market.workerProfiles.insert fun id =>
            { id := id
              userId := userId
              isAvailable := isAvailable } }

end Tchuno.Requests
