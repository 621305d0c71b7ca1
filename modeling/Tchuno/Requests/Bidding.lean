import Tchuno.Requests.Market

/-!
# Proposals and selections, statement by statement

The services which decide about a request once more, now in turns: between any two statements
of one call the others may run.  Transactions are READ COMMITTED.  A statement reads what has
been committed; a row which a transaction has updated is locked until the transaction ends,
and an update of a locked row waits.
-/

namespace Tchuno.Requests

open Tchuno.Library Tchuno.Library.Ecma Tchuno.Payments

/-! ## Calls -/

/-- A call goes on, returns or throws. -/
inductive Progress (φ α : Type) where
  | running (phase : φ)
  | returned (value : α)
  | failed (error : ApiError)

/-- Go on with the value of the checks, or throw what they have thrown. -/
def Progress.ofGate {φ α β : Type} (next : β → Progress φ α) :
    Except ApiError β → Progress φ α
  | .ok value => next value
  | .error error => .failed error

structure Submission where
  requestId : RequestId
  actorUserId : UserId
  dto : SubmitProposalDto

inductive SubmissionPhase where
  | called
  | expiring (requestId : RequestId)
  | permitted
  | rewriting (proposal : Proposal)
  | creating
  | written (proposal : Proposal)
  | opened (proposal : Proposal)

structure Selection where
  policy : PaymentPolicy
  requestId : RequestId
  proposalId : ProposalId
  actorUserId : UserId
  depositPercent : Option DepositPercent

/-- From `agreed` on the call is in its transaction; `others` are the proposals it has found
to reject. -/
inductive SelectionPhase where
  | called
  | owned (request : ServiceRequest)
  | joined (request : ServiceRequest) (requestJob : Option Job)
  | expiring (request : ServiceRequest)
  | selectable (request : ServiceRequest)
  | offered (request : ServiceRequest) (proposal : Proposal)
  | agreed (request : ServiceRequest) (terms : SelectionTerms)
  | repeating (request : ServiceRequest) (terms : SelectionTerms) (job : Job)
  | replying (request : ServiceRequest) (reply : SelectionReply)
  | unemployed (request : ServiceRequest) (terms : SelectionTerms)
  | rejecting (request : ServiceRequest) (terms : SelectionTerms) (others : List ProposalId)
  | rejected (request : ServiceRequest) (terms : SelectionTerms) (others : List ProposalId)
  | selected (request : ServiceRequest) (terms : SelectionTerms) (others : List ProposalId)
  | closed (request : ServiceRequest) (terms : SelectionTerms) (others : List ProposalId)

structure Adjustment where
  actorUserId : UserId
  requestId : RequestId
  dto : UpdateServiceRequestDto

inductive AdjustmentPhase where
  | called
  | owned (request : ServiceRequest)
  | expiring (request : ServiceRequest)
  | adjusting (request : ServiceRequest)

inductive ExpiryPhase where
  | called
  | expiring (requestIds : List RequestId)

inductive Call where
  | submitProposal (input : Submission) (progress : Progress SubmissionPhase Proposal)
  | selectProposal (input : Selection) (progress : Progress SelectionPhase SelectionReply)
  | update (input : Adjustment) (progress : Progress AdjustmentPhase ServiceRequest)
  | expireStaleOpenRequests (progress : Progress ExpiryPhase Nat)

/-- The committed data and the calls so far. -/
structure Bidding where
  store : Store
  calls : List Call

/-! ## Locks -/

def Call.lockedProposals : Call → List ProposalId
  | .selectProposal _ (.running (.rejected _ _ others)) => others
  | .selectProposal _ (.running (.selected _ terms others)) => terms.proposal.id :: others
  | .selectProposal _ (.running (.closed _ terms others)) => terms.proposal.id :: others
  | _ => []

def Call.lockedRequest? : Call → Option RequestId
  | .selectProposal _ (.running (.closed request _ _)) => some request.id
  | _ => none

section Locks

variable (bidding : Bidding)

def Bidding.isProposalLocked (proposalId : ProposalId) : Bool :=
  bidding.calls.any fun call => call.lockedProposals.contains proposalId

def Bidding.isRequestLocked (requestId : RequestId) : Bool :=
  bidding.calls.any fun call => call.lockedRequest? = some requestId

end Locks

/-! ## Writes -/

/-- What a statement commits. -/
inductive Write where
  | nothing
  | expire (requestIds : List RequestId) (now : Time)
  | resubmit (proposalId : ProposalId) (dto : SubmitProposalDto)
  | submit (input : Submission)
  | adjust (input : Adjustment) (request : ServiceRequest) (now : Time)
  | invite (invitations : Table RequestInvitation)
  | select (input : Selection) (request : ServiceRequest) (terms : SelectionTerms)
      (others : List ProposalId) (now : Time)

theorem movedProposal_key (status : ProposalStatus) (proposal : Proposal) :
    Keyed.key { proposal with status := status } = Keyed.key proposal :=
  rfl

theorem closedRequest_key (proposalId : ProposalId) (request : ServiceRequest) :
    Keyed.key { request with status := .closed, selectedProposalId := some proposalId } =
      Keyed.key request :=
  rfl

/-- The writes of a selection up to the job: only the proposals it has found are rejected. -/
def closedRequest (requestId : RequestId) (proposalId : ProposalId) (others : List ProposalId)
    (market : Marketplace) : Marketplace :=
  { market with
    proposals :=
      (market.proposals.updateMany (fun proposal => others.contains proposal.id)
        (fun proposal => { proposal with status := .rejected })
        (movedProposal_key .rejected)).update proposalId
          (fun proposal => { proposal with status := .selected }) (movedProposal_key .selected)
    requests := market.requests.update requestId
      (fun request => { request with status := .closed, selectedProposalId := some proposalId })
      (closedRequest_key proposalId) }

def Write.apply (store : Store) : Write → Store
  | .nothing => store
  | .expire requestIds now =>
      { store with market := expiredByIds requestIds now store.market }
  | .resubmit proposalId dto =>
      { store with
        market :=
          { store.market with
            proposals := store.market.proposals.update proposalId (resubmitted dto)
              (resubmitted_key dto) } }
  | .submit input =>
      { store with
        market :=
          { store.market with
            proposals := store.market.proposals.insert
              (submittedProposal input.requestId input.actorUserId input.dto) } }
  | .adjust input request now =>
      { store with
        market :=
          { store.market with
            requests := store.market.requests.update input.requestId
              (adjusted input.dto request now) } }
  | .invite invitations =>
      { store with market := { store.market with invitations := invitations } }
  | .select input request terms others now =>
      { store with
        market := expireInvitations request.id now
          (closedRequest request.id terms.proposal.id others store.market)
        jobs := store.jobs.insert (selectedJob request terms input.actorUserId)
        intents := store.intents.insert
          (depositIntent input.policy request terms input.actorUserId store.jobs.nextId) }

/-! ## Statements -/

section Statements

variable (bidding : Bidding) (now : Time)

/-- Expire the requests in a transaction, unless a row is locked. -/
def expireOrWait {φ α : Type} (requestIds : List RequestId) (phase : φ)
    (after : Progress φ α) : Progress φ α × Write :=
  if requestIds.any bidding.isRequestLocked then
    (.running phase, .nothing)
  else
    (after, .expire requestIds now)

def submissionCheck (dto : SubmitProposalDto) (request : ServiceRequest) :
    Except ApiError Unit := do
  guardThat (request.status = .open ∧ request.selectedProposalId = none)
    (.conflict "Service request is no longer open for proposals")
  guardThat (0 < submissionPrice dto) (.badRequest "price must be greater than zero")

/-- The unique key and the foreign key of a new proposal. -/
def creationGate (input : Submission) (store : Store) : Except ApiError Unit := do
  guardThat ((proposalOf? input.requestId input.actorUserId store.market).isNone = true)
    (.database "P2002")
  guardThat ((store.market.requests.find? input.requestId).isSome = true) (.database "P2003")

/-- The first statement of `markInvitationAccepted`. -/
def openedInvitations (requestId : RequestId) (providerUserId : UserId) (now : Time)
    (invitations : Table RequestInvitation) : Table RequestInvitation :=
  invitations.updateMany
    (fun invitation =>
      invitation.requestId = requestId && invitation.providerUserId = providerUserId &&
        invitation.openedAt.isNone)
    (openedInvitation now) (openedInvitation_key now)

/-- The second statement of `markInvitationAccepted`. -/
def acceptedInvitations (requestId : RequestId) (providerUserId : UserId) (now : Time)
    (invitations : Table RequestInvitation) : Table RequestInvitation :=
  invitations.updateMany
    (fun invitation =>
      invitation.requestId = requestId && invitation.providerUserId = providerUserId &&
        [.sent, .declined, .expired].contains invitation.status)
    (acceptedInvitation now) (acceptedInvitation_key now)

def Submission.next (input : Submission) :
    SubmissionPhase → Progress SubmissionPhase Proposal × Write
  | .called =>
      match submissionGate input.requestId input.actorUserId bidding.store with
      | .error error => (.failed error, .nothing)
      | .ok terms =>
          if isRequestPastExpiry terms.request now then
            (.running (.expiring terms.request.id), .nothing)
          else
            (.ofGate (fun _ => .running .permitted) (submissionCheck input.dto terms.request),
              .nothing)
  | .expiring requestId =>
      expireOrWait bidding now [requestId] (.expiring requestId)
        (.failed (.conflict "Service request is no longer open for proposals"))
  | .permitted =>
      match proposalOf? input.requestId input.actorUserId bidding.store.market with
      | some proposal => (.running (.rewriting proposal), .nothing)
      | none => (.running .creating, .nothing)
  | .rewriting proposal =>
      if bidding.isProposalLocked proposal.id then
        (.running (.rewriting proposal), .nothing)
      else
        match bidding.store.market.proposals.find? proposal.id with
        | none => (.failed (.database "P2025"), .nothing)
        | some row =>
            (.running (.written (resubmitted input.dto row)), .resubmit proposal.id input.dto)
  | .creating =>
      match creationGate input bidding.store with
      | .error error => (.failed error, .nothing)
      | .ok _ =>
          (.running (.written (submittedProposal input.requestId input.actorUserId input.dto
            bidding.store.market.proposals.nextId)), .submit input)
  | .written proposal =>
      (.running (.opened proposal), .invite (openedInvitations input.requestId
        input.actorUserId now bidding.store.market.invitations))
  | .opened proposal =>
      (.returned proposal, .invite (acceptedInvitations input.requestId input.actorUserId now
        bidding.store.market.invitations))

/-- What a selection does after it has read the request, when that is not past its
expiry. -/
def Selection.decide (input : Selection) (request : ServiceRequest) (requestJob : Option Job)
    (newest : Option PaymentIntent) : Progress SelectionPhase SelectionReply :=
  if request.selectedProposalId = none ∨ request.selectedProposalId = some input.proposalId then
    match request.selectedProposalId, requestJob with
    | some _, some job => .returned ⟨input.proposalId, job, newest, true⟩
    | _, _ =>
        if request.status = .open then
          .running (.selectable request)
        else
          .failed (.conflict "Service request is not open anymore")
  else
    .failed (.conflict "A proposal was already selected for this request")

def offerGate (request : ServiceRequest) (proposalId : ProposalId) (store : Store) :
    Except ApiError Proposal := do
  let proposal ← orThrow
    ((store.market.proposals.find? proposalId).filter fun proposal =>
      proposal.requestId = request.id)
    (.notFound "Proposal not found for this request")
  guardThat (proposal.status = .submitted ∨ proposal.status = .selected)
    (.conflict "Proposal cannot be selected in current status")
  pure proposal

def Selection.termsGate (input : Selection) (proposal : Proposal) (store : Store) :
    Except ApiError SelectionTerms := do
  let providerProfile ← orThrow (profileOf? proposal.providerId store.market)
    (.conflict "Selected provider profile does not exist")
  guardThat (providerProfile.isAvailable = true)
    (.conflict "Selected provider is currently unavailable")
  let split ← input.policy.computeDepositSplit proposal.price input.depositPercent
  pure ⟨proposal, providerProfile, split⟩

/-- The reads of the call together make the gate of the sequential service. -/
theorem selectionGate_eq (input : Selection) (request : ServiceRequest) (store : Store) :
    selectionGate input.policy request .open input.proposalId input.depositPercent store =
      (do
        let proposal ← offerGate request input.proposalId store
        input.termsGate proposal store) := by
  simp only [selectionGate, offerGate, Selection.termsGate, profileOf?, bind_assoc, pure_bind]
  rfl

def Selection.next (input : Selection) :
    SelectionPhase → Progress SelectionPhase SelectionReply × Write
  | .called =>
      (.ofGate (fun request => .running (.owned request))
        (ownedRequestGate input.requestId input.actorUserId bidding.store), .nothing)
  | .owned request =>
      (.running (.joined request (bidding.store.jobOfRequest? request.id)), .nothing)
  | .joined request requestJob =>
      if isRequestPastExpiry request now then
        (.running (.expiring request), .nothing)
      else
        (input.decide request requestJob
          (requestJob.bind fun job => bidding.store.newestIntent? job.id), .nothing)
  | .expiring request =>
      expireOrWait bidding now [request.id] (.expiring request)
        (.failed (.conflict "Service request is not open anymore"))
  | .selectable request =>
      (.ofGate (fun proposal => .running (.offered request proposal))
        (offerGate request input.proposalId bidding.store), .nothing)
  | .offered request proposal =>
      (.ofGate (fun terms => .running (.agreed request terms))
        (input.termsGate proposal bidding.store), .nothing)
  | .agreed request terms =>
      match bidding.store.jobOfRequest? request.id with
      | some job => (.running (.repeating request terms job), .nothing)
      | none => (.running (.unemployed request terms), .nothing)
  | .repeating request terms job =>
      (.running (.replying request
        ⟨terms.proposal.id, job, bidding.store.newestIntent? job.id, true⟩), .nothing)
  | .replying request reply =>
      (.returned reply,
        .invite (expireInvitations request.id now bidding.store.market).invitations)
  | .unemployed request terms =>
      (.running (.rejecting request terms
        ((bidding.store.market.proposals.findMany fun proposal =>
          proposal.requestId = request.id && proposal.id ≠ terms.proposal.id).map
            Proposal.id)), .nothing)
  | .rejecting request terms others =>
      if others.any bidding.isProposalLocked then
        (.running (.rejecting request terms others), .nothing)
      else
        (.running (.rejected request terms others), .nothing)
  | .rejected request terms others =>
      if bidding.isProposalLocked terms.proposal.id then
        (.running (.rejected request terms others), .nothing)
      else if (bidding.store.market.proposals.find? terms.proposal.id).isSome then
        (.running (.selected request terms others), .nothing)
      else
        (.failed (.database "P2025"), .nothing)
  | .selected request terms others =>
      if bidding.isRequestLocked request.id then
        (.running (.selected request terms others), .nothing)
      else if (bidding.store.market.requests.find? request.id).isSome then
        (.running (.closed request terms others), .nothing)
      else
        (.failed (.database "P2025"), .nothing)
  | .closed request terms others =>
      if bidding.store.admitsJob request.id terms.proposal.id then
        (.returned ⟨terms.proposal.id,
          selectedJob request terms input.actorUserId bidding.store.jobs.nextId,
          some (depositIntent input.policy request terms input.actorUserId
            bidding.store.jobs.nextId bidding.store.intents.nextId), false⟩,
          .select input request terms others now)
      else
        (.failed (.database "P2002"), .nothing)

def adjustmentCheck (request : ServiceRequest) (requestJob : Option Job) :
    Except ApiError Unit :=
  guardThat (request.status = .open ∧ request.selectedProposalId = none ∧
      requestJob.isNone = true)
    (.conflict "Only open requests without selected proposal can be adjusted")

def Adjustment.next (input : Adjustment) :
    AdjustmentPhase → Progress AdjustmentPhase ServiceRequest × Write
  | .called =>
      (.ofGate (fun request => .running (.owned request))
        (ownRequestGate "Only request owner can adjust this request" input.requestId
          input.actorUserId bidding.store), .nothing)
  | .owned request =>
      if isRequestPastExpiry request now then
        (.running (.expiring request), .nothing)
      else
        (.ofGate
          (fun _ =>
            if isChanged input.dto request then .running (.adjusting request)
            else .returned request)
          (adjustmentCheck request (bidding.store.jobOfRequest? request.id)), .nothing)
  | .expiring request =>
      expireOrWait bidding now [request.id] (.expiring request)
        (.failed (.conflict "Only open requests without selected proposal can be adjusted"))
  | .adjusting request =>
      if bidding.isRequestLocked input.requestId then
        (.running (.adjusting request), .nothing)
      else
        match bidding.store.market.requests.find? input.requestId with
        | none => (.failed (.database "P2025"), .nothing)
        | some row =>
            (.returned (adjusted input.dto request now row), .adjust input request now)

def nextExpiry : ExpiryPhase → Progress ExpiryPhase Nat × Write
  | .called =>
      let staleRequests :=
        bidding.store.market.requests.findMany (isRequestPastExpiry · now)
      if staleRequests = [] then
        (.returned 0, .nothing)
      else
        (.running (.expiring (staleRequests.map ServiceRequest.id)), .nothing)
  | .expiring requestIds =>
      expireOrWait bidding now requestIds (.expiring requestIds) (.returned requestIds.length)

/-- The next statement of a call; a call which has ended stays as it is. -/
def Call.next : Call → Call × Write
  | .submitProposal input (.running phase) =>
      let (progress, write) := input.next bidding now phase
      (.submitProposal input progress, write)
  | .selectProposal input (.running phase) =>
      let (progress, write) := input.next bidding now phase
      (.selectProposal input progress, write)
  | .update input (.running phase) =>
      let (progress, write) := input.next bidding now phase
      (.update input progress, write)
  | .expireStaleOpenRequests (.running phase) =>
      let (progress, write) := nextExpiry bidding now phase
      (.expireStaleOpenRequests progress, write)
  | ended => (ended, .nothing)

end Statements

/-! ## Runs -/

/-- The transaction of the call, if it is in one, is rolled back. -/
def Call.abort (error : ApiError) : Call → Call
  | .submitProposal input (.running _) => .submitProposal input (.failed error)
  | .selectProposal input (.running _) => .selectProposal input (.failed error)
  | .update input (.running _) => .update input (.failed error)
  | .expireStaleOpenRequests (.running _) => .expireStaleOpenRequests (.failed error)
  | ended => ended

/-- A new call, the next statement of a call, or the end of one; `others` stands for the
services which write users, categories and profiles. -/
inductive BiddingStep where
  | submitProposal (input : Submission)
  | selectProposal (input : Selection)
  | update (input : Adjustment)
  | expireStaleOpenRequests
  | advance (number : Nat) (now : Time)
  | abort (number : Nat) (error : ApiError)
  | create (expiryHours : EnvNumber) (actorUserId : UserId) (dto : CreateServiceRequestDto)
      (now : Time)
  | others (users : Table User) (categories : Table Category)
      (workerProfiles : Table WorkerProfile)

namespace Bidding

variable (bidding : Bidding)

def start (call : Call) : Bidding :=
  { bidding with calls := bidding.calls ++ [call] }

def advance (number : Nat) (now : Time) : Bidding :=
  match bidding.calls[number]? with
  | none => bidding
  | some call =>
      let (after, write) := call.next bidding now
      { store := write.apply bidding.store
        calls := bidding.calls.set number after }

def abort (number : Nat) (error : ApiError) : Bidding :=
  { bidding with calls := bidding.calls.modify number (Call.abort error) }

/-- No rows and no calls. -/
def initial : Bidding where
  store := emptyStore
  calls := []

end Bidding

def BiddingStep.perform (bidding : Bidding) : BiddingStep → Bidding
  | .submitProposal input => bidding.start (.submitProposal input (.running .called))
  | .selectProposal input => bidding.start (.selectProposal input (.running .called))
  | .update input => bidding.start (.update input (.running .called))
  | .expireStaleOpenRequests => bidding.start (.expireStaleOpenRequests (.running .called))
  | .advance number now => bidding.advance number now
  | .abort number error => bidding.abort number error
  | .create expiryHours actorUserId dto now =>
      { bidding with
        store := (Requests.create expiryHours actorUserId dto now bidding.store).state }
  | .others users categories workerProfiles =>
      { bidding with
        store :=
          { bidding.store with
            market :=
              { bidding.store.market with
                users := users
                categories := categories
                workerProfiles := workerProfiles } } }

/-- The database as a machine over the statements, in any order. -/
def negotiating : Machine Bidding BiddingStep where
  step := BiddingStep.perform

end Tchuno.Requests
