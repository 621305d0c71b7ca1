import Tchuno.Library.References
import Tchuno.Payments.Gateway

/-!
# Deleting a user

The admin service deletes one row, and the database follows the foreign keys which lead to
it.  Each table has one definition for the rows that go (`onDelete: Cascade`) and one for
the references that are cleared in the rows that stay (`onDelete: SetNull`).
-/

namespace Tchuno.AdminOps

open Tchuno.Library Tchuno.Payments

/-! ## Rows which go -/

section Cascade

variable (store : Store) (userId : UserId)

def goesWorkerProfile (profile : WorkerProfile) : Bool :=
  profile.userId = userId

def goesRequest (request : ServiceRequest) : Bool :=
  request.customerId = userId

def goesProposal (proposal : Proposal) : Bool :=
  proposal.providerId = userId ||
    store.market.requests.leadsTo (goesRequest userId) (some proposal.requestId)

def goesInvitation (invitation : RequestInvitation) : Bool :=
  invitation.providerUserId = userId ||
    store.market.requests.leadsTo (goesRequest userId) (some invitation.requestId)

def goesJob (job : Job) : Bool :=
  job.clientId = userId ||
    store.market.workerProfiles.leadsTo (goesWorkerProfile userId) (some job.workerProfileId)

def goesIntent (intent : PaymentIntent) : Bool :=
  intent.customerId = userId ||
    store.jobs.leadsTo (goesJob store userId) (some intent.jobId)

def goesRefund (refund : RefundRequest) : Bool :=
  refund.requestedByUserId = userId ||
    store.jobs.leadsTo (goesJob store userId) (some refund.jobId) ||
    store.intents.leadsTo (goesIntent store userId) (some refund.paymentIntentId)

def goesPayout (payout : Payout) : Bool :=
  payout.providerUserId = userId

def goesIncident (incident : OperationalIncident) : Bool :=
  incident.createdByUserId = userId

def goesIncidentEvent (event : OperationalIncidentEvent) : Bool :=
  store.incidents.leadsTo (goesIncident userId) (some event.incidentId)

/-! ## References which are cleared -/

/-- A reference to the user itself. -/
def clearUser (reference : Option UserId) : Option UserId :=
  if reference = some userId then none else reference

def clearJob (reference : Option JobId) : Option JobId :=
  store.jobs.setNull (goesJob store userId) reference

def clearIntent (reference : Option IntentId) : Option IntentId :=
  store.intents.setNull (goesIntent store userId) reference

def clearProposal (reference : Option ProposalId) : Option ProposalId :=
  store.market.proposals.setNull (goesProposal store userId) reference

def clearedRequest (request : ServiceRequest) : ServiceRequest :=
  { request with selectedProposalId := clearProposal store userId request.selectedProposalId }

def clearedJob (job : Job) : Job :=
  { job with
    customerId := clearUser userId job.customerId
    providerId := clearUser userId job.providerId
    requestId := store.market.requests.setNull (goesRequest userId) job.requestId
    proposalId := clearProposal store userId job.proposalId }

def clearedIntent (intent : PaymentIntent) : PaymentIntent :=
  { intent with providerUserId := clearUser userId intent.providerUserId }

def clearedTransaction (transaction : PaymentTransaction) : PaymentTransaction :=
  { transaction with
    paymentIntentId := clearIntent store userId transaction.paymentIntentId }

def clearedEntry (entry : LedgerEntry) : LedgerEntry :=
  { entry with
    jobId := clearJob store userId entry.jobId
    paymentIntentId := clearIntent store userId entry.paymentIntentId
    createdByUserId := clearUser userId entry.createdByUserId }

def clearedPayout (payout : Payout) : Payout :=
  { payout with
    jobId := clearJob store userId payout.jobId
    paymentIntentId := clearIntent store userId payout.paymentIntentId
    requestedByUserId := clearUser userId payout.requestedByUserId
    approvedByUserId := clearUser userId payout.approvedByUserId }

def clearedRefund (refund : RefundRequest) : RefundRequest :=
  { refund with approvedByUserId := clearUser userId refund.approvedByUserId }

def clearedPaymentEvent (event : PaymentEvent) : PaymentEvent :=
  { event with paymentIntentId := clearIntent store userId event.paymentIntentId }

def clearedIncident (incident : OperationalIncident) : OperationalIncident :=
  { incident with
    ownerAdminUserId := clearUser userId incident.ownerAdminUserId
    relatedJobId := clearJob store userId incident.relatedJobId
    relatedRefundRequestId :=
      store.refunds.setNull (goesRefund store userId) incident.relatedRefundRequestId }

/-! ## The database after the deletion -/

/-- The rows which go are removed, and the references of the others are cleared. -/
def cascaded {ρ : Type} [Keyed ρ] (table : Table ρ) (goes : ρ → Bool) (cleared : ρ → ρ)
    (keeps : ∀ row, Keyed.key (cleared row) = Keyed.key row := by intro _; exact id rfl) :
    Table ρ :=
  (table.deleteMany goes).updateMany (fun _ => true) cleared keeps

def cascadedMarket : Marketplace where
  users := store.market.users.deleteMany fun user => user.id = userId
  workerProfiles := store.market.workerProfiles.deleteMany (goesWorkerProfile userId)
  requests :=
    cascaded store.market.requests (goesRequest userId) (clearedRequest store userId)
  proposals := store.market.proposals.deleteMany (goesProposal store userId)
  invitations := store.market.invitations.deleteMany (goesInvitation store userId)
  categories := store.market.categories

def cascadedBooks : Books where
  jobs := cascaded store.jobs (goesJob store userId) (clearedJob store userId)
  intents := cascaded store.intents (goesIntent store userId) (clearedIntent userId)
  transactions :=
    store.transactions.updateMany (fun _ => true) (clearedTransaction store userId)
  ledger := store.ledger.map (clearedEntry store userId)
  refunds := cascaded store.refunds (goesRefund store userId) (clearedRefund userId)
  payouts := cascaded store.payouts (goesPayout userId) (clearedPayout store userId)

/-- `DELETE FROM "User" WHERE id = …`. -/
def cascadedStore : Store where
  toBooks := cascadedBooks store userId
  market := cascadedMarket store userId
  events := store.events.updateMany (fun _ => true) (clearedPaymentEvent store userId)
  incidents :=
    cascaded store.incidents (goesIncident userId) (clearedIncident store userId)
  incidentEvents :=
    store.incidentEvents.filter fun event => !goesIncidentEvent store userId event

end Cascade

/-! ## The operation -/

structure DeletedUser where
  id : UserId
  deleted : Bool

def deleteUserGate (targetUserId actorUserId : UserId) (store : Store) :
    Except ApiError User := do
  guardThat (targetUserId ≠ actorUserId)
    (.badRequest "Não podes apagar a tua própria conta administrativa.")
  orThrow (store.market.users.find? targetUserId) (.notFound "Utilizador não encontrado.")

def deleteUser (targetUserId actorUserId : UserId) : Service DeletedUser := do
  let existing ← .consult (deleteUserGate targetUserId actorUserId)
  .alter fun store => cascadedStore store existing.id
  pure ⟨existing.id, true⟩

end Tchuno.AdminOps
