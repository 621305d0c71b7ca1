import Tchuno.Library.Action
import Tchuno.Library.Json
import Tchuno.Library.Table

/-!
# The tables behind the payments services

Rows and enumerations follow the Prisma schema.  Identifiers are serial
numbers, instants are milliseconds, and a table lists its rows newest first, so
`orderBy: [createdAt desc, id desc]` is the order of the list.
-/

namespace Tchuno.Payments

open Tchuno.Library

/-- Milliseconds since the epoch. -/
abbrev Time := Int

abbrev UserId := Nat
abbrev JobId := Nat
abbrev IntentId := Nat
abbrev TransactionId := Nat
abbrev RefundId := Nat
abbrev PayoutId := Nat
abbrev RequestId := Nat
abbrev ProposalId := Nat

/-- The largest value of an `Int` column. -/
def columnMax : Int := 2147483647

/-! ## Enumerations -/

inductive PaymentProvider where
  | internal | mpesa | emola | mkesh | bankTransfer | manual
  deriving DecidableEq, Repr

def PaymentProvider.name : PaymentProvider → String
  | .internal => "INTERNAL"
  | .mpesa => "MPESA"
  | .emola => "EMOLA"
  | .mkesh => "MKESH"
  | .bankTransfer => "BANK_TRANSFER"
  | .manual => "MANUAL"

inductive PaymentIntentStatus where
  | created | awaitingPayment | paidPartial | pendingConfirmation
  | succeeded | failed | expired | canceled
  deriving DecidableEq, Repr

inductive TransactionType where
  | charge | payout | refund | reversal | adjustment
  deriving DecidableEq, Repr

inductive TransactionStatus where
  | pending | processing | succeeded | failed | reversed | canceled
  deriving DecidableEq, Repr

inductive LedgerEntryType where
  | customerCharge | platformFeeReserved | providerBalanceHeld
  | providerBalanceReleased | providerPayout | customerRefund | reversal
  | adminAdjustment
  deriving DecidableEq, Repr

inductive LedgerDirection where
  | debit | credit
  deriving DecidableEq, Repr

inductive LedgerBalanceBucket where
  | customerExternal | platformReserved | platformAvailable
  | providerHeld | providerAvailable | providerPaidOut
  deriving DecidableEq, Repr

inductive PaymentActorType where
  | customer | provider | platform | system | admin
  deriving DecidableEq, Repr

inductive PayoutStatus where
  | pending | approved | processing | paid | failed | canceled
  deriving DecidableEq, Repr

inductive RefundStatus where
  | pending | approved | processing | succeeded | failed | canceled
  deriving DecidableEq, Repr

inductive JobStatus where
  | requested | accepted | inProgress | completed | canceled
  deriving DecidableEq, Repr

def JobStatus.name : JobStatus → String
  | .requested => "REQUESTED"
  | .accepted => "ACCEPTED"
  | .inProgress => "IN_PROGRESS"
  | .completed => "COMPLETED"
  | .canceled => "CANCELED"

inductive JobPricingMode where
  | fixedPrice | quoteRequest
  deriving DecidableEq, Repr

def JobPricingMode.name : JobPricingMode → String
  | .fixedPrice => "FIXED_PRICE"
  | .quoteRequest => "QUOTE_REQUEST"

inductive ServiceRequestStatus where
  | open | closed | expired
  deriving DecidableEq, Repr

inductive ProposalStatus where
  | submitted | selected | rejected
  deriving DecidableEq, Repr

inductive RequestInvitationStatus where
  | sent | accepted | declined | expired
  deriving DecidableEq, Repr

inductive OperationalIncidentSource where
  | support | refundDispute | trustSafety | platform
  deriving DecidableEq, Repr

inductive OperationalIncidentSeverity where
  | low | medium | high | critical
  deriving DecidableEq, Repr

inductive OperationalIncidentStatus where
  | open | investigating | mitigating | monitoring | resolved | canceled
  deriving DecidableEq, Repr

inductive OperationalIncidentEventType where
  | caseOpened | evidenceAdded | ownerAssigned | statusChanged | slaUpdated
  | decisionRecorded | caseClosed
  deriving DecidableEq, Repr

inductive OperationalIncidentEventVisibility where
  | internal | participants
  deriving DecidableEq, Repr

inductive AppRole where
  | guest | customer | provider | admin | supportAdmin | opsAdmin | superAdmin
  deriving DecidableEq, Repr

/-! ## Rows of the marketplace -/

structure User where
  id : UserId
  email : String
  name : Option String

structure WorkerProfile where
  id : Nat
  userId : UserId
  isAvailable : Bool

structure Category where
  id : Nat
  isActive : Bool

structure ServiceRequest where
  id : RequestId
  customerId : UserId
  categoryId : Nat
  title : String
  description : String
  status : ServiceRequestStatus
  selectedProposalId : Option ProposalId
  expiresAt : Time
  location : Option String := none
  lastCustomerEditAt : Option Time := none

structure Proposal where
  id : ProposalId
  requestId : RequestId
  providerId : UserId
  price : Int
  comment : Option String
  status : ProposalStatus
  price_le : price ≤ columnMax

structure RequestInvitation where
  id : Nat
  requestId : RequestId
  providerUserId : UserId
  status : RequestInvitationStatus
  openedAt : Option Time
  respondedAt : Option Time
  expiresAt : Option Time

instance : Keyed User := ⟨User.id⟩
instance : Keyed WorkerProfile := ⟨WorkerProfile.id⟩
instance : Keyed Category := ⟨Category.id⟩
instance : Keyed ServiceRequest := ⟨ServiceRequest.id⟩
instance : Keyed Proposal := ⟨Proposal.id⟩
instance : Keyed RequestInvitation := ⟨RequestInvitation.id⟩

/-- The tables other services write; the payments services only read them,
apart from `selectProposal`. -/
structure Marketplace where
  users : Table User
  workerProfiles : Table WorkerProfile
  requests : Table ServiceRequest
  proposals : Table Proposal
  invitations : Table RequestInvitation
  categories : Table Category := .empty

/-! ## Rows of jobs and payments -/

structure Job where
  id : JobId
  clientId : UserId
  customerId : Option UserId
  providerId : Option UserId
  workerProfileId : Nat
  categoryId : Nat
  requestId : Option RequestId
  proposalId : Option ProposalId
  agreedPrice : Option Int
  pricingMode : JobPricingMode
  title : String
  description : String
  budget : Option Int
  quotedAmount : Option Int
  quoteMessage : Option String
  status : JobStatus
  acceptedAt : Option Time
  startedAt : Option Time
  completedAt : Option Time
  canceledAt : Option Time
  canceledBy : Option UserId
  cancelReason : Option String
  contactUnlockedAt : Option Time
  agreedPrice_le : ∀ price ∈ agreedPrice, price ≤ columnMax
  budget_le : ∀ amount ∈ budget, amount ≤ columnMax

structure PaymentIntent where
  id : IntentId
  jobId : JobId
  customerId : UserId
  providerUserId : Option UserId
  amount : Int
  currency : String
  platformFeeAmount : Int
  providerNetAmount : Int
  status : PaymentIntentStatus
  provider : PaymentProvider
  expiresAt : Option Time
  acceptedQuoteSnapshot : Option Int
  metadata : Option Json

structure PaymentTransaction where
  id : TransactionId
  paymentIntentId : Option IntentId
  type : TransactionType
  status : TransactionStatus
  provider : PaymentProvider
  providerReference : Option String
  idempotencyKey : String
  requestedAmount : Int
  confirmedAmount : Option Int
  currency : String
  providerPayload : Option Json
  failureReason : Option String
  processedAt : Option Time
  updatedAt : Time

structure LedgerEntry where
  jobId : Option JobId
  paymentIntentId : Option IntentId
  transactionId : Option TransactionId
  actorType : PaymentActorType
  entryType : LedgerEntryType
  amount : Int
  currency : String
  direction : LedgerDirection
  balanceBucket : LedgerBalanceBucket
  description : String
  createdByUserId : Option UserId
  deriving DecidableEq, Repr

structure Payout where
  id : PayoutId
  providerUserId : UserId
  jobId : Option JobId
  paymentIntentId : Option IntentId
  amount : Int
  currency : String
  status : PayoutStatus
  provider : PaymentProvider
  providerReference : Option String
  requestedByUserId : Option UserId
  approvedByUserId : Option UserId
  processedAt : Option Time
  failureReason : Option String

structure RefundRequest where
  id : RefundId
  jobId : JobId
  paymentIntentId : IntentId
  transactionId : Option TransactionId
  requestedByUserId : UserId
  approvedByUserId : Option UserId
  amount : Int
  currency : String
  reason : String
  evidenceItems : List String
  decisionNote : Option String
  status : RefundStatus
  provider : PaymentProvider
  providerReference : Option String
  processedAt : Option Time
  failureReason : Option String

structure PaymentEvent where
  id : Nat
  provider : PaymentProvider
  eventType : String
  externalEventId : Option String
  providerReference : Option String
  paymentIntentId : Option IntentId
  transactionId : Option TransactionId
  payload : Json
  signatureValid : Bool
  processed : Bool
  processedAt : Option Time

structure OperationalIncident where
  id : Nat
  title : String
  summary : String
  source : OperationalIncidentSource
  severity : OperationalIncidentSeverity
  status : OperationalIncidentStatus
  baseSlaHours : Int
  slaTargetAt : Time
  impactedArea : Option String
  customerImpact : Option String
  evidenceItems : List String
  resolutionNote : Option String
  createdByUserId : UserId
  ownerAdminUserId : Option UserId
  relatedJobId : Option JobId
  relatedRefundRequestId : Option RefundId
  detectedAt : Time
  assumedAt : Option Time
  resolvedAt : Option Time

structure OperationalIncidentEvent where
  incidentId : Nat
  eventType : OperationalIncidentEventType
  visibility : OperationalIncidentEventVisibility
  title : String
  description : String
  actorUserId : Option UserId
  actorName : Option String

instance : Keyed Job := ⟨Job.id⟩
instance : Keyed PaymentIntent := ⟨PaymentIntent.id⟩
instance : Keyed PaymentTransaction := ⟨PaymentTransaction.id⟩
instance : Keyed Payout := ⟨Payout.id⟩
instance : Keyed RefundRequest := ⟨RefundRequest.id⟩
instance : Keyed PaymentEvent := ⟨PaymentEvent.id⟩
instance : Keyed OperationalIncident := ⟨OperationalIncident.id⟩

@[simp] theorem key_job (job : Job) : Keyed.key job = job.id := rfl
@[simp] theorem key_intent (intent : PaymentIntent) : Keyed.key intent = intent.id := rfl
@[simp] theorem key_transaction (transaction : PaymentTransaction) :
    Keyed.key transaction = transaction.id := rfl
@[simp] theorem key_payout (payout : Payout) : Keyed.key payout = payout.id := rfl
@[simp] theorem key_refund (refund : RefundRequest) : Keyed.key refund = refund.id := rfl

/-- The tables of jobs and money.  The ledger is in order of insertion. -/
structure Books where
  jobs : Table Job
  intents : Table PaymentIntent
  transactions : Table PaymentTransaction
  ledger : List LedgerEntry
  refunds : Table RefundRequest
  payouts : Table Payout

/-- The database, as far as these services use it. -/
structure Store extends Books where
  market : Marketplace
  events : Table PaymentEvent
  incidents : Table OperationalIncident
  incidentEvents : List OperationalIncidentEvent

/-- Before the first proposal is selected there is no job and no payment. -/
def Books.initial : Books where
  jobs := .empty
  intents := .empty
  transactions := .empty
  ledger := []
  refunds := .empty
  payouts := .empty

def Store.initial (market : Marketplace) : Store where
  toBooks := .initial
  market := market
  events := .empty
  incidents := .empty
  incidentEvents := []

/-! ## Errors and external calls -/

/-- The exceptions the services throw, with their messages; `database` carries
a Prisma error code. -/
inductive ApiError where
  | notFound (message : String)
  | forbidden (message : String)
  | conflict (message : String)
  | badRequest (message : String)
  | database (code : String)
  deriving DecidableEq, Repr

/-- Requests sent to a payment gateway. -/
inductive GatewayCall where
  | requestCharge (adapter : PaymentProvider) (idempotencyKey : String)
      (amount : Int) (currency : String) (customerId : UserId) (jobId : JobId)
  | requestRefund (adapter : PaymentProvider) (idempotencyKey : String)
      (amount : Int) (currency : String)
  | requestPayout (adapter : PaymentProvider) (idempotencyKey : String)
      (amount : Int) (currency : String) (providerUserId : UserId)
  | queryTransactionStatus (adapter : PaymentProvider) (providerReference : String)
  deriving DecidableEq, Repr

/-- The idempotency key of a call which asks the gateway to move money. -/
def GatewayCall.moneyKey? : GatewayCall → Option String
  | .requestCharge _ key .. => some key
  | .requestRefund _ key .. => some key
  | .requestPayout _ key .. => some key
  | .queryTransactionStatus .. => none

/-- An operation of the services on the store. -/
abbrev Service (α : Type) : Type :=
  Action Store GatewayCall ApiError α

end Tchuno.Payments
