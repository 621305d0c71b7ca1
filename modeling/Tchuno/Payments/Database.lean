import Tchuno.Library.Script
import Tchuno.Payments.Gateway
import Tchuno.Payments.Ledger
import Tchuno.Payments.Support

/-!
# Statements of concurrent services

The services once more, statement by statement, as clients of a READ COMMITTED
database.  An `update` locks its row before it reads and rewrites it; a `create`
locks the identifier and the unique keys of the new row before it checks them.
Identifiers are made by the client, so a call carries those of the rows it creates.
-/

namespace Tchuno.Payments

open Tchuno.Library Tchuno.Library.Ecma

/-- The rows, keys and ranges which statements lock or read. -/
inductive Target where
  | job (jobId : JobId)
  | intent (intentId : IntentId)
  | transaction (transactionId : TransactionId)
  | transactionKey (idempotencyKey : String)
  | transactionReference (provider : PaymentProvider) (providerReference : String)
  | refund (refundRequestId : RefundId)
  | refundsOf (intentId : IntentId)
  | payout (payoutId : PayoutId)
  | event (eventId : Nat)
  | eventKey (provider : PaymentProvider) (externalEventId : Option String)
  | incident (incidentId : Nat)
  | incidentsOf (refundRequestId : RefundId)
  | intentsOf (jobId : JobId)
  | chargeOf (transactionId : TransactionId)
  | balanceOf (bucket : LedgerBalanceBucket) (intentId : Option IntentId)
  deriving DecidableEq

/-- A status that was applied to a transaction, with the event which reported it. -/
structure AppliedReport where
  event : Option (PaymentProvider × String)
  transactionId : TransactionId
  status : GatewayOperationStatus
  deriving DecidableEq

/-- The store with a history of the reports applied to it, which no statement reads. -/
structure Database extends Store where
  applied : List AppliedReport

/-- A service as a client of the database. -/
abbrev Procedure (α : Type) : Type :=
  Script Database Target ApiError α

namespace Procedure

/-! ## Statements -/

/-- `update` of the row a lookup finds: the row is locked, must exist and is
rewritten. -/
def update {ρ : Type} (target : Target) (find : Database → Option ρ) (change : ρ → ρ)
    (rewrite : Database → Database) : Procedure ρ := do
  .lock target
  let row ← .consult target fun database => orThrow (find database) (.database "P2025")
  .write rewrite
  pure (change row)

/-- `create` of a row with these identifiers and unique keys. -/
def create (keys : List Target) (target : Target) (admits : Database → Bool)
    (place : Database → Database) : Procedure Unit := do
  .lockAll keys
  .consult target fun database =>
    guardThat (admits database = true) (.database "P2002")
  .write place

def updateIntent (intentId : IntentId) (change : PaymentIntent → PaymentIntent)
    (keeps : ∀ row, Keyed.key (change row) = Keyed.key row := by intro _; exact id rfl) :
    Procedure PaymentIntent :=
  update (.intent intentId) (fun database => database.intents.find? intentId) change
    fun database => { database with intents := database.intents.update intentId change keeps }

def updateJob (jobId : JobId) (change : Job → Job)
    (keeps : ∀ row, Keyed.key (change row) = Keyed.key row := by intro _; exact id rfl) :
    Procedure Job :=
  update (.job jobId) (fun database => database.jobs.find? jobId) change
    fun database => { database with jobs := database.jobs.update jobId change keeps }

def updateRefund (refundRequestId : RefundId) (change : RefundRequest → RefundRequest)
    (keeps : ∀ row, Keyed.key (change row) = Keyed.key row := by intro _; exact id rfl) :
    Procedure RefundRequest :=
  update (.refund refundRequestId) (fun database => database.refunds.find? refundRequestId)
    change fun database =>
      { database with refunds := database.refunds.update refundRequestId change keeps }

def updatePayout (payoutId : PayoutId) (change : Payout → Payout)
    (keeps : ∀ row, Keyed.key (change row) = Keyed.key row := by intro _; exact id rfl) :
    Procedure Payout :=
  update (.payout payoutId) (fun database => database.payouts.find? payoutId) change
    fun database => { database with payouts := database.payouts.update payoutId change keeps }

def updateEvent (eventId : Nat) (change : PaymentEvent → PaymentEvent)
    (keeps : ∀ row, Keyed.key (change row) = Keyed.key row := by intro _; exact id rfl) :
    Procedure PaymentEvent :=
  update (.event eventId) (fun database => database.events.find? eventId) change
    fun database => { database with events := database.events.update eventId change keeps }

def updateIncident (incidentId : Nat) (change : OperationalIncident → OperationalIncident)
    (keeps : ∀ row, Keyed.key (change row) = Keyed.key row := by intro _; exact id rfl) :
    Procedure OperationalIncident :=
  update (.incident incidentId) (fun database => database.incidents.find? incidentId) change
    fun database =>
      { database with incidents := database.incidents.update incidentId change keeps }

/-- The identifier and the unique keys of a transaction. -/
def transactionKeys (row : PaymentTransaction) : List Target :=
  [.transaction row.id, .transactionKey row.idempotencyKey] ++
    (row.providerReference.map (Target.transactionReference row.provider)).toList

def createTransaction (row : PaymentTransaction) : Procedure Unit :=
  create (transactionKeys row) (.transactionKey row.idempotencyKey)
    (fun database => (database.transactions.find? row.id).isNone &&
      database.admitsTransaction row.idempotencyKey row.provider row.providerReference)
    fun database => { database with transactions := database.transactions.place row }

/-- `LedgerService.appendEntries`. -/
def appendEntries (entries : List LedgerEntry) : Procedure Unit :=
  .write fun database => { database with ledger := database.ledger ++ entries }

/-- `LedgerService.computeBucketNet` on the entries of an intent. -/
def computeBucketNet (bucket : LedgerBalanceBucket) (intentId : Option IntentId) :
    Procedure Int :=
  .select (.balanceOf bucket intentId) fun database =>
    Payments.computeBucketNet database.ledger bucket (ofIntent bucket.actorType intentId)

/-! ## The decision on a case -/

theorem decidedIncident_key (input : RefundDecisionInput) (incident : OperationalIncident)
    (decisionNote : String) (now : Time) (row : OperationalIncident) :
    Keyed.key
      ({ row with
        status := if input.refundStatus = .canceled then .canceled else .resolved
        resolutionNote := some decisionNote
        resolvedAt := incident.resolvedAt.or (some now) } : OperationalIncident) =
      Keyed.key row :=
  rfl

/-- `syncRefundCaseDecision`, inside the transaction of a decision. -/
def syncRefundCaseDecision (input : RefundDecisionInput) (now : Time) : Procedure Unit := do
  let found ← .select (.incidentsOf input.refundRequestId) fun database =>
    database.incidents.findFirst? fun incident =>
      incident.relatedRefundRequestId = some input.refundRequestId
  match found with
  | none => pure ()
  | some incident =>
      let decisionNote := (truthy (input.decisionNote.map trim)).getD
        (buildRefundDecisionFallback input.refundStatus)
      let _ ← updateIncident incident.id
        (fun row =>
          { row with
            status := if input.refundStatus = .canceled then .canceled else .resolved
            resolutionNote := some decisionNote
            resolvedAt := incident.resolvedAt.or (some now) })
        (decidedIncident_key input incident decisionNote now)
      .write fun database =>
        { database with
          incidentEvents := database.incidentEvents ++
            decisionEvents input decisionNote incident.id }

end Procedure

end Tchuno.Payments
