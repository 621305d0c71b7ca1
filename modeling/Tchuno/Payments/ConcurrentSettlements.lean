import Tchuno.Payments.Database
import Tchuno.Payments.Payouts
import Tchuno.Payments.Refunds

/-!
# Decisions on refunds and payouts by concurrent clients

The calls which settle a refund request or a payout, cut into their statements.  The
status of a row is read before the transaction and, except by a rejection and a
cancellation, once more inside; it is written without a condition.
-/

namespace Tchuno.Payments

open Tchuno.Library Tchuno.Library.Ecma

namespace Procedure

/-! ## Refund requests -/

/-- A request as a decision has read it, with the access its notification needs. -/
structure PendingRefund where
  refund : RefundRequest
  access : Except ApiError AccessibleJobFinancialRecord

def findPendingRefund (refundRequestId : RefundId) (actorUserId : UserId)
    (refusal : String) : Procedure PendingRefund :=
  .consult (.refund refundRequestId) fun database =>
    (pendingRefundGate refundRequestId refusal database.toStore).map fun refund =>
      ⟨refund, getAccessibleJobOrThrow refund.jobId ⟨actorUserId, some .admin⟩
        database.toStore⟩

def decideRefund (refundRequestId : RefundId) (change : RefundRequest → RefundRequest)
    (keeps : ∀ refund, Keyed.key (change refund) = Keyed.key refund)
    (decision : RefundDecisionInput) (now : Time) : Procedure RefundRequest :=
  .transaction do
    let _ ← updateRefund refundRequestId change keeps
    syncRefundCaseDecision decision now
    .consult (.refund refundRequestId) fun database =>
      orThrow (database.refunds.find? refundRequestId) (.database "P2025")

def cancelRefundRequest (refundRequestId : RefundId) (actor : IntentActorInput)
    (now : Time) : Procedure RefundRequest := do
  let terms ← .consult (.refund refundRequestId) fun database =>
    cancelRefundGate refundRequestId actor database.toStore
  decideRefund terms.refund.id (canceledRefund now) (canceledRefund_key now)
    { refundRequestId := terms.refund.id
      refundStatus := .canceled
      actorUserId := actor.userId
      actorName := resolveParticipantActorName terms.access actor.userId
      decisionNote := some "O pedido foi cancelado antes da decisão final da equipa."
      decisionTitle := "Pedido cancelado"
      closeTitle := "Caso cancelado" } now

def adminRejectRefund (actorUserId : UserId) (refundRequestId : RefundId)
    (dto : RejectRefundRequestDto) (now : Time) : Procedure RefundRequest := do
  let found ← findPendingRefund refundRequestId actorUserId
    "Only pending refund requests can be rejected"
  let updated ← decideRefund found.refund.id (rejectedRefund actorUserId dto now)
    (rejectedRefund_key actorUserId dto now)
    { refundRequestId := found.refund.id
      refundStatus := .failed
      actorUserId := actorUserId
      actorName := "Equipa de suporte"
      decisionNote := some dto.note
      decisionTitle := "Pedido recusado"
      closeTitle := "Caso encerrado" } now
  let _ ← .check found.access
  pure updated

/-! ## Processing a request -/

def getRemainingRefundableAmount (intentId : IntentId) : Procedure Int := do
  let intent ← .consult (.intent intentId) fun database =>
    orThrow (database.intents.find? intentId) (.notFound "Payment intent not found")
  let refunded ← .select (.refundsOf intentId) fun database =>
    database.refundSum intentId [.succeeded]
  pure (max 0 (intent.amount - refunded))

/-- The pending request with its intent, which must be paid. -/
def findRefundOrder (refundRequestId : RefundId) : Procedure RefundOrder :=
  .consult (.refund refundRequestId) fun database => do
    let refund ← pendingRefundGate refundRequestId
      "Only pending refund requests can be approved" database.toStore
    let intent ← orThrow (database.intents.find? refund.paymentIntentId) (.database "P2025")
    guardThat (intent.status.isPaid = true)
      (.conflict "Only paid payment intents can be refunded")
    pure ⟨refund, intent⟩

def appendRefundLedgerEntries (intent : PaymentIntent) (transactionId : TransactionId)
    (amount : Int) (shares : RefundShares) (actorUserId : UserId) : Procedure Unit := do
  let platformReserved ← computeBucketNet .platformReserved (some intent.id)
  .require (shares.platformPart ≤ platformReserved)
    (.conflict "Insufficient platform reserved balance for refund settlement")
  let providerHeld ← computeBucketNet .providerHeld (some intent.id)
  let providerAvailable ← computeBucketNet .providerAvailable (some intent.id)
  .require (shares.providerPart ≤ providerHeld + providerAvailable)
    (.conflict "Insufficient provider balance for refund")
  appendEntries (refundEntries intent transactionId amount shares
    ⟨platformReserved, providerHeld, providerAvailable⟩ actorUserId)

/-- What is written once the gateway has answered. -/
def recordRefund (order : RefundOrder) (record : RefundRequest) (actorUserId : UserId)
    (decisionNote : Option String) (answer : GatewayResult) (transactionId : TransactionId)
    (now : Time) : Procedure RefundRequest := do
  let transaction := refundRow record answer now transactionId
  createTransaction transaction
  let _ ← updateRefund record.id (settledRefund transaction answer.status)
  syncRefundCaseDecision
    { refundRequestId := record.id
      refundStatus := nextRefundStatus answer.status
      actorUserId := actorUserId
      actorName := "Equipa de suporte"
      decisionNote := (truthy (decisionNote.map trim)).or
        ((truthy (transaction.failureReason.map trim)).or (truthy record.decisionNote))
      decisionTitle := refundDecisionTitle (nextRefundStatus answer.status)
      closeTitle := "Caso encerrado" } now
  if transaction.status = .succeeded then
    appendRefundLedgerEntries order.intent transaction.id record.amount
      (refundShares order.intent order.refund.amount) actorUserId
  else
    pure ()
  .consult (.refund record.id) fun database =>
    orThrow (database.refunds.find? record.id) (.database "P2025")

/-- The database transaction of a refund; the gateway is asked after the first
update. -/
def settleRefund (order : RefundOrder) (actorUserId : UserId)
    (decisionNote : Option String) (answer : GatewayResult) (transactionId : TransactionId)
    (now : Time) : Procedure RefundRequest := do
  let record ← .consult (.refund order.refund.id) fun database =>
    pendingRefundGate order.refund.id "Only pending refund requests can be approved"
      database.toStore
  let _ ← updateRefund record.id (approvedRefund record actorUserId decisionNote)
    (approvedRefund_key record actorUserId decisionNote)
  recordRefund order record actorUserId decisionNote answer transactionId now

def processRefundRequest (refundRequestId : RefundId) (actorUserId : UserId)
    (decisionNote : Option String) (answer : GatewayResult) (transactionId : TransactionId)
    (now : Time) : Procedure RefundRequest := do
  let order ← findRefundOrder refundRequestId
  let remainingRefundable ← getRemainingRefundableAmount order.intent.id
  .require (order.refund.amount ≤ remainingRefundable)
    (.badRequest "Refund amount exceeds refundable balance")
  .transaction (settleRefund order actorUserId decisionNote answer transactionId now)

def adminApproveRefund (actorUserId : UserId) (refundRequestId : RefundId)
    (decisionNote : Option String) (answer : GatewayResult) (transactionId : TransactionId)
    (now : Time) : Procedure RefundRequest := do
  let found ← findPendingRefund refundRequestId actorUserId
    "Only pending refund requests can be approved"
  let processed ← processRefundRequest found.refund.id actorUserId
    (truthy (decisionNote.map trim)) answer transactionId now
  let _ ← .check found.access
  pure processed

/-! ## Payouts -/

def findPayoutOrThrow (payoutId : PayoutId) : Procedure Payout :=
  .consult (.payout payoutId) fun database =>
    orThrow (database.payouts.find? payoutId) (.database "P2025")

def adminApprovePayout (actorUserId : UserId) (payoutId : PayoutId) : Procedure Payout := do
  let payout ← .consult (.payout payoutId) fun database =>
    payoutGate payoutId .pending "Only pending payouts can be approved" database.toStore
  .transaction (updatePayout payout.id (approvedPayout actorUserId)
    (approvedPayout_key actorUserId))

/-- The transaction which carries the key of a payout. -/
def payoutTransaction? (payoutId : PayoutId) : Procedure (Option PaymentTransaction) :=
  .select (.transactionKey (payoutIdempotencyKey payoutId)) fun database =>
    database.transactionByKey? (payoutIdempotencyKey payoutId)

/-- What is written when no transaction carries the payout's key yet. -/
def recordPayout (payoutRecord : Payout) (actorUserId : UserId) (dto : ProcessPayoutDto)
    (answer : GatewayResult) (transactionId : TransactionId) (now : Time) :
    Procedure Payout := do
  let transaction := payoutRow payoutRecord dto answer now transactionId
  createTransaction transaction
  let updatedPayout ← updatePayout payoutRecord.id
    (settledPayout payoutRecord actorUserId transaction answer.status)
  if nextPayoutStatus answer.status = .paid then do
    let availableBalance ← computeBucketNet .providerAvailable payoutRecord.paymentIntentId
    .require (updatedPayout.amount ≤ availableBalance)
      (.conflict "Payout amount exceeds currently available provider balance")
    appendEntries (payoutEntries updatedPayout transaction.id actorUserId)
    pure updatedPayout
  else
    pure updatedPayout

/-- The database transaction of a payout, after the gateway has answered. -/
def settlePayout (payoutId : PayoutId) (actorUserId : UserId) (dto : ProcessPayoutDto)
    (answer : GatewayResult) (transactionId : TransactionId) (now : Time) :
    Procedure Payout := do
  let payoutRecord ← .consult (.payout payoutId) fun database =>
    payoutGate payoutId .approved "Only approved payouts can be processed" database.toStore
  let duplicateTransaction ← payoutTransaction? payoutId
  if duplicateTransaction.isSome then
    findPayoutOrThrow payoutRecord.id
  else
    recordPayout payoutRecord actorUserId dto answer transactionId now

def adminProcessPayout (actorUserId : UserId) (payoutId : PayoutId)
    (dto : ProcessPayoutDto) (answer : GatewayResult) (transactionId : TransactionId)
    (now : Time) : Procedure Payout := do
  let payout ← .consult (.payout payoutId) fun database =>
    payoutGate payoutId .approved "Only approved payouts can be processed" database.toStore
  let existingTransaction ← payoutTransaction? payout.id
  if existingTransaction.isSome then
    findPayoutOrThrow payout.id
  else
    .transaction (settlePayout payout.id actorUserId dto answer transactionId now)

end Procedure

/-! ## Calls -/

/-- A call which decides on a refund request or a payout, with all its inputs. -/
inductive SettlementCall where
  | adminApproveRefund (actorUserId : UserId) (refundRequestId : RefundId)
      (decisionNote : Option String) (answer : GatewayResult)
      (transactionId : TransactionId) (now : Time)
  | adminRejectRefund (actorUserId : UserId) (refundRequestId : RefundId)
      (dto : RejectRefundRequestDto) (now : Time)
  | cancelRefundRequest (refundRequestId : RefundId) (actor : IntentActorInput) (now : Time)
  | adminApprovePayout (actorUserId : UserId) (payoutId : PayoutId)
  | adminProcessPayout (actorUserId : UserId) (payoutId : PayoutId) (dto : ProcessPayoutDto)
      (answer : GatewayResult) (transactionId : TransactionId) (now : Time)

/-- What a call may return. -/
inductive SettlementReply where
  | refund (reply : RefundRequest)
  | payout (reply : Payout)

def SettlementCall.procedure : SettlementCall → Procedure SettlementReply
  | .adminApproveRefund actorUserId refundRequestId decisionNote answer transactionId now => do
      let reply ← Procedure.adminApproveRefund actorUserId refundRequestId decisionNote answer
        transactionId now
      pure (.refund reply)
  | .adminRejectRefund actorUserId refundRequestId dto now => do
      let reply ← Procedure.adminRejectRefund actorUserId refundRequestId dto now
      pure (.refund reply)
  | .cancelRefundRequest refundRequestId actor now => do
      let reply ← Procedure.cancelRefundRequest refundRequestId actor now
      pure (.refund reply)
  | .adminApprovePayout actorUserId payoutId => do
      let reply ← Procedure.adminApprovePayout actorUserId payoutId
      pure (.payout reply)
  | .adminProcessPayout actorUserId payoutId dto answer transactionId now => do
      let reply ← Procedure.adminProcessPayout actorUserId payoutId dto answer transactionId
        now
      pure (.payout reply)

end Tchuno.Payments
