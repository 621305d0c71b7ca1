import Tchuno.Payments.Gateway

/-!
# Dispute cases

The two functions of the support service which the refund operations call
inside their database transactions: one opens the case of a refund request, the
other records the decision in it.
-/

namespace Tchuno.Payments

open Tchuno.Library Tchuno.Library.Ecma

/-- Trimmed, non-empty, first occurrences only, at most twelve. -/
def normalizeEvidenceItems (items : List String) : List String :=
  (distinctNonEmpty (items.map trim)).take 12

def buildSlaTargetAt (detectedAt : Time) (baseSlaHours : Int) : Time :=
  detectedAt + baseSlaHours * 60 * 60 * 1000

def OperationalIncidentStatus.isClosed (status : OperationalIncidentStatus) : Bool :=
  status = .resolved || status = .canceled

def createEvents (events : List OperationalIncidentEvent) : Service Unit :=
  .alter fun store => { store with incidentEvents := store.incidentEvents ++ events }

structure RefundDisputeInput where
  refundRequestId : RefundId
  jobId : JobId
  createdByUserId : UserId
  actorName : String
  amount : Int
  currency : String
  reason : String
  evidenceItems : List String

/-- The case opened for a refund request. -/
def disputeIncident (input : RefundDisputeInput) (now : Time) (id : Nat) :
    OperationalIncident where
  id := id
  title := "Disputa financeira " ++
    String.ofList ((renderId input.refundRequestId).toList.take 8)
  summary := trim input.reason ++ "\n\nValor pedido: " ++ toString input.amount ++ " " ++
    input.currency ++ "."
  source := .refundDispute
  severity := if (normalizeEvidenceItems input.evidenceItems).isEmpty then .medium else .high
  status := .open
  baseSlaHours := 24
  slaTargetAt := buildSlaTargetAt now 24
  impactedArea := some "Pagamentos e suporte"
  customerImpact :=
    some "A decisão fica visível no histórico do job assim que a análise terminar."
  evidenceItems := normalizeEvidenceItems input.evidenceItems
  resolutionNote := none
  createdByUserId := input.createdByUserId
  ownerAdminUserId := none
  relatedJobId := some input.jobId
  relatedRefundRequestId := some input.refundRequestId
  detectedAt := now
  assumedAt := none
  resolvedAt := none

def disputeEvents (input : RefundDisputeInput) (incidentId : Nat) :
    List OperationalIncidentEvent :=
  let evidenceItems := normalizeEvidenceItems input.evidenceItems
  let event (eventType : OperationalIncidentEventType)
      (visibility : OperationalIncidentEventVisibility) (title description : String) :
      OperationalIncidentEvent :=
    ⟨incidentId, eventType, visibility, title, description,
      some input.createdByUserId, some input.actorName⟩
  [event .caseOpened .internal "Disputa criada"
      (input.actorName ++ " abriu uma disputa de " ++ toString input.amount ++ " " ++
        input.currency ++ "."),
    event .caseOpened .participants "Caso aberto"
      (input.actorName ++ " abriu o caso e a equipa vai analisar a disputa.")] ++
    if evidenceItems.isEmpty then
      []
    else
      [event .evidenceAdded .internal "Evidências anexadas"
          (toString evidenceItems.length ++
            " evidência(s) enviada(s) na abertura do caso."),
        event .evidenceAdded .participants "Evidências anexadas"
          (toString evidenceItems.length ++ " evidência(s) ficaram registadas no caso.")]

/-- Reuse the newest open case of the refund request, or open one. -/
def ensureRefundDisputeCase (input : RefundDisputeInput) (now : Time) :
    Service OperationalIncident := do
  let existing ← .inspect fun store => store.incidents.findFirst? fun incident =>
    incident.relatedRefundRequestId = some input.refundRequestId &&
      !incident.status.isClosed
  match existing with
  | some incident => pure incident
  | none =>
      let created ← .inspect fun store => disputeIncident input now store.incidents.nextId
      .alter fun store =>
        { store with incidents := store.incidents.insert (disputeIncident input now) }
      createEvents (disputeEvents input created.id)
      pure created

def buildRefundDecisionFallback : RefundStatus → String
  | .succeeded => "Pedido aprovado e reembolso concluído."
  | .processing => "Pedido aprovado e reembolso em processamento."
  | .canceled => "O pedido foi cancelado antes da decisão final."
  | _ => "A decisão foi registada, mas houve falha no processamento financeiro."

structure RefundDecisionInput where
  refundRequestId : RefundId
  refundStatus : RefundStatus
  actorUserId : UserId
  actorName : String
  decisionNote : Option String
  decisionTitle : String
  closeTitle : String

def decisionEvents (input : RefundDecisionInput) (decisionNote : String)
    (incidentId : Nat) : List OperationalIncidentEvent :=
  let actorName := (truthy (some (trim input.actorName))).getD "Equipa de suporte"
  let participantActor :=
    if input.refundStatus = .canceled then actorName else "Equipa de suporte"
  [⟨incidentId, .decisionRecorded, .internal, "Decisão registada", decisionNote,
      some input.actorUserId, some actorName⟩,
    ⟨incidentId, .decisionRecorded, .participants, input.decisionTitle, decisionNote,
      some input.actorUserId, some participantActor⟩,
    ⟨incidentId, .caseClosed, .internal, input.closeTitle, decisionNote,
      some input.actorUserId, some actorName⟩,
    ⟨incidentId, .caseClosed, .participants, input.closeTitle, decisionNote,
      some input.actorUserId, some participantActor⟩]

/-- Close the newest case of the refund request, whatever its status. -/
def syncRefundCaseDecision (input : RefundDecisionInput) (now : Time) : Service Unit := do
  let found ← .inspect fun store => store.incidents.findFirst? fun incident =>
    incident.relatedRefundRequestId = some input.refundRequestId
  match found with
  | none => pure ()
  | some incident =>
      let decisionNote := (truthy (input.decisionNote.map trim)).getD
        (buildRefundDecisionFallback input.refundStatus)
      .alter fun store =>
        { store with
          incidents := store.incidents.update incident.id fun row =>
            { row with
              status := if input.refundStatus = .canceled then .canceled else .resolved
              resolutionNote := some decisionNote
              resolvedAt := incident.resolvedAt.or (some now) } }
      createEvents (decisionEvents input decisionNote incident.id)

end Tchuno.Payments
