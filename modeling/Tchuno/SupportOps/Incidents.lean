import Tchuno.Payments.Operation

/-!
# Operational incidents

The two functions of the support service which administrators call directly.
The rows, and the functions which the refund operations call, are in
`Tchuno.Payments.Support`.  A caller is an authenticated user.
-/

namespace Tchuno.SupportOps

open Tchuno.Library Tchuno.Library.Ecma Tchuno.Payments

/-! ## Requests -/

/-- A number of a request body, with `none` for anything that is not finite. -/
abbrev DtoNumber := Option ℚ

/-- An optional field of a request body; `@IsOptional()` lets `null` through. -/
inductive Field (α : Type) where
  | absent
  | null
  | value (given : α)
  deriving DecidableEq

/-- Where the code reads `dto.field?.…` or `dto.field ?? …`, `null` counts as absent
and the field is an `Option`. -/
structure CreateOperationalIncidentDto where
  title : String
  summary : String
  source : Option OperationalIncidentSource
  severity : Option OperationalIncidentSeverity
  impactedArea : Option String
  customerImpact : Option String
  baseSlaHours : Option DtoNumber
  evidenceItems : Option (List String)
  relatedJobId : Option JobId
  relatedRefundRequestId : Option RefundId
  relatedTrustSafetyInterventionId : Option Nat

structure UpdateOperationalIncidentDto where
  title : Option String
  summary : Option String
  source : Field OperationalIncidentSource
  severity : Field OperationalIncidentSeverity
  status : Option OperationalIncidentStatus
  impactedArea : Field String
  customerImpact : Field String
  baseSlaHours : Field DtoNumber
  assignToMe : Bool
  evidenceItems : Field (List String)
  resolutionNote : Field String

/-- What the two functions may throw: an exception of the API, the `TypeError` of
`null.trim()`, or the refusal of the database client to write `null` in a
required column. -/
inductive IncidentError where
  | api (error : ApiError)
  | typeError
  | validation
  deriving DecidableEq

/-! ## Response times -/

/-- `normalizeBaseSlaHours` on the result of `Number(value)`. -/
def clampSlaHours (numeric : DtoNumber) : Int :=
  match numeric with
  | none => 24
  | some hours => max 1 (min 168 (mathTrunc hours))

/-- `Number(undefined)` is not finite and `Number(null)` is zero. -/
def normalizeBaseSlaHours : Field DtoNumber → Int
  | .absent => clampSlaHours none
  | .null => clampSlaHours (some 0)
  | .value numeric => clampSlaHours numeric

theorem clampSlaHours_bounds (numeric : DtoNumber) :
    1 ≤ clampSlaHours numeric ∧ clampSlaHours numeric ≤ 168 := by
  cases numeric with
  | none =>
      decide
  | some hours =>
      simp only [clampSlaHours]
      omega

theorem normalizeBaseSlaHours_bounds (field : Field DtoNumber) :
    1 ≤ normalizeBaseSlaHours field ∧ normalizeBaseSlaHours field ≤ 168 := by
  cases field with
  | absent => exact clampSlaHours_bounds none
  | null => exact clampSlaHours_bounds (some 0)
  | value numeric => exact clampSlaHours_bounds numeric

def resolveDefaultSlaHours (source : OperationalIncidentSource)
    (severity : OperationalIncidentSeverity) (override : Option DtoNumber) : Int :=
  match override with
  | some numeric => clampSlaHours numeric
  | none =>
      if source = .platform ∧ (severity = .high ∨ severity = .critical) then
        8
      else if source = .trustSafety ∧ severity = .high then
        12
      else
        24

theorem resolveDefaultSlaHours_bounds (source : OperationalIncidentSource)
    (severity : OperationalIncidentSeverity) (override : Option DtoNumber) :
    1 ≤ resolveDefaultSlaHours source severity override ∧
      resolveDefaultSlaHours source severity override ≤ 168 := by
  cases override with
  | some numeric =>
      exact clampSlaHours_bounds numeric
  | none =>
      simp only [resolveDefaultSlaHours]
      split_ifs <;> omega

/-! ## Opening an incident -/

def resolveActorName (userId : UserId) (market : Marketplace) : String :=
  let actor := market.users.find? userId
  (truthy ((actor.bind User.name).map trim)).getD
    ((truthy (actor.map User.email)).getD
      ("user:" ++ String.ofList ((renderId userId).toList.take 8)))

/-- `interventions` tells which trust and safety cases exist. -/
def assertRelatedEntitiesExist (interventions : Nat → Bool)
    (dto : CreateOperationalIncidentDto) (store : Store) : Except ApiError Unit := do
  guardThat (dto.relatedJobId.all fun id => (store.jobs.find? id).isSome)
    (.notFound "Related job not found")
  guardThat (dto.relatedRefundRequestId.all fun id => (store.refunds.find? id).isSome)
    (.notFound "Related refund request not found")
  guardThat (dto.relatedTrustSafetyInterventionId.all interventions)
    (.notFound "Related trust & safety case not found")

def CreateOperationalIncidentDto.resolvedSource (dto : CreateOperationalIncidentDto) :
    OperationalIncidentSource :=
  dto.source.getD .support

def CreateOperationalIncidentDto.slaHours (dto : CreateOperationalIncidentDto) : Int :=
  resolveDefaultSlaHours dto.resolvedSource (dto.severity.getD .medium) dto.baseSlaHours

/-- The row `createIncident` writes. -/
def createdIncident (actorUserId : UserId) (dto : CreateOperationalIncidentDto)
    (now : Time) (id : Nat) : OperationalIncident where
  id := id
  title := trim dto.title
  summary := trim dto.summary
  source := dto.resolvedSource
  severity := dto.severity.getD .medium
  status := .open
  baseSlaHours := dto.slaHours
  slaTargetAt := buildSlaTargetAt now dto.slaHours
  impactedArea := truthy (dto.impactedArea.map trim)
  customerImpact := truthy (dto.customerImpact.map trim)
  evidenceItems := normalizeEvidenceItems (dto.evidenceItems.getD [])
  resolutionNote := none
  createdByUserId := actorUserId
  ownerAdminUserId := some actorUserId
  relatedJobId := dto.relatedJobId
  relatedRefundRequestId := dto.relatedRefundRequestId
  detectedAt := now
  assumedAt := some now
  resolvedAt := none

def creationEvents (actorUserId : UserId) (actorName : String)
    (dto : CreateOperationalIncidentDto) (incidentId : Nat) :
    List OperationalIncidentEvent :=
  let evidenceItems := normalizeEvidenceItems (dto.evidenceItems.getD [])
  let event (eventType : OperationalIncidentEventType) (title description : String) :
      OperationalIncidentEvent :=
    ⟨incidentId, eventType, .internal, title, description, some actorUserId,
      some actorName⟩
  [event .caseOpened "Caso criado"
      ("Caso operacional aberto com SLA base de " ++ toString dto.slaHours ++ "h."),
    event .ownerAssigned "Owner definido" (actorName ++ " ficou responsável pelo caso.")] ++
    (if evidenceItems.isEmpty then
      []
    else
      [event .evidenceAdded "Evidências registadas"
        (toString evidenceItems.length ++ " evidência(s) anexada(s) ao caso.")]) ++
    if dto.resolvedSource = .refundDispute ∧ dto.relatedRefundRequestId.isSome then
      [⟨incidentId, .caseOpened, .participants, "Caso aberto",
        "A equipa de suporte abriu um caso para acompanhar a disputa.",
        some actorUserId, some "Equipa de suporte"⟩]
    else
      []

def createIncident (interventions : Nat → Bool) (actorUserId : UserId)
    (dto : CreateOperationalIncidentDto) (now : Time) : Service OperationalIncident := do
  .consult (assertRelatedEntitiesExist interventions dto)
  let actorName ← .inspect fun store => resolveActorName actorUserId store.market
  .transaction do
    let created ← .inspect fun store =>
      createdIncident actorUserId dto now store.incidents.nextId
    .alter fun store =>
      { store with
        incidents := store.incidents.insert (createdIncident actorUserId dto now) }
    createEvents (creationEvents actorUserId actorName dto created.id)
    pure created

/-! ## Updating an incident -/

def statusLabel : OperationalIncidentStatus → String
  | .investigating => "investigação"
  | .mitigating => "mitigação"
  | .monitoring => "monitorização"
  | .resolved => "resolução"
  | .canceled => "cancelamento"
  | .open => "abertura"

def buildInternalStatusEvent (incidentId : Nat) (actorUserId : UserId) (actorName : String)
    (nextStatus : OperationalIncidentStatus) (resolutionNote : Option String) :
    OperationalIncidentEvent :=
  if nextStatus.isClosed then
    ⟨incidentId, .caseClosed, .internal,
      if nextStatus = .resolved then "Caso resolvido" else "Caso cancelado",
      (truthy (resolutionNote.map trim)).getD
        (if nextStatus = .resolved then
          "Caso encerrado com sucesso."
        else
          "Caso encerrado sem ação adicional."),
      some actorUserId, some actorName⟩
  else
    ⟨incidentId, .statusChanged, .internal, "Estado atualizado",
      "Caso movido para " ++ statusLabel nextStatus ++ ".",
      some actorUserId, some actorName⟩

/-- A case moved back to `OPEN` is told to the participants as a closed one, with its note: the
source has no branch for it. -/
def buildParticipantStatusEvent (incidentId : Nat) (actorUserId : UserId)
    (nextStatus : OperationalIncidentStatus) (resolutionNote : Option String) :
    OperationalIncidentEvent :=
  let event (eventType : OperationalIncidentEventType) (title description : String) :
      OperationalIncidentEvent :=
    ⟨incidentId, eventType, .participants, title, description, some actorUserId,
      some "Equipa de suporte"⟩
  match nextStatus with
  | .investigating =>
      event .statusChanged "Caso em investigação"
        "A equipa de suporte está a rever as evidências e o histórico do job."
  | .mitigating =>
      event .statusChanged "Decisão em preparação"
        "O caso entrou na fase final de análise para definição da decisão."
  | .monitoring =>
      event .statusChanged "Caso em acompanhamento"
        "A equipa já atuou no caso e está a acompanhar os próximos passos."
  | .resolved =>
      event .caseClosed "Caso encerrado" ((truthy (resolutionNote.map trim)).getD
        "A equipa encerrou o caso após concluir a análise.")
  | .open | .canceled =>
      event .caseClosed "Caso cancelado" ((truthy (resolutionNote.map trim)).getD
        "O caso foi encerrado sem ação adicional.")

/-- `dto.field.trim() || null` where the field is present. -/
def trimmedField : Field String → Except IncidentError (Option (Option String))
  | .absent => .ok none
  | .null => .error .typeError
  | .value text => .ok (some (truthy (some (trim text))))

/-- A field written to a column which cannot be null. -/
def requiredField {α : Type} : Field α → Except IncidentError (Option α)
  | .absent => .ok none
  | .null => .error .validation
  | .value given => .ok (some given)

/-- The columns a request rewrites whose values can be refused; `none` leaves a
column alone. -/
structure RequestedChanges where
  resolutionNote : Option (Option String)
  impactedArea : Option (Option String)
  customerImpact : Option (Option String)
  source : Option OperationalIncidentSource
  severity : Option OperationalIncidentSeverity

def readChanges (dto : UpdateOperationalIncidentDto) :
    Except IncidentError RequestedChanges := do
  let resolutionNote ← trimmedField dto.resolutionNote
  let impactedArea ← trimmedField dto.impactedArea
  let customerImpact ← trimmedField dto.customerImpact
  let source ← requiredField dto.source
  let severity ← requiredField dto.severity
  pure ⟨resolutionNote, impactedArea, customerImpact, source, severity⟩

/-- The row as it was read, with everything the update is going to write. -/
structure IncidentUpdate where
  existing : OperationalIncident
  changes : RequestedChanges
  title : Option String
  summary : Option String
  nextStatus : OperationalIncidentStatus
  nextBaseSlaHours : Option Int
  nextOwnerAdminUserId : Option UserId
  nextEvidenceItems : Option (List String)

def nextSlaHours : Field DtoNumber → Option Int
  | .absent => none
  | field => some (normalizeBaseSlaHours field)

def nextEvidence : Field (List String) → Option (List String)
  | .absent => none
  | .null => some []
  | .value items => some (normalizeEvidenceItems items)

def plannedUpdate (actorUserId : UserId) (dto : UpdateOperationalIncidentDto)
    (existing : OperationalIncident) (changes : RequestedChanges) : IncidentUpdate where
  existing := existing
  changes := changes
  title := dto.title.map trim
  summary := dto.summary.map trim
  nextStatus := dto.status.getD existing.status
  nextBaseSlaHours := nextSlaHours dto.baseSlaHours
  nextOwnerAdminUserId :=
    if dto.assignToMe then some actorUserId else existing.ownerAdminUserId
  nextEvidenceItems := nextEvidence dto.evidenceItems

def prepareUpdate (incidentId : Nat) (actorUserId : UserId)
    (dto : UpdateOperationalIncidentDto) (store : Store) :
    Except IncidentError IncidentUpdate :=
  match store.incidents.find? incidentId with
  | none => .error (.api (.notFound "Operational incident not found"))
  | some existing => (readChanges dto).map (plannedUpdate actorUserId dto existing)

def updatedIncident (next : IncidentUpdate) (now : Time) (row : OperationalIncident) :
    OperationalIncident :=
  { row with
    title := next.title.getD row.title
    summary := next.summary.getD row.summary
    source := next.changes.source.getD row.source
    severity := next.changes.severity.getD row.severity
    status := next.nextStatus
    baseSlaHours := next.nextBaseSlaHours.getD row.baseSlaHours
    slaTargetAt := (next.nextBaseSlaHours.map
      (buildSlaTargetAt next.existing.detectedAt)).getD row.slaTargetAt
    impactedArea := next.changes.impactedArea.getD row.impactedArea
    customerImpact := next.changes.customerImpact.getD row.customerImpact
    evidenceItems := next.nextEvidenceItems.getD row.evidenceItems
    resolutionNote := next.changes.resolutionNote.getD row.resolutionNote
    resolvedAt :=
      if next.nextStatus.isClosed then
        next.existing.resolvedAt.or (some now)
      else if next.nextStatus = next.existing.status then
        next.existing.resolvedAt
      else
        none
    ownerAdminUserId := next.nextOwnerAdminUserId
    assumedAt :=
      if next.nextOwnerAdminUserId.isSome then
        next.existing.assumedAt.or (some now)
      else
        next.existing.assumedAt }

namespace IncidentUpdate

variable (next : IncidentUpdate)

/-- Somebody else becomes the owner. -/
def changesOwner : Bool :=
  next.nextOwnerAdminUserId.isSome &&
    next.nextOwnerAdminUserId ≠ next.existing.ownerAdminUserId

def changesStatus : Bool :=
  next.nextStatus ≠ next.existing.status

/-- The note the status events are built with. -/
def statedNote : Option String :=
  next.changes.resolutionNote.getD next.existing.resolutionNote

def isParticipantCase : Bool :=
  next.existing.relatedRefundRequestId.isSome

def ownerEvents (actorUserId : UserId) (actorName : String) :
    List OperationalIncidentEvent :=
  if next.changesOwner then
    ⟨next.existing.id, .ownerAssigned, .internal, "Owner atualizado",
      actorName ++ " assumiu o caso.", some actorUserId, some actorName⟩ ::
    if next.isParticipantCase then
      [⟨next.existing.id, .ownerAssigned, .participants, "Caso assumido",
        "A equipa de suporte assumiu o caso e iniciou o tratamento.",
        some actorUserId, some "Equipa de suporte"⟩]
    else
      []
  else
    []

def statusEvents (actorUserId : UserId) (actorName : String) :
    List OperationalIncidentEvent :=
  if next.changesStatus then
    buildInternalStatusEvent next.existing.id actorUserId actorName next.nextStatus
      next.statedNote ::
    if next.isParticipantCase then
      [buildParticipantStatusEvent next.existing.id actorUserId next.nextStatus
        next.statedNote]
    else
      []
  else
    []

def slaEvents (actorUserId : UserId) (actorName : String) : List OperationalIncidentEvent :=
  match next.nextBaseSlaHours with
  | none => []
  | some hours =>
      if hours = next.existing.baseSlaHours then
        []
      else
        [⟨next.existing.id, .slaUpdated, .internal, "SLA base atualizado",
          "SLA base ajustado de " ++ toString next.existing.baseSlaHours ++ "h para " ++
            toString hours ++ "h.",
          some actorUserId, some actorName⟩]

def evidenceEvents (actorUserId : UserId) (actorName : String) :
    List OperationalIncidentEvent :=
  match next.nextEvidenceItems with
  | none => []
  | some items =>
      if next.existing.evidenceItems = items then
        []
      else
        [⟨next.existing.id, .evidenceAdded, .internal, "Evidências atualizadas",
          toString items.length ++ " evidência(s) registada(s) no caso.",
          some actorUserId, some actorName⟩]

def events (actorUserId : UserId) (actorName : String) : List OperationalIncidentEvent :=
  next.ownerEvents actorUserId actorName ++ next.statusEvents actorUserId actorName ++
    next.slaEvents actorUserId actorName ++ next.evidenceEvents actorUserId actorName

end IncidentUpdate

/-- The store after a prepared update. -/
def Store.applyUpdate (store : Store) (next : IncidentUpdate) (actorUserId : UserId)
    (now : Time) : Store :=
  { store with
    incidents := store.incidents.update next.existing.id (updatedIncident next now)
    incidentEvents := store.incidentEvents ++
      next.events actorUserId (resolveActorName actorUserId store.market) }

def updateIncident (incidentId : Nat) (actorUserId : UserId)
    (dto : UpdateOperationalIncidentDto) (now : Time) :
    Action Store GatewayCall IncidentError OperationalIncident :=
  .transaction do
    let next ← .consult (prepareUpdate incidentId actorUserId dto)
    .alter fun store => Store.applyUpdate store next actorUserId now
    .consult fun store => (store.incidents.find? incidentId).elim
      (.error (.api (.database "P2025"))) .ok

/-! ## Decisions -/

/-- The note a decision leaves in the case. -/
def decisionNoteOf (input : RefundDecisionInput) : String :=
  (truthy (input.decisionNote.map trim)).getD
    (buildRefundDecisionFallback input.refundStatus)

/-- The row of a case after the decision; `existing` is the row as it was read. -/
def decidedIncident (input : RefundDecisionInput) (existing : OperationalIncident)
    (now : Time) (row : OperationalIncident) : OperationalIncident :=
  { row with
    status := if input.refundStatus = .canceled then .canceled else .resolved
    resolutionNote := some (decisionNoteOf input)
    resolvedAt := existing.resolvedAt.or (some now) }

/-- The newest case of a refund request. -/
def newestCase (refundRequestId : RefundId) (store : Store) : Option OperationalIncident :=
  store.incidents.findFirst? fun incident =>
    incident.relatedRefundRequestId = some refundRequestId

/-- `syncRefundCaseDecision` never throws, and this is what it writes. -/
theorem syncRefundCaseDecision_apply (input : RefundDecisionInput) (now : Time)
    (store : Store) :
    syncRefundCaseDecision input now store =
      ⟨.ok (), match newestCase input.refundRequestId store with
        | none => store
        | some incident =>
            { store with
              incidents :=
                store.incidents.update incident.id (decidedIncident input incident now)
              incidentEvents := store.incidentEvents ++
                decisionEvents input (decisionNoteOf input) incident.id }, []⟩ := by
  rw [syncRefundCaseDecision, Action.inspect_bind_apply, ← newestCase]
  cases newestCase input.refundRequestId store with
  | none =>
      rfl
  | some incident =>
      rfl

/-! ## Runs -/

/-- A call of one of the four functions which write incidents. -/
inductive CaseOperation where
  | createIncident (interventions : Nat → Bool) (actorUserId : UserId)
      (dto : CreateOperationalIncidentDto) (now : Time)
  | updateIncident (incidentId : Nat) (actorUserId : UserId)
      (dto : UpdateOperationalIncidentDto) (now : Time)
  | ensureRefundDisputeCase (input : RefundDisputeInput) (now : Time)
  | syncRefundCaseDecision (input : RefundDecisionInput) (now : Time)

def CaseOperation.perform (store : Store) : CaseOperation → Store
  | .createIncident interventions actorUserId dto now =>
      (SupportOps.createIncident interventions actorUserId dto now store).state
  | .updateIncident incidentId actorUserId dto now =>
      (SupportOps.updateIncident incidentId actorUserId dto now store).state
  | .ensureRefundDisputeCase input now =>
      (Payments.ensureRefundDisputeCase input now store).state
  | .syncRefundCaseDecision input now =>
      (Payments.syncRefundCaseDecision input now store).state

/-- The incidents under the functions which write them. -/
def caseKeeping : Machine Store CaseOperation where
  step := CaseOperation.perform

/-- A call of a service that can reach the incidents: of payments or of support. -/
inductive SupportOperation where
  | payment (operation : Operation)
  | createIncident (interventions : Nat → Bool) (actorUserId : UserId)
      (dto : CreateOperationalIncidentDto) (now : Time)
  | updateIncident (incidentId : Nat) (actorUserId : UserId)
      (dto : UpdateOperationalIncidentDto) (now : Time)

def SupportOperation.perform (store : Store) : SupportOperation → Store
  | .payment operation => operation.perform store
  | .createIncident interventions actorUserId dto now =>
      (SupportOps.createIncident interventions actorUserId dto now store).state
  | .updateIncident incidentId actorUserId dto now =>
      (SupportOps.updateIncident incidentId actorUserId dto now store).state

/-- The payments store with the support service at work. -/
def support : Machine Store SupportOperation where
  step := SupportOperation.perform

end Tchuno.SupportOps
