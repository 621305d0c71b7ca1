import Mathlib.Data.List.Sort
import Tchuno.Library.Machine
import Tchuno.Library.References
import Tchuno.Payments.Gateway
import Tchuno.TrustSafety.Detection

/-!
# Interventions in a chat

`TrustSafetyService`: what it shows of a user's interventions in a job, and what it makes
of a message.  A temporary block is enforced while its `blockedUntil` is in the future;
it is shown as long as its status is an active one, with `isBlocking` saying whether it
still blocks.
-/

namespace Tchuno.TrustSafety

open Tchuno.Library Tchuno.Library.Ecma Tchuno.Payments

/-! ## Rows -/

abbrev InterventionId := Nat

inductive InterventionAction where
  | warning | tempBlock
  deriving DecidableEq, Repr

inductive InterventionStatus where
  | logged | open | appealed | cleared | enforced
  deriving DecidableEq, Repr

structure Intervention where
  id : InterventionId
  jobId : JobId
  actorUserId : UserId
  counterpartUserId : UserId
  riskLevel : TrustSafetyRiskLevel
  action : InterventionAction
  status : InterventionStatus
  reasonSummary : String
  messagePreview : String
  blockedUntil : Option Time
  appealRequestedAt : Option Time
  appealReason : Option String
  reviewedByUserId : Option UserId
  reviewedAt : Option Time
  resolutionNote : Option String
  createdAt : Time
  updatedAt : Time
  deriving DecidableEq

instance : Keyed Intervention := ⟨Intervention.id⟩

@[simp] theorem key_intervention (intervention : Intervention) :
    Keyed.key intervention = intervention.id := rfl

def InterventionStatus.isActive (status : InterventionStatus) : Bool :=
  [InterventionStatus.open, .appealed, .enforced].contains status

/-- A temporary block which is neither cleared nor, as warnings are, only logged. -/
def Intervention.isActiveBlock (intervention : Intervention) : Bool :=
  intervention.action = .tempBlock && intervention.status.isActive

def Intervention.isUnexpired (intervention : Intervention) (now : Time) : Bool :=
  intervention.blockedUntil.any fun blockedUntil => now < blockedUntil

def Intervention.isOf (jobId : JobId) (userId : UserId) (intervention : Intervention) : Bool :=
  intervention.jobId = jobId && intervention.actorUserId = userId

structure InterventionResponse where
  id : InterventionId
  jobId : JobId
  actorUserId : UserId
  counterpartUserId : UserId
  riskLevel : TrustSafetyRiskLevel
  action : InterventionAction
  status : InterventionStatus
  reasonSummary : String
  messagePreview : String
  blockedUntil : Option Time
  appealRequestedAt : Option Time
  appealReason : Option String
  reviewedAt : Option Time
  resolutionNote : Option String
  createdAt : Time
  updatedAt : Time
  isBlocking : Bool
  deriving DecidableEq

def toInterventionDto (item : Intervention) (now : Time) : InterventionResponse where
  id := item.id
  jobId := item.jobId
  actorUserId := item.actorUserId
  counterpartUserId := item.counterpartUserId
  riskLevel := item.riskLevel
  action := item.action
  status := item.status
  reasonSummary := item.reasonSummary
  messagePreview := item.messagePreview
  blockedUntil := item.blockedUntil
  appealRequestedAt := item.appealRequestedAt
  appealReason := item.appealReason
  reviewedAt := item.reviewedAt
  resolutionNote := item.resolutionNote
  createdAt := item.createdAt
  updatedAt := item.updatedAt
  isBlocking := item.action = .tempBlock && item.status.isActive && item.isUnexpired now

/-! ## What is shown -/

/-- `orderBy: [{ createdAt: 'desc' }, { id: 'desc' }]` -/
def isNewer (first second : Intervention) : Bool :=
  second.createdAt < first.createdAt ||
    (first.createdAt = second.createdAt && second.id ≤ first.id)

/-- The interventions of the user in the job, newest first. -/
def historyOf (jobId : JobId) (userId : UserId) (interventions : Table Intervention) :
    List Intervention :=
  (interventions.findMany (Intervention.isOf jobId userId)).insertionSort
    fun first second => isNewer first second = true

structure ConversationState where
  activeIntervention : Option InterventionResponse
  recentInterventions : List InterventionResponse

def getConversationState (jobId : JobId) (userId : UserId) (now : Time)
    (interventions : Table Intervention) : ConversationState :=
  let items := (historyOf jobId userId interventions).take 5
  { activeIntervention :=
      (items.find? Intervention.isActiveBlock).map fun item => toInterventionDto item now
    recentInterventions := items.map fun item => toInterventionDto item now }

/-! ## What is enforced -/

inductive ActorRole where
  | customer | provider
  deriving DecidableEq, Repr

structure EvaluateMessageInput where
  jobId : JobId
  requestId : Option RequestId
  actorUserId : UserId
  counterpartUserId : UserId
  actorRole : ActorRole
  contactUnlocked : Bool
  content : String

structure Guidance where
  title : String
  description : String
  ctaHref : String
  ctaLabel : String
  appealAllowed : Bool
  deriving DecidableEq

inductive GuidanceKind where
  | warning | blocked
  deriving DecidableEq, Repr

/-- `localeString` renders a date for Portugal. -/
def buildGuidance (localeString : Time → String) (kind : GuidanceKind)
    (input : EvaluateMessageInput) (blockedUntil : Option Time) : Guidance where
  title :=
    if kind = .warning then "Partilha de contacto ainda nao esta protegida"
    else "Mensagens temporariamente restringidas"
  description :=
    if kind = .warning then
      "Antes do sinal ser confirmado, o Tchuno protege o contacto e a cobertura de suporte. " ++
        "Edita a mensagem ou avanca pelo fluxo protegido."
    else
      "Detetámos repetidas tentativas de partilha de contacto antes do pagamento. " ++
        "O chat fica temporariamente restringido" ++
        (blockedUntil.map fun time => " ate " ++ localeString time).getD "" ++ "."
  ctaHref :=
    match input.actorRole, input.requestId with
    | .customer, some requestId => "/app/pedidos/" ++ renderId requestId
    | .customer, none => "/app/pagamentos"
    | .provider, _ => "/pro/mensagens"
  ctaLabel :=
    if input.actorRole = .customer then "Ver pedido e pagar sinal"
    else "Continuar no chat protegido"
  appealAllowed := kind = .blocked

inductive MessageEvaluation where
  | clear
  | warning (intervention : InterventionResponse) (guidance : Guidance)
  | blocked (intervention : InterventionResponse) (guidance : Guidance)
  deriving DecidableEq

def MessageEvaluation.isBlocked : MessageEvaluation → Bool
  | .blocked _ _ => true
  | _ => false

/-- The block is in force for the user in the job. -/
def Intervention.restricts (jobId : JobId) (userId : UserId) (now : Time)
    (intervention : Intervention) : Bool :=
  intervention.isOf jobId userId && intervention.isActiveBlock && intervention.isUnexpired now

/-- `orderBy: [{ blockedUntil: 'desc' }, { createdAt: 'desc' }, { id: 'desc' }]` -/
def lastsLonger (first second : Intervention) : Bool :=
  second.blockedUntil.getD 0 < first.blockedUntil.getD 0 ||
    (first.blockedUntil = second.blockedUntil && isNewer first second)

def activeRestriction? (jobId : JobId) (userId : UserId) (now : Time)
    (interventions : Table Intervention) : Option Intervention :=
  ((interventions.findMany (Intervention.restricts jobId userId now)).insertionSort
    fun first second => lastsLonger first second = true).head?

def hours (count : Int) : Int := count * 60 * 60 * 1000

/-- The columns of a new intervention. -/
def newIntervention (input : EvaluateMessageInput) (detection : ContactDetection)
    (riskLevel : TrustSafetyRiskLevel) (action : InterventionAction)
    (status : InterventionStatus) (blockedUntil : Option Time) (now : Time)
    (id : InterventionId) : Intervention where
  id := id
  jobId := input.jobId
  actorUserId := input.actorUserId
  counterpartUserId := input.counterpartUserId
  riskLevel := riskLevel
  action := action
  status := status
  reasonSummary := detection.reasonSummary
  messagePreview := detection.messagePreview
  blockedUntil := blockedUntil
  appealRequestedAt := none
  appealReason := none
  reviewedByUserId := none
  reviewedAt := none
  resolutionNote := none
  createdAt := now
  updatedAt := now

def loggedWarning (input : EvaluateMessageInput) (detection : ContactDetection) (now : Time) :
    InterventionId → Intervention :=
  newIntervention input detection detection.riskLevel .warning .logged none now

/-- A block is longer after repeated attempts, and for direct contact data. -/
def isSevere (detection : ContactDetection) (previousAttempts : Nat) : Bool :=
  2 ≤ previousAttempts || detection.riskLevel = .high

def blockEnd (detection : ContactDetection) (previousAttempts : Nat) (now : Time) : Time :=
  now + if isSevere detection previousAttempts then hours 4 else 30 * 60 * 1000

def openedBlock (input : EvaluateMessageInput) (detection : ContactDetection)
    (previousAttempts : Nat) (now : Time) : InterventionId → Intervention :=
  newIntervention input detection (if isSevere detection previousAttempts then .high else .medium)
    .tempBlock .open (some (blockEnd detection previousAttempts now)) now

def previousAttempts (input : EvaluateMessageInput) (now : Time)
    (interventions : Table Intervention) : Nat :=
  (interventions.findMany fun intervention =>
    intervention.isOf input.jobId input.actorUserId &&
      decide (now - hours 24 ≤ intervention.createdAt)).length

section Evaluation

variable (localeString : Time → String)

def evaluateMessageAttempt (input : EvaluateMessageInput) (now : Time)
    (interventions : Table Intervention) : MessageEvaluation × Table Intervention :=
  if input.contactUnlocked then
    (.clear, interventions)
  else
    match activeRestriction? input.jobId input.actorUserId now interventions with
    | some activeRestriction =>
        (.blocked (toInterventionDto activeRestriction now)
          (buildGuidance localeString .blocked input activeRestriction.blockedUntil),
          interventions)
    | none =>
        match detectContactSharing input.content with
        | none => (.clear, interventions)
        | some detection =>
            let attempts := previousAttempts input now interventions
            if attempts = 0 then
              (.warning
                (toInterventionDto (loggedWarning input detection now interventions.nextId) now)
                (buildGuidance localeString .warning input none),
                interventions.insert (loggedWarning input detection now) fun _ => rfl)
            else
              (.blocked
                (toInterventionDto
                  (openedBlock input detection attempts now interventions.nextId) now)
                (buildGuidance localeString .blocked input
                  (some (blockEnd detection attempts now))),
                interventions.insert (openedBlock input detection attempts now) fun _ => rfl)

end Evaluation

/-! ## Appeals and reviews -/

def findIntervention (interventionId : InterventionId) (interventions : Table Intervention) :
    Except ApiError Intervention :=
  orThrow (interventions.find? interventionId)
    (.notFound "Trust & Safety intervention not found")

def appealGate (interventionId : InterventionId) (userId : UserId)
    (interventions : Table Intervention) : Except ApiError Intervention := do
  let intervention ← findIntervention interventionId interventions
  guardThat (intervention.actorUserId = userId)
    (.forbidden "You are not allowed to appeal this intervention")
  guardThat (intervention.status = .open ∨ intervention.status = .enforced)
    (.conflict "This intervention cannot be appealed")
  pure intervention

def appealedIntervention (reason : String) (now : Time) (intervention : Intervention) :
    Intervention :=
  { intervention with
    status := .appealed
    appealRequestedAt := some now
    appealReason := some (trim reason)
    updatedAt := now }

def appealIntervention (interventionId : InterventionId) (userId : UserId) (reason : String)
    (now : Time) (interventions : Table Intervention) :
    Except ApiError InterventionResponse × Table Intervention :=
  match appealGate interventionId userId interventions with
  | .error error => (.error error, interventions)
  | .ok intervention =>
      (.ok (toInterventionDto (appealedIntervention reason now intervention) now),
        interventions.update intervention.id (appealedIntervention reason now) fun _ => rfl)

inductive ReviewDecision where
  | cleared | enforced
  deriving DecidableEq, Repr

def ReviewDecision.status : ReviewDecision → InterventionStatus
  | .cleared => .cleared
  | .enforced => .enforced

structure ReviewInterventionDto where
  decision : ReviewDecision
  resolutionNote : Option String

def reviewGate (interventionId : InterventionId) (interventions : Table Intervention) :
    Except ApiError Intervention := do
  let intervention ← findIntervention interventionId interventions
  guardThat (intervention.status.isActive = true)
    (.conflict "This intervention is no longer reviewable")
  pure intervention

/-- A decision to enforce extends a block which has expired. -/
def reviewedIntervention (reviewerUserId : UserId) (dto : ReviewInterventionDto) (now : Time)
    (intervention : Intervention) : Intervention :=
  { intervention with
    status := dto.decision.status
    reviewedByUserId := some reviewerUserId
    reviewedAt := some now
    resolutionNote := truthy (dto.resolutionNote.map trim)
    blockedUntil :=
      if dto.decision = .cleared then some now
      else if intervention.isUnexpired now then intervention.blockedUntil
      else some (now + hours 24)
    updatedAt := now }

def reviewIntervention (interventionId : InterventionId) (reviewerUserId : UserId)
    (dto : ReviewInterventionDto) (now : Time) (interventions : Table Intervention) :
    Except ApiError InterventionResponse × Table Intervention :=
  match reviewGate interventionId interventions with
  | .error error => (.error error, interventions)
  | .ok intervention =>
      (.ok (toInterventionDto (reviewedIntervention reviewerUserId dto now intervention) now),
        interventions.update intervention.id (reviewedIntervention reviewerUserId dto now)
          fun _ => rfl)

/-! ## Operations -/

inductive InterventionOperation where
  | evaluateMessageAttempt (input : EvaluateMessageInput) (now : Time)
  | appealIntervention (interventionId : InterventionId) (userId : UserId) (reason : String)
      (now : Time)
  | reviewIntervention (interventionId : InterventionId) (reviewerUserId : UserId)
      (dto : ReviewInterventionDto) (now : Time)
  /-- jobs or users are deleted, and the interventions which name them -/
  | cascade (goes : Intervention → Bool)

def InterventionOperation.perform (localeString : Time → String)
    (interventions : Table Intervention) : InterventionOperation → Table Intervention
  | .evaluateMessageAttempt input now =>
      (TrustSafety.evaluateMessageAttempt localeString input now interventions).2
  | .appealIntervention interventionId userId reason now =>
      (TrustSafety.appealIntervention interventionId userId reason now interventions).2
  | .reviewIntervention interventionId reviewerUserId dto now =>
      (TrustSafety.reviewIntervention interventionId reviewerUserId dto now interventions).2
  | .cascade goes => interventions.deleteMany goes

/-- The interventions as a machine over the operations of the service. -/
def moderation (localeString : Time → String) :
    Machine (Table Intervention) InterventionOperation where
  step := InterventionOperation.perform localeString

end Tchuno.TrustSafety
