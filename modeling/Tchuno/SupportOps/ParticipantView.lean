import Tchuno.Library.TwoRuns
import Tchuno.SupportOps.FinancialState
import Tchuno.SupportOps.DecidedDisputes

/-!
# What participants see of a case

Two runs of incident and refund operations are compared which differ only in
what is internal to the cases: the notes, the administrators, the internal
events.  Outside the administration nobody can tell the two runs apart, except
by the two things the support service tells the participants by design: that
the owner of their case changed, and the note a case is closed with.  A case
moved back to `OPEN` publishes its note as well, for want of a branch of its
own in `buildParticipantStatusEvent`; this defect is left out: such notes have
to agree, and nothing is said of them.
-/

namespace Tchuno.SupportOps

open Tchuno.Library Tchuno.Library.Ecma Tchuno.Payments

/-! ## Stores participants cannot tell apart -/

/-- An incident without what is internal to it; whether somebody owns it is not. -/
def publicPart (incident : OperationalIncident) : OperationalIncident :=
  { incident with
    resolutionNote := none
    createdByUserId := 0
    ownerAdminUserId := incident.ownerAdminUserId.map fun _ => 0 }

def LooksAlike (first second : OperationalIncident) : Prop :=
  publicPart first = publicPart second

/-- The events participants may read, without the acting user. -/
def participantEvents (events : List OperationalIncidentEvent) :
    List OperationalIncidentEvent :=
  (events.filter fun event => event.visibility = .participants).map fun event =>
    { event with actorUserId := none }

structure SameToParticipants (first second : Store) : Prop where
  books : first.toBooks = second.toBooks
  market : first.market = second.market
  payments : first.events = second.events
  incidents : Table.Alike LooksAlike first.incidents second.incidents
  told : participantEvents first.incidentEvents = participantEvents second.incidentEvents

theorem SameToParticipants.refl (store : Store) : SameToParticipants store store where
  books := rfl
  market := rfl
  payments := rfl
  incidents := Table.Alike.refl (fun row => (rfl : publicPart row = publicPart row)) store.incidents
  told := rfl

@[simp]
theorem participantEvents_append (first second : List OperationalIncidentEvent) :
    participantEvents (first ++ second) =
      participantEvents first ++ participantEvents second := by
  simp [participantEvents]

namespace LooksAlike

variable {first second : OperationalIncident}

/-- A column which is not internal agrees. -/
theorem part {α : Type} (alike : LooksAlike first second) (field : OperationalIncident → α)
    (shown : ∀ incident, field (publicPart incident) = field incident) :
    field first = field second := by
  rw [← shown first, ← shown second, alike]

theorem key (alike : LooksAlike first second) : Keyed.key first = Keyed.key second :=
  alike.part OperationalIncident.id fun _ => rfl

theorem status (alike : LooksAlike first second) : first.status = second.status :=
  alike.part OperationalIncident.status fun _ => rfl

theorem related (alike : LooksAlike first second) :
    first.relatedRefundRequestId = second.relatedRefundRequestId :=
  alike.part OperationalIncident.relatedRefundRequestId fun _ => rfl

theorem owned (alike : LooksAlike first second) :
    first.ownerAdminUserId.isSome = second.ownerAdminUserId.isSome :=
  alike.part (fun incident => incident.ownerAdminUserId.isSome) fun _ => by
    simp [publicPart]

end LooksAlike

namespace SameToParticipants

variable {first second : Store}

theorem newestCase (same : SameToParticipants first second) (refundRequestId : RefundId) :
    Option.Rel LooksAlike (newestCase refundRequestId first)
      (newestCase refundRequestId second) :=
  same.incidents.findFirst? fun row other alike => by rw [alike.related]

theorem pickRefundSupportCase (same : SameToParticipants first second)
    (refundRequestId : RefundId) :
    Option.Rel LooksAlike (pickRefundSupportCase refundRequestId first)
      (pickRefundSupportCase refundRequestId second) := by
  have unresolved := @Table.Alike.findFirst? _ _ _ _ _ same.incidents
    (fun incident => incident.relatedRefundRequestId = some refundRequestId &&
      !incident.status.isClosed)
    fun row other alike => by rw [alike.related, alike.status]
  exact or_of_rel unresolved (same.newestCase refundRequestId)

/-- What does not read the cases is the same for both stores. -/
theorem view_eq {α : Type} (same : SameToParticipants first second) (view : Store → α)
    (evenHanded : ∀ (store : Store) incidents incidentEvents,
      view { store with incidents := incidents, incidentEvents := incidentEvents } =
        view store) : view first = view second := by
  have shape : second =
      { first with
        incidents := second.incidents
        incidentEvents := second.incidentEvents } := by
    obtain ⟨books, market, payments, _, _⟩ := same
    cases first
    cases second
    simp only at books market payments
    subst books market payments
    rfl
  rw [shape]
  exact (evenHanded first _ _).symm

/-- The same write outside the cases keeps the stores alike. -/
theorem write (same : SameToParticipants first second) (update : Store → Store)
    (evenHanded : ∀ (store : Store) incidents incidentEvents,
      update { store with incidents := incidents, incidentEvents := incidentEvents } =
        { update store with
          incidents := incidents
          incidentEvents := incidentEvents }) :
    SameToParticipants (update first) (update second) where
  books := same.view_eq (fun store => (update store).toBooks)
    fun store incidents incidentEvents => by rw [evenHanded]
  market := same.view_eq (fun store => (update store).market)
    fun store incidents incidentEvents => by rw [evenHanded]
  payments := same.view_eq (fun store => (update store).events)
    fun store incidents incidentEvents => by rw [evenHanded]
  incidents := by
    have kept : ∀ store : Store, (update store).incidents = store.incidents := by
      intro store
      have unchanged : update store = { update store with
          incidents := store.incidents
          incidentEvents := store.incidentEvents } :=
        evenHanded store store.incidents store.incidentEvents
      have sameCases := congrArg Store.incidents unchanged
      exact sameCases
    rw [kept, kept]
    exact same.incidents
  told := by
    have kept : ∀ store : Store, (update store).incidentEvents = store.incidentEvents := by
      intro store
      have unchanged : update store = { update store with
          incidents := store.incidents
          incidentEvents := store.incidentEvents } :=
        evenHanded store store.incidents store.incidentEvents
      have sameEvents := congrArg Store.incidentEvents unchanged
      exact sameEvents
    rw [kept, kept]
    exact same.told

end SameToParticipants

/-! ## What a participant obtains -/

theorem caseTimeline_participants (events : List OperationalIncidentEvent) (id : Nat) :
    caseTimeline events id false =
      ((participantEvents events).filter fun event => event.incidentId = id).map fun event =>
        ⟨event.eventType, event.visibility, event.title, event.description,
          event.actorName⟩ := by
  simp only [caseTimeline, participantEvents, List.filter_map, List.map_map,
    List.filter_filter]
  congr 1

theorem mapRefundSupportCase_eq {first second : Store}
    (same : SameToParticipants first second) (now : Time) {row other : OperationalIncident}
    (alike : LooksAlike row other) :
    mapRefundSupportCase first false now row = mapRefundSupportCase second false now other := by
  have timeline : caseTimeline first.incidentEvents row.id false =
      caseTimeline second.incidentEvents other.id false := by
    have sameId : row.id = other.id := alike.key
    rw [caseTimeline_participants, caseTimeline_participants, same.told, sameId]
  have rest := alike.part (fun incident =>
    mapRefundSupportCase { first with incidentEvents := [] } false now incident) fun incident => by
      simp only [mapRefundSupportCase, publicPart, Option.isSome_map, Bool.false_eq_true,
        if_false]
      rfl
  have shown : ∀ (store : Store) (incident : OperationalIncident),
      mapRefundSupportCase store false now incident =
        { mapRefundSupportCase { first with incidentEvents := [] } false now incident with
          timeline := caseTimeline store.incidentEvents incident.id false } :=
    fun _ _ => rfl
  rw [shown first, shown second, rest, timeline]

theorem serializeRefundRequest_eq {first second : Store}
    (same : SameToParticipants first second) (now : Time) (refund : RefundRequest) :
    serializeRefundRequest first false now refund =
      serializeRefundRequest second false now refund := by
  have supportCase : (pickRefundSupportCase refund.id first).map
        (mapRefundSupportCase first false now) =
      (pickRefundSupportCase refund.id second).map
        (mapRefundSupportCase second false now) :=
    map_eq_of_rel (same.pickRefundSupportCase refund.id) fun row other alike =>
      mapRefundSupportCase_eq same now alike
  simp only [serializeRefundRequest, supportCase, same.market]

theorem resolveJobAccess_isAdmin {market : Marketplace} {job : Job}
    {actor : IntentActorInput} {access : AccessibleJobFinancialRecord}
    (resolved : resolveJobAccess market job actor = .ok access) :
    access.isAdmin = (actor.role.getD .customer).isAdmin := by
  simp only [resolveJobAccess] at resolved
  split at resolved
  · split_ifs at resolved
    cases resolved
    rfl
  · cases resolved

theorem getAccessibleJobOrThrow_isAdmin {jobId : JobId} {actor : IntentActorInput}
    {store : Store} {access : AccessibleJobFinancialRecord}
    (granted : getAccessibleJobOrThrow jobId actor store = .ok access) :
    access.isAdmin = (actor.role.getD .customer).isAdmin := by
  rw [getAccessibleJobOrThrow, gate_bind_eq_ok] at granted
  obtain ⟨job, _, resolved⟩ := granted
  exact resolveJobAccess_isAdmin resolved

theorem getJobFinancialState_eq {first second : Store}
    (same : SameToParticipants first second) (jobId : JobId) (actor : IntentActorInput)
    (now : Time) (participant : (actor.role.getD .customer).isAdmin = false) :
    getJobFinancialState jobId actor now first = getJobFinancialState jobId actor now second := by
  have sameAccess : getAccessibleJobOrThrow jobId actor first =
      getAccessibleJobOrThrow jobId actor second :=
    same.view_eq (getAccessibleJobOrThrow jobId actor) fun _ _ _ => rfl
  simp only [getJobFinancialState]
  rw [sameAccess]
  cases granted : getAccessibleJobOrThrow jobId actor second with
  | error error =>
      rfl
  | ok access =>
      have outsider : access.isAdmin = false := by
        rw [getAccessibleJobOrThrow_isAdmin granted]
        exact participant
      have refunds : (first.refunds.rows.filter fun refund => refund.jobId = jobId).map
            (serializeRefundRequest first false now) =
          (second.refunds.rows.filter fun refund => refund.jobId = jobId).map
            (serializeRefundRequest second false now) := by
        rw [same.books]
        exact List.map_congr_left fun refund _ => serializeRefundRequest_eq same now refund
      change Except.ok _ = Except.ok _
      simp only [outsider, refunds]
      rw [same.books, same.market]

/-! ## Refund operations -/

/-- The statements treat stores which look alike alike, and return the same. -/
abbrev Blind {α : Type} (action : Service α) : Prop :=
  Action.Matches SameToParticipants Eq action action

section Statements

variable {α β : Type}

theorem blind_bind {first : Service α} {next : α → Service β} (begins : Blind first)
    (continues : ∀ value, Blind (next value)) : Blind (first >>= next) :=
  Action.matches_bind begins fun value other same => by
    rw [← same]
    exact continues value

theorem blind_pure (value : α) : Blind (pure value : Service α) :=
  Action.matches_pure rfl

theorem blind_inspect {view : Store → α}
    (evenHanded : ∀ (store : Store) incidents incidentEvents,
      view { store with incidents := incidents, incidentEvents := incidentEvents } =
        view store) : Blind (.inspect view) :=
  Action.matches_inspect fun _ _ same => same.view_eq view evenHanded

theorem blind_consult {checks : Store → Except ApiError α}
    (evenHanded : ∀ (store : Store) incidents incidentEvents,
      checks { store with incidents := incidents, incidentEvents := incidentEvents } =
        checks store) : Blind (.consult checks) := by
  refine Action.matches_consult fun state other same => ?_
  rw [same.view_eq checks evenHanded]
  cases checks other with
  | error error => exact .error error
  | ok value => exact .ok rfl

theorem blind_alter {update : Store → Store}
    (evenHanded : ∀ (store : Store) incidents incidentEvents,
      update { store with incidents := incidents, incidentEvents := incidentEvents } =
        { update store with
          incidents := incidents
          incidentEvents := incidentEvents }) : Blind (.alter update) :=
  Action.matches_alter fun _ _ same => same.write update evenHanded

theorem blind_transaction {body : Service α} (statements : Blind body) :
    Blind (.transaction body) :=
  Action.matches_transaction statements

end Statements

/-- An incident written the same way, and events participants read alike. -/
theorem SameToParticipants.rewrite {first second : Store}
    (same : SameToParticipants first second) (id : Nat)
    (change other : OperationalIncident → OperationalIncident)
    (keeps : ∀ row, Keyed.key (change row) = Keyed.key row)
    (otherKeeps : ∀ row, Keyed.key (other row) = Keyed.key row)
    (alike : ∀ row row', LooksAlike row row' → LooksAlike (change row) (other row'))
    {events otherEvents : List OperationalIncidentEvent}
    (told : participantEvents events = participantEvents otherEvents) :
    SameToParticipants
      { first with
        incidents := first.incidents.update id change keeps
        incidentEvents := first.incidentEvents ++ events }
      { second with
        incidents := second.incidents.update id other otherKeeps
        incidentEvents := second.incidentEvents ++ otherEvents } where
  books := same.books
  market := same.market
  payments := same.payments
  incidents := same.incidents.update id keeps otherKeeps (fun _ _ alike => alike.key) alike
  told := by
    rw [participantEvents_append, participantEvents_append, same.told, told]

theorem SameToParticipants.open {first second : Store}
    (same : SameToParticipants first second) (make other : Nat → OperationalIncident)
    (keyed : ∀ id, Keyed.key (make id) = id) (otherKeyed : ∀ id, Keyed.key (other id) = id)
    (alike : ∀ id, LooksAlike (make id) (other id))
    {events otherEvents : List OperationalIncidentEvent}
    (told : participantEvents events = participantEvents otherEvents) :
    SameToParticipants
      { first with
        incidents := first.incidents.insert make keyed
        incidentEvents := first.incidentEvents ++ events }
      { second with
        incidents := second.incidents.insert other otherKeyed
        incidentEvents := second.incidentEvents ++ otherEvents } where
  books := same.books
  market := same.market
  payments := same.payments
  incidents := same.incidents.insert keyed otherKeyed alike
  told := by
    rw [participantEvents_append, participantEvents_append, same.told, told]

theorem blind_syncRefundCaseDecision (input : RefundDecisionInput) (now : Time) :
    Blind (syncRefundCaseDecision input now) := by
  intro first second same
  rw [syncRefundCaseDecision_apply, syncRefundCaseDecision_apply]
  refine ⟨.ok rfl, ?_⟩
  have newest := same.newestCase input.refundRequestId
  generalize newestCase input.refundRequestId first = row at newest ⊢
  generalize newestCase input.refundRequestId second = other at newest ⊢
  cases newest with
  | none =>
      exact same
  | @some row other alike =>
      have sameId : row.id = other.id := alike.key
      simp only [sameId]
      refine same.rewrite other.id (decidedIncident input row now)
        (decidedIncident input other now) (fun _ => rfl) (fun _ => rfl) ?_ rfl
      intro old old' agree
      have resolved : row.resolvedAt = other.resolvedAt :=
        alike.part OperationalIncident.resolvedAt fun _ => rfl
      have decided : ∀ existing : OperationalIncident, existing.resolvedAt = row.resolvedAt →
          ∀ incident, publicPart (decidedIncident input existing now incident) =
            { publicPart incident with
              status := if input.refundStatus = .canceled then .canceled else .resolved
              resolvedAt := row.resolvedAt.or (some now) } := by
        intro existing sameTime incident
        rw [← sameTime]
        rfl
      rw [LooksAlike, decided row rfl, decided other resolved.symm, agree]

theorem matches_ensureRefundDisputeCase (input : RefundDisputeInput) (now : Time) :
    Action.Matches SameToParticipants (fun _ _ => True)
      (ensureRefundDisputeCase input now) (ensureRefundDisputeCase input now) := by
  intro first second same
  have existing := @Table.Alike.findFirst? _ _ _ _ _ same.incidents
    (fun incident => incident.relatedRefundRequestId = some input.refundRequestId &&
      !incident.status.isClosed)
    fun row other alike => by rw [alike.related, alike.status]
  unfold ensureRefundDisputeCase
  simp only [Action.inspect_bind_apply]
  generalize first.incidents.findFirst? _ = row at existing ⊢
  generalize second.incidents.findFirst? _ = other at existing ⊢
  cases existing with
  | some alike =>
      exact ⟨.ok trivial, same⟩
  | none =>
      refine ⟨.ok trivial, ?_⟩
      refine same.open (disputeIncident input now) (disputeIncident input now)
        (fun _ => rfl) (fun _ => rfl) (fun _ => rfl) ?_
      simp only [same.incidents.nextId]

theorem blind_createTransaction (make : TransactionId → PaymentTransaction)
    (keyed : ∀ id, Keyed.key (make id) = id) : Blind (createTransaction make keyed) := by
  refine blind_bind (blind_inspect fun _ _ _ => rfl) fun row => ?_
  refine blind_bind (blind_inspect fun _ _ _ => rfl) fun admitted => ?_
  refine blind_bind (Action.matches_require _ _) fun _ => ?_
  refine blind_bind (blind_alter fun _ _ _ => rfl) fun _ => ?_
  exact blind_pure row

theorem blind_createJobRefundRequest (jobId : JobId) (actor : IntentActorInput)
    (dto : CreateJobRefundRequestDto) (now : Time) :
    Blind (createJobRefundRequest jobId actor dto now) := by
  refine blind_bind (blind_consult fun _ _ _ => rfl) fun terms => ?_
  refine blind_transaction ?_
  refine blind_bind (blind_inspect fun _ _ _ => rfl) fun created => ?_
  refine blind_bind (blind_alter fun _ _ _ => rfl) fun _ => ?_
  exact Action.matches_bind (matches_ensureRefundDisputeCase _ now) fun _ _ _ =>
    blind_pure created

theorem blind_decideRefund (refundRequestId : RefundId)
    (change : RefundRequest → RefundRequest)
    (keeps : ∀ refund, Keyed.key (change refund) = Keyed.key refund)
    (decision : RefundDecisionInput) (now : Time) :
    Blind (decideRefund refundRequestId change keeps decision now) := by
  refine blind_transaction ?_
  refine blind_bind (blind_alter fun _ _ _ => rfl) fun _ => ?_
  refine blind_bind (blind_syncRefundCaseDecision decision now) fun _ => ?_
  exact blind_consult fun _ _ _ => rfl

theorem blind_cancelRefundRequest (refundRequestId : RefundId) (actor : IntentActorInput)
    (now : Time) : Blind (cancelRefundRequest refundRequestId actor now) := by
  refine blind_bind (blind_consult fun _ _ _ => rfl) fun terms => ?_
  exact blind_decideRefund _ _ _ _ now

theorem blind_adminRejectRefund (actorUserId : UserId) (refundRequestId : RefundId)
    (dto : RejectRefundRequestDto) (now : Time) :
    Blind (adminRejectRefund actorUserId refundRequestId dto now) := by
  refine blind_bind (blind_consult fun _ _ _ => rfl) fun refund => ?_
  refine blind_bind (blind_decideRefund _ _ _ _ now) fun updated => ?_
  refine blind_bind (blind_consult fun _ _ _ => rfl) fun _ => ?_
  exact blind_pure updated

theorem blind_appendRefundLedgerEntries (intent : PaymentIntent)
    (transactionId : TransactionId) (amount : Int) (shares : RefundShares)
    (actorUserId : UserId) :
    Blind (appendRefundLedgerEntries intent transactionId amount shares actorUserId) := by
  refine blind_bind (blind_inspect fun _ _ _ => rfl) fun balances => ?_
  refine blind_bind (Action.matches_require _ _) fun _ => ?_
  refine blind_bind (Action.matches_require _ _) fun _ => ?_
  exact blind_alter fun _ _ _ => rfl

theorem blind_recordRefund (order : RefundOrder) (record : RefundRequest)
    (actorUserId : UserId) (decisionNote : Option String) (answer : GatewayResult)
    (now : Time) : Blind (recordRefund order record actorUserId decisionNote answer now) := by
  refine blind_bind (blind_createTransaction _ _) fun transaction => ?_
  refine blind_bind (blind_alter fun _ _ _ => rfl) fun _ => ?_
  refine blind_bind (blind_syncRefundCaseDecision _ now) fun _ => ?_
  have reads : Blind (.consult fun store =>
      orThrow (store.refunds.find? record.id) (.database "P2025")) :=
    blind_consult fun _ _ _ => rfl
  by_cases succeeded : transaction.status = .succeeded
  · simp only [if_pos succeeded]
    exact blind_bind (blind_appendRefundLedgerEntries _ _ _ _ actorUserId) fun _ => reads
  · simp only [if_neg succeeded]
    exact reads

theorem blind_processRefundRequest (refundRequestId : RefundId) (actorUserId : UserId)
    (decisionNote : Option String) (answer : GatewayResult) (now : Time) :
    Blind (processRefundRequest refundRequestId actorUserId decisionNote answer now) := by
  refine blind_bind (blind_consult fun _ _ _ => rfl) fun order => ?_
  refine blind_transaction ?_
  refine blind_bind (blind_consult fun _ _ _ => rfl) fun record => ?_
  refine blind_bind (blind_alter fun _ _ _ => rfl) fun _ => ?_
  refine blind_bind (Action.matches_call _) fun _ => ?_
  exact blind_recordRefund order record actorUserId decisionNote answer now

theorem blind_adminApproveRefund (actorUserId : UserId) (refundRequestId : RefundId)
    (decisionNote : Option String) (answer : GatewayResult) (now : Time) :
    Blind (adminApproveRefund actorUserId refundRequestId decisionNote answer now) := by
  refine blind_bind (blind_consult fun _ _ _ => rfl) fun refund => ?_
  refine blind_bind (blind_processRefundRequest _ actorUserId _ answer now) fun processed => ?_
  refine blind_bind (blind_consult fun _ _ _ => rfl) fun _ => ?_
  exact blind_pure processed

theorem blind_adminCreateRefund (actorUserId : UserId) (dto : CreateRefundRequestDto)
    (answer : GatewayResult) (now : Time) :
    Blind (adminCreateRefund actorUserId dto answer now) := by
  refine blind_bind (blind_consult fun _ _ _ => rfl) fun terms => ?_
  refine blind_bind (blind_inspect fun _ _ _ => rfl) fun created => ?_
  refine blind_bind (blind_alter fun _ _ _ => rfl) fun _ => ?_
  refine blind_bind (blind_processRefundRequest _ actorUserId none answer now)
    fun processed => ?_
  refine blind_bind (blind_consult fun _ _ _ => rfl) fun _ => ?_
  exact blind_pure processed

/-! ## Incident operations -/

theorem participantEvents_creationEvents (actorUserId otherActorUserId : UserId)
    (actorName otherActorName : String) (dto : CreateOperationalIncidentDto) (id : Nat) :
    participantEvents (creationEvents actorUserId actorName dto id) =
      participantEvents (creationEvents otherActorUserId otherActorName dto id) := by
  simp only [creationEvents, participantEvents_append]
  split_ifs <;> rfl

theorem createIncident_same {first second : Store} (same : SameToParticipants first second)
    (interventions : Nat → Bool) (actorUserId otherActorUserId : UserId)
    (dto : CreateOperationalIncidentDto) (now : Time) :
    SameToParticipants (createIncident interventions actorUserId dto now first).state
      (createIncident interventions otherActorUserId dto now second).state := by
  have sameChecks : assertRelatedEntitiesExist interventions dto first =
      assertRelatedEntitiesExist interventions dto second :=
    same.view_eq (assertRelatedEntitiesExist interventions dto) fun _ _ _ => rfl
  rw [createIncident, createIncident, Action.consult_bind_apply, Action.consult_bind_apply,
    sameChecks]
  cases assertRelatedEntitiesExist interventions dto second with
  | error error =>
      exact same
  | ok checked =>
      refine same.open (createdIncident actorUserId dto now)
        (createdIncident otherActorUserId dto now) (fun _ => rfl) (fun _ => rfl)
        (fun _ => rfl) ?_
      have told := participantEvents_creationEvents actorUserId otherActorUserId
        (resolveActorName actorUserId first.market)
        (resolveActorName otherActorUserId second.market) dto first.incidents.nextId
      rw [same.incidents.nextId] at told
      have sameId : first.incidents.nextId = second.incidents.nextId := same.incidents.nextId
      refine Eq.trans ?_ told
      exact congrArg (fun id => participantEvents
        (creationEvents actorUserId (resolveActorName actorUserId first.market) dto id)) sameId

/-- The status a case is moved to has a text of its own for the participants. -/
def ToldWithoutNote (status : OperationalIncidentStatus) : Prop :=
  status = .investigating ∨ status = .mitigating ∨ status = .monitoring

instance (status : OperationalIncidentStatus) : Decidable (ToldWithoutNote status) :=
  inferInstanceAs (Decidable (_ ∨ _ ∨ _))

namespace IncidentUpdate

/-- The note of the update which participants are told. -/
def toldNote (next : IncidentUpdate) : Option String :=
  if next.changesStatus ∧ ¬ ToldWithoutNote next.nextStatus then
    truthy (next.statedNote.map trim)
  else
    none

/-- The update without what is internal to the case. -/
def publicPart (next : IncidentUpdate) : IncidentUpdate :=
  { next with
    existing := SupportOps.publicPart next.existing
    changes := { next.changes with resolutionNote := none }
    nextOwnerAdminUserId := next.nextOwnerAdminUserId.map fun _ => 0 }

theorem publicPart_updatedIncident (next : IncidentUpdate) (now : Time)
    (row : OperationalIncident) :
    SupportOps.publicPart (updatedIncident next now row) =
      SupportOps.publicPart
        (updatedIncident next.publicPart now (SupportOps.publicPart row)) := by
  simp only [SupportOps.publicPart, publicPart, updatedIncident, Option.isSome_map,
    Option.map_map, Function.comp_def]
  rfl

/-- What participants are told by an update. -/
def toldEvents (next : IncidentUpdate) : List OperationalIncidentEvent :=
  (if next.changesOwner && next.isParticipantCase then
    [⟨next.existing.id, .ownerAssigned, .participants, "Caso assumido",
      "A equipa de suporte assumiu o caso e iniciou o tratamento.", none,
      some "Equipa de suporte"⟩]
  else
    []) ++
  if next.changesStatus && next.isParticipantCase then
    [{ buildParticipantStatusEvent next.existing.id 0 next.nextStatus next.statedNote with
       actorUserId := none }]
  else
    []

theorem participantEvents_events (next : IncidentUpdate) (actorUserId : UserId)
    (actorName : String) :
    participantEvents (next.events actorUserId actorName) = next.toldEvents := by
  have owner : participantEvents (next.ownerEvents actorUserId actorName) =
      if next.changesOwner && next.isParticipantCase then
        [⟨next.existing.id, .ownerAssigned, .participants, "Caso assumido",
          "A equipa de suporte assumiu o caso e iniciou o tratamento.", none,
          some "Equipa de suporte"⟩]
      else
        [] := by
    cases changes : next.changesOwner <;> cases case : next.isParticipantCase <;>
      simp [ownerEvents, changes, case, participantEvents]
  have status : participantEvents (next.statusEvents actorUserId actorName) =
      if next.changesStatus && next.isParticipantCase then
        [{ buildParticipantStatusEvent next.existing.id 0 next.nextStatus next.statedNote with
           actorUserId := none }]
      else
        [] := by
    cases changes : next.changesStatus <;> cases case : next.isParticipantCase <;>
      simp only [statusEvents, changes, case] <;> cases next.nextStatus <;> rfl
  have sla : participantEvents (next.slaEvents actorUserId actorName) = [] := by
    simp only [slaEvents]
    split
    · rfl
    · split_ifs <;> rfl
  have evidence : participantEvents (next.evidenceEvents actorUserId actorName) = [] := by
    simp only [evidenceEvents]
    split
    · rfl
    · split_ifs <;> rfl
  simp only [events, participantEvents_append, owner, status, sla, evidence, toldEvents,
    List.append_nil]

theorem buildParticipantStatusEvent_eq {id : Nat} {actorUserId : UserId}
    {status : OperationalIncidentStatus} {note otherNote : Option String}
    (same : ¬ ToldWithoutNote status →
      truthy (note.map trim) = truthy (otherNote.map trim)) :
    buildParticipantStatusEvent id actorUserId status note =
      buildParticipantStatusEvent id actorUserId status otherNote := by
  cases status with
  | investigating => rfl
  | mitigating => rfl
  | monitoring => rfl
  | «open» =>
      simp only [buildParticipantStatusEvent, same (by decide)]
  | resolved =>
      simp only [buildParticipantStatusEvent, same (by decide)]
  | canceled =>
      simp only [buildParticipantStatusEvent, same (by decide)]

/-- Two updates tell the same if the owner changes in both or in neither, and
the notes told are the same. -/
theorem toldEvents_eq {next other : IncidentUpdate}
    (alike : LooksAlike next.existing other.existing)
    (sameStatus : next.nextStatus = other.nextStatus)
    (aligned : next.isParticipantCase = true →
      next.changesOwner = other.changesOwner ∧ next.toldNote = other.toldNote) :
    next.toldEvents = other.toldEvents := by
  have sameCase : next.isParticipantCase = other.isParticipantCase := by
    simp only [isParticipantCase, alike.related]
  have sameChange : next.changesStatus = other.changesStatus := by
    simp only [changesStatus, sameStatus, alike.status]
  have sameId : next.existing.id = other.existing.id := alike.key
  cases case : next.isParticipantCase with
  | false =>
      simp only [toldEvents, ← sameCase, case, Bool.and_false, Bool.false_eq_true, if_false]
  | true =>
      obtain ⟨sameOwner, sameNote⟩ := aligned case
      cases changes : next.changesStatus with
      | false =>
          simp only [toldEvents, ← sameCase, ← sameChange, case, changes, sameOwner, sameId,
            Bool.false_and, Bool.false_eq_true, if_false]
      | true =>
          have told : buildParticipantStatusEvent other.existing.id 0 next.nextStatus
                next.statedNote =
              buildParticipantStatusEvent other.existing.id 0 other.nextStatus
                other.statedNote := by
            rw [sameStatus]
            refine buildParticipantStatusEvent_eq fun withNote => ?_
            simp only [toldNote, ← sameChange, changes, sameStatus, true_and, withNote,
              not_false_eq_true, if_true] at sameNote
            exact sameNote
          simp only [toldEvents, ← sameCase, ← sameChange, case, changes, sameOwner, sameId,
            told]

end IncidentUpdate

/-- The columns of two requests which differ in the note alone. -/
theorem readChanges_sameResult (dto : UpdateOperationalIncidentDto) (note : Field String)
    (sameNull : dto.resolutionNote = .null ↔ note = .null) :
    SameResult
      (fun changes other : RequestedChanges =>
        { changes with resolutionNote := none } = { other with resolutionNote := none })
      (readChanges dto) (readChanges { dto with resolutionNote := note }) := by
  unfold readChanges
  generalize trimmedField dto.impactedArea = area
  generalize trimmedField dto.customerImpact = impact
  generalize requiredField dto.source = source
  generalize requiredField dto.severity = severity
  generalize dto.resolutionNote = given at sameNull
  have refused : given = .null → note = .null := sameNull.mp
  have refusedOther : note = .null → given = .null := sameNull.mpr
  have continued : ∀ stated otherStated : Option (Option String),
      SameResult
        (fun changes other : RequestedChanges =>
          { changes with resolutionNote := none } = { other with resolutionNote := none })
        (do
          let impactedArea ← area
          let customerImpact ← impact
          let source ← source
          let severity ← severity
          pure (⟨stated, impactedArea, customerImpact, source, severity⟩ : RequestedChanges))
        (do
          let impactedArea ← area
          let customerImpact ← impact
          let source ← source
          let severity ← severity
          pure ⟨otherStated, impactedArea, customerImpact, source, severity⟩) := by
    intro stated otherStated
    cases area with
    | error error => exact .error error
    | ok area =>
        cases impact with
        | error error => exact .error error
        | ok impact =>
            cases source with
            | error error => exact .error error
            | ok source =>
                cases severity with
                | error error => exact .error error
                | ok severity => exact .ok rfl
  cases given with
  | null =>
      rw [refused rfl]
      exact .error IncidentError.typeError
  | absent =>
      cases note with
      | null => exact nomatch refusedOther rfl
      | absent => exact continued none none
      | value text => exact continued none (some (truthy (some (trim text))))
  | value text =>
      cases note with
      | null => exact nomatch refusedOther rfl
      | absent => exact continued (some (truthy (some (trim text)))) none
      | value other =>
          exact continued (some (truthy (some (trim text)))) (some (truthy (some (trim other))))

/-- Two updates of a case whose requests differ in the note and the administrator. -/
structure AlignedUpdates (incidentId : Nat) (actorUserId otherActorUserId : UserId)
    (dto : UpdateOperationalIncidentDto) (note : Field String) (first second : Store) :
    Prop where
  sameNull : dto.resolutionNote = .null ↔ note = .null
  told : ∀ next other : IncidentUpdate,
    prepareUpdate incidentId actorUserId dto first = .ok next →
    prepareUpdate incidentId otherActorUserId { dto with resolutionNote := note } second =
      .ok other →
    next.isParticipantCase = true →
      next.changesOwner = other.changesOwner ∧ next.toldNote = other.toldNote

theorem publicPart_plannedUpdate {existing other : OperationalIncident}
    (alike : LooksAlike existing other) (actorUserId otherActorUserId : UserId)
    (dto : UpdateOperationalIncidentDto) (note : Field String)
    {changes otherChanges : RequestedChanges}
    (sameChanges : { changes with resolutionNote := none } =
      { otherChanges with resolutionNote := none }) :
    (plannedUpdate actorUserId dto existing changes).publicPart =
      (plannedUpdate otherActorUserId { dto with resolutionNote := note } other
        otherChanges).publicPart := by
  have sameOwner : existing.ownerAdminUserId.map (fun _ => (0 : UserId)) =
      other.ownerAdminUserId.map fun _ => 0 :=
    congrArg OperationalIncident.ownerAdminUserId alike
  have owner : ((if dto.assignToMe then some actorUserId else existing.ownerAdminUserId).map
        fun _ => (0 : UserId)) =
      (if dto.assignToMe then some otherActorUserId else other.ownerAdminUserId).map
        fun _ => 0 := by
    split_ifs
    · rfl
    · exact sameOwner
  have sameExisting : publicPart existing = publicPart other := alike
  simp only [IncidentUpdate.publicPart, plannedUpdate, owner, sameChanges, sameExisting,
    alike.status]

/-- Updates with the same public part which tell the same. -/
theorem applyUpdate_same {first second : Store} (same : SameToParticipants first second)
    {next other : IncidentUpdate} (samePart : next.publicPart = other.publicPart)
    (actorUserId otherActorUserId : UserId) (now : Time)
    (aligned : next.isParticipantCase = true →
      next.changesOwner = other.changesOwner ∧ next.toldNote = other.toldNote) :
    SameToParticipants (Store.applyUpdate first next actorUserId now)
      (Store.applyUpdate second other otherActorUserId now) := by
  have alike : LooksAlike next.existing other.existing :=
    congrArg IncidentUpdate.existing samePart
  have sameStatus : next.nextStatus = other.nextStatus := by
    have same := congrArg IncidentUpdate.nextStatus samePart
    exact same
  have sameTold := IncidentUpdate.toldEvents_eq alike sameStatus aligned
  have sameId : next.existing.id = other.existing.id := alike.key
  simp only [Store.applyUpdate]
  rw [sameId]
  refine same.rewrite other.existing.id (updatedIncident next now)
    (updatedIncident other now) (fun _ => rfl) (fun _ => rfl) ?_ ?_
  · intro row row' agree
    calc publicPart (updatedIncident next now row)
        = publicPart (updatedIncident next.publicPart now (publicPart row)) :=
          next.publicPart_updatedIncident now row
      _ = publicPart (updatedIncident other.publicPart now (publicPart row')) := by
          rw [samePart, agree]
      _ = publicPart (updatedIncident other now row') :=
          (other.publicPart_updatedIncident now row').symm
  · rw [IncidentUpdate.participantEvents_events, IncidentUpdate.participantEvents_events,
      sameTold]

theorem updateIncident_same {first second : Store} (same : SameToParticipants first second)
    {incidentId : Nat} {actorUserId otherActorUserId : UserId}
    {dto : UpdateOperationalIncidentDto} {note : Field String} (now : Time)
    (aligned : AlignedUpdates incidentId actorUserId otherActorUserId dto note first second) :
    SameToParticipants (updateIncident incidentId actorUserId dto now first).state
      (updateIncident incidentId otherActorUserId { dto with resolutionNote := note } now
        second).state := by
  have told := aligned.told
  rw [updateIncident_state, updateIncident_state]
  have existing := same.incidents.find? (fun _ _ alike => alike.key) incidentId
  have read := readChanges_sameResult dto note aligned.sameNull
  simp only [prepareUpdate] at told ⊢
  generalize first.incidents.find? incidentId = row at existing told ⊢
  generalize second.incidents.find? incidentId = other at existing told ⊢
  generalize readChanges dto = changes at read told ⊢
  generalize readChanges { dto with resolutionNote := note } = otherChanges at read told ⊢
  cases existing with
  | none =>
      exact same
  | @some row other alike =>
      cases read with
      | error error =>
          exact same
      | @ok changes otherChanges sameChanges =>
          have samePlan := publicPart_plannedUpdate alike actorUserId otherActorUserId dto
            note sameChanges
          exact applyUpdate_same same samePlan actorUserId otherActorUserId now
            (told _ _ rfl rfl)

/-! ## Two runs -/

/-- The five calls which create or decide refund requests. -/
def ofRefund : Operation → Bool
  | .createJobRefundRequest .. => true
  | .cancelRefundRequest .. => true
  | .adminRejectRefund .. => true
  | .adminApproveRefund .. => true
  | .adminCreateRefund .. => true
  | _ => false

/-- Two calls which differ in nothing but inputs internal to the cases. -/
inductive Twins : SupportOperation → SupportOperation → Prop where
  | refund (operation : Operation) (isRefund : ofRefund operation = true) :
      Twins (.payment operation) (.payment operation)
  | createIncident (interventions : Nat → Bool) (actorUserId otherActorUserId : UserId)
      (dto : CreateOperationalIncidentDto) (now : Time) :
      Twins (.createIncident interventions actorUserId dto now)
        (.createIncident interventions otherActorUserId dto now)
  | updateIncident (incidentId : Nat) (actorUserId otherActorUserId : UserId)
      (dto : UpdateOperationalIncidentDto) (note : Field String) (now : Time) :
      Twins (.updateIncident incidentId actorUserId dto now)
        (.updateIncident incidentId otherActorUserId { dto with resolutionNote := note } now)

/-- The condition on a pair of calls: two updates tell the participants the same. -/
def Aligned (stores : Store × Store) : SupportOperation × SupportOperation → Prop
  | (.updateIncident incidentId actorUserId dto _,
      .updateIncident _ otherActorUserId otherDto _) =>
      AlignedUpdates incidentId actorUserId otherActorUserId dto otherDto.resolutionNote
        stores.1 stores.2
  | _ => True

theorem refund_same {first second : Store} (same : SameToParticipants first second)
    (operation : Operation) (isRefund : ofRefund operation = true) :
    SameToParticipants (operation.perform first) (operation.perform second) := by
  cases operation with
  | createJobRefundRequest jobId actor dto now =>
      exact (blind_createJobRefundRequest jobId actor dto now first second same).2
  | cancelRefundRequest refundRequestId actor now =>
      exact (blind_cancelRefundRequest refundRequestId actor now first second same).2
  | adminRejectRefund actorUserId refundRequestId dto now =>
      exact (blind_adminRejectRefund actorUserId refundRequestId dto now first second same).2
  | adminApproveRefund actorUserId refundRequestId decisionNote answer now =>
      exact (blind_adminApproveRefund actorUserId refundRequestId decisionNote answer now
        first second same).2
  | adminCreateRefund actorUserId dto answer now =>
      exact (blind_adminCreateRefund actorUserId dto answer now first second same).2
  | _ => cases isRefund

theorem twins_same {first second : Store} (same : SameToParticipants first second)
    {operations : SupportOperation × SupportOperation}
    (twins : Twins operations.1 operations.2) (aligned : Aligned (first, second) operations) :
    SameToParticipants (operations.1.perform first) (operations.2.perform second) := by
  obtain ⟨operation, other⟩ := operations
  cases twins with
  | refund call isRefund =>
      exact refund_same same call isRefund
  | createIncident interventions actorUserId otherActorUserId dto now =>
      exact createIncident_same same interventions actorUserId otherActorUserId dto now
  | updateIncident incidentId actorUserId otherActorUserId dto note now =>
      exact updateIncident_same same now aligned

/-- From one store, two runs which differ only in inputs internal to the cases,
and tell the participants of the same owner changes and the same notes (those of
closed cases, and by a defect those of cases moved back to `OPEN`), leave them the
same answer. -/
theorem participants_see_the_same (store : Store)
    (runs : List (SupportOperation × SupportOperation))
    (twins : ∀ operations ∈ runs, Twins operations.1 operations.2)
    (aligned : support.twice.Along Aligned (store, store) runs)
    (jobId : JobId) (actor : IntentActorInput) (now : Time)
    (participant : (actor.role.getD .customer).isAdmin = false) :
    getJobFinancialState jobId actor now (support.run store (runs.map Prod.fst)) =
      getJobFinancialState jobId actor now (support.run store (runs.map Prod.snd)) := by
  have ends : SameToParticipants (support.run store (runs.map Prod.fst))
      (support.run store (runs.map Prod.snd)) :=
    @Machine.related_runs _ _ support SameToParticipants
      (fun stores operations => Aligned stores operations ∧ Twins operations.1 operations.2)
      (fun first second operations same met => twins_same same met.2 met.1)
      store store (SameToParticipants.refl store) runs (aligned.and_forall_mem twins)
  exact getJobFinancialState_eq ends jobId actor now participant

/-! ## The condition, evaluated -/

section Decidable

variable (incidentId : Nat) (actorUserId otherActorUserId : UserId)
  (dto : UpdateOperationalIncidentDto) (note : Field String) (first second : Store)

def alignedUpdates? : Bool :=
  decide (dto.resolutionNote = .null ↔ note = .null) &&
    match prepareUpdate incidentId actorUserId dto first,
        prepareUpdate incidentId otherActorUserId { dto with resolutionNote := note }
          second with
    | .ok next, .ok other =>
        decide (next.isParticipantCase = true →
          next.changesOwner = other.changesOwner ∧ next.toldNote = other.toldNote)
    | _, _ => true

theorem alignedUpdates?_iff :
    alignedUpdates? incidentId actorUserId otherActorUserId dto note first second = true ↔
      AlignedUpdates incidentId actorUserId otherActorUserId dto note first second := by
  simp only [alignedUpdates?, Bool.and_eq_true, decide_eq_true_eq]
  constructor
  · rintro ⟨sameNull, told⟩
    refine ⟨sameNull, fun next other prepared otherPrepared => ?_⟩
    simp only [prepared, otherPrepared, decide_eq_true_eq] at told
    exact told
  · intro aligned
    refine ⟨aligned.sameNull, ?_⟩
    split
    · rename_i next other prepared otherPrepared
      exact decide_eq_true (aligned.told next other prepared otherPrepared)
    · rfl

instance : Decidable
    (AlignedUpdates incidentId actorUserId otherActorUserId dto note first second) :=
  decidable_of_iff _
    (alignedUpdates?_iff incidentId actorUserId otherActorUserId dto note first second)

end Decidable

instance (stores : Store × Store) (operations : SupportOperation × SupportOperation) :
    Decidable (Aligned stores operations) := by
  unfold Aligned
  split <;> infer_instance

/-! ## The runs a participant can tell apart -/

section Sample

def sampleStaff : Marketplace :=
  { sampleMarketplace with
    users := sampleMarketplace.users.insert fun id => ⟨id, "ops@tchuno.test", some "Ops"⟩ }

/-- A paid deposit which the customer asks back, with two administrators. -/
def sampleDisputedStore : Store :=
  support.run (Store.initial sampleStaff) (sampleRequest.map .payment)

/-- The case is closed with one of two notes. -/
def sampleNotes : List (SupportOperation × SupportOperation) :=
  [(.updateIncident 0 2
      { sampleStatusUpdate .resolved with resolutionNote := .value "Fraude" } 9,
    .updateIncident 0 2
      { sampleStatusUpdate .resolved with resolutionNote := .value "Engano" } 9)]

/-- The case is taken over by its owner, or by somebody else. -/
def sampleOwners : List (SupportOperation × SupportOperation) :=
  [(.updateIncident 0 2 { sampleStatusUpdate .open with assignToMe := true } 8,
    .updateIncident 0 2 { sampleStatusUpdate .open with assignToMe := true } 8),
    (.updateIncident 0 2 { sampleStatusUpdate .open with assignToMe := true } 9,
      .updateIncident 0 3 { sampleStatusUpdate .open with assignToMe := true } 9)]

/-- The case is taken over and examined by one of two administrators, with
different notes. -/
def sampleInvestigations : List (SupportOperation × SupportOperation) :=
  [(.updateIncident 0 2
      { sampleStatusUpdate .investigating with
        assignToMe := true
        resolutionNote := .value "Ligar ao cliente" } 9,
    .updateIncident 0 3
      { sampleStatusUpdate .investigating with
        assignToMe := true
        resolutionNote := .value "Esperar" } 9)]

def sampleTimeline (store : Store) : Option (List TimelineEvent) :=
  (getJobFinancialState 0 ⟨0, some .customer⟩ 10 store).toOption.bind fun state =>
    (state.refunds.head?.bind SerializedRefund.supportCase).map SupportCaseDto.timeline

theorem twins_sampleNotes : ∀ operations ∈ sampleNotes, Twins operations.1 operations.2 := by
  intro operations member
  obtain rfl := List.mem_singleton.mp member
  exact .updateIncident 0 2 2 _ (.value "Engano") 9

theorem twins_sampleOwners :
    ∀ operations ∈ sampleOwners, Twins operations.1 operations.2 := by
  intro operations member
  rcases List.mem_pair.mp member with rfl | rfl
  · exact .updateIncident 0 2 2 _ .absent 8
  · exact .updateIncident 0 2 3 _ .absent 9

/-- The customer reads the closing note, and that the owner changed. -/
theorem participants_tell_apart :
    ((∀ operations ∈ sampleNotes, Twins operations.1 operations.2) ∧
      getJobFinancialState 0 ⟨0, some .customer⟩ 10
          (support.run sampleDisputedStore (sampleNotes.map Prod.fst)) ≠
        getJobFinancialState 0 ⟨0, some .customer⟩ 10
          (support.run sampleDisputedStore (sampleNotes.map Prod.snd))) ∧
    (∀ operations ∈ sampleOwners, Twins operations.1 operations.2) ∧
      getJobFinancialState 0 ⟨0, some .customer⟩ 10
          (support.run sampleDisputedStore (sampleOwners.map Prod.fst)) ≠
        getJobFinancialState 0 ⟨0, some .customer⟩ 10
          (support.run sampleDisputedStore (sampleOwners.map Prod.snd)) := by
  have notes : sampleTimeline (support.run sampleDisputedStore (sampleNotes.map Prod.fst)) ≠
      sampleTimeline (support.run sampleDisputedStore (sampleNotes.map Prod.snd)) := by
    decide +kernel
  have owners : sampleTimeline (support.run sampleDisputedStore (sampleOwners.map Prod.fst)) ≠
      sampleTimeline (support.run sampleDisputedStore (sampleOwners.map Prod.snd)) := by
    decide +kernel
  refine ⟨⟨twins_sampleNotes, fun same => notes ?_⟩, twins_sampleOwners, fun same => owners ?_⟩
  · simp only [sampleTimeline, same]
  · simp only [sampleTimeline, same]

theorem investigations_look_the_same :
    getJobFinancialState 0 ⟨0, some .customer⟩ 10
        (support.run sampleDisputedStore (sampleInvestigations.map Prod.fst)) =
      getJobFinancialState 0 ⟨0, some .customer⟩ 10
        (support.run sampleDisputedStore (sampleInvestigations.map Prod.snd)) := by
  refine participants_see_the_same sampleDisputedStore sampleInvestigations ?_
    (by decide +kernel) 0 ⟨0, some .customer⟩ 10 rfl
  intro operations member
  obtain rfl := List.mem_singleton.mp member
  exact .updateIncident 0 2 3 _ (.value "Esperar") 9

end Sample

end Tchuno.SupportOps
