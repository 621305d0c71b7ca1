import Tchuno.SupportOps.Incidents

/-!
# What every incident record satisfies

Four functions write the incidents.  Each opens a new one, rewrites one that is
there, or leaves them alone; the invariants of the records and of their history
are read off that.
-/

namespace Tchuno.SupportOps

open Tchuno.Library Tchuno.Library.Ecma Tchuno.Payments

/-! ## The properties -/

/-- A record as every service leaves it. -/
structure Recorded (incident : OperationalIncident) : Prop where
  hours_pos : 1 ≤ incident.baseSlaHours
  hours_le : incident.baseSlaHours ≤ 168
  target : incident.slaTargetAt = incident.detectedAt + incident.baseSlaHours * 3600000
  resolved : incident.resolvedAt.isSome ↔
    incident.status = .resolved ∨ incident.status = .canceled
  assumed : incident.ownerAdminUserId.isSome → incident.assumedAt.isSome

/-- The type of event a move to the status is recorded with. -/
def statusEventType (status : OperationalIncidentStatus) : OperationalIncidentEventType :=
  if status = .resolved ∨ status = .canceled then .caseClosed else .statusChanged

/-- What became of an incident, and the events written meanwhile. -/
structure Outlived (incident later : OperationalIncident)
    (events : List OperationalIncidentEvent) : Prop where
  assumed : ∀ time, incident.assumedAt = some time → later.assumedAt = some time
  announced : later.status ≠ incident.status → ∃ event ∈ events,
    event.incidentId = incident.id ∧ event.eventType = statusEventType later.status

/-- No event is lost, and no incident. -/
def Continues (before after : Store) : Prop :=
  ∃ events, after.incidentEvents = before.incidentEvents ++ events ∧
    ∀ incident ∈ before.incidents, ∃ later ∈ after.incidents,
      later.id = incident.id ∧ Outlived incident later events

theorem Outlived.refl (incident : OperationalIncident)
    (events : List OperationalIncidentEvent) : Outlived incident incident events where
  assumed := fun _ same => same
  announced := fun changed => absurd rfl changed

theorem Outlived.trans {incident middle later : OperationalIncident}
    {earlyEvents lateEvents : List OperationalIncidentEvent}
    (early : Outlived incident middle earlyEvents) (late : Outlived middle later lateEvents)
    (same : middle.id = incident.id) :
    Outlived incident later (earlyEvents ++ lateEvents) where
  assumed := fun time assumedAt => late.assumed time (early.assumed time assumedAt)
  announced := by
    intro changed
    by_cases kept : later.status = middle.status
    · have changedEarly : middle.status ≠ incident.status := by
        rw [← kept]
        exact changed
      obtain ⟨event, member, about, type⟩ := early.announced changedEarly
      have type' : event.eventType = statusEventType later.status := by
        rw [kept]
        exact type
      exact ⟨event, List.mem_append_left _ member, about, type'⟩
    · obtain ⟨event, member, about, type⟩ := late.announced kept
      exact ⟨event, List.mem_append_right _ member, about.trans same, type⟩

theorem Continues.refl (store : Store) : Continues store store := by
  refine ⟨[], (List.append_nil _).symm, ?_⟩
  intro incident member
  exact ⟨incident, member, rfl, Outlived.refl incident []⟩

theorem Continues.trans {first second third : Store} (early : Continues first second)
    (late : Continues second third) : Continues first third := by
  obtain ⟨earlyEvents, earlyAppended, earlyOutlived⟩ := early
  obtain ⟨lateEvents, lateAppended, lateOutlived⟩ := late
  refine ⟨earlyEvents ++ lateEvents, ?_, ?_⟩
  · rw [lateAppended, earlyAppended, List.append_assoc]
  · intro incident member
    obtain ⟨middle, middleMember, sameEarly, outlivedEarly⟩ := earlyOutlived incident member
    obtain ⟨later, laterMember, sameLate, outlivedLate⟩ := lateOutlived middle middleMember
    exact ⟨later, laterMember, sameLate.trans sameEarly,
      outlivedEarly.trans outlivedLate sameEarly⟩

/-! ## What one call does to the incidents -/

/-- A call leaves the incidents alone, opens one, or rewrites one. -/
inductive CaseStep (store : Store) : Store → Prop where
  | untouched : CaseStep store store
  | opened (make : Nat → OperationalIncident) (keyed : ∀ id, Keyed.key (make id) = id)
      (events : List OperationalIncidentEvent) (recorded : ∀ id, Recorded (make id)) :
      CaseStep store
        { store with
          incidents := store.incidents.insert make keyed
          incidentEvents := store.incidentEvents ++ events }
  | rewritten (existing : OperationalIncident) (member : existing ∈ store.incidents)
      (change : OperationalIncident → OperationalIncident)
      (keeps : ∀ row, Keyed.key (change row) = Keyed.key row)
      (events : List OperationalIncidentEvent)
      (recorded : Recorded existing → Recorded (change existing))
      (outlived : Outlived existing (change existing) events) :
      CaseStep store
        { store with
          incidents := store.incidents.update existing.id change keeps
          incidentEvents := store.incidentEvents ++ events }

theorem CaseStep.recorded {store after : Store} (step : CaseStep store after)
    (before : ∀ incident ∈ store.incidents, Recorded incident) :
    ∀ incident ∈ after.incidents, Recorded incident := by
  intro incident present
  cases step with
  | untouched =>
      exact before incident present
  | opened make keyed events recorded =>
      rcases (store.incidents.mem_insert make keyed).mp present with rfl | old
      · exact recorded _
      · exact before incident old
  | rewritten existing member change keeps events recorded outlived =>
      obtain ⟨old, oldMember, rfl⟩ := (store.incidents.mem_update change keeps).mp present
      split_ifs with same
      · have known : old = existing :=
          store.incidents.eq_of_key_eq oldMember member same
        rw [known]
        exact recorded (before existing member)
      · exact before old oldMember

theorem CaseStep.continues {store after : Store} (step : CaseStep store after) :
    Continues store after := by
  cases step with
  | untouched =>
      exact Continues.refl store
  | opened make keyed events recorded =>
      refine ⟨events, rfl, ?_⟩
      intro incident member
      have still : incident ∈ store.incidents.insert make keyed :=
        (store.incidents.mem_insert make keyed).mpr (.inr member)
      exact ⟨incident, still, rfl, Outlived.refl incident events⟩
  | rewritten existing member change keeps events recorded outlived =>
      refine ⟨events, rfl, ?_⟩
      intro incident incidentMember
      have still : (if Keyed.key incident = existing.id then change incident else incident) ∈
          store.incidents.update existing.id change keeps :=
        (store.incidents.mem_update change keeps).mpr ⟨incident, incidentMember, rfl⟩
      refine ⟨_, still, ?_⟩
      split_ifs with same
      · have known : incident = existing :=
          store.incidents.eq_of_key_eq incidentMember member same
        subst known
        exact ⟨keeps incident, outlived⟩
      · exact ⟨rfl, Outlived.refl incident events⟩

/-! ## The four functions -/

theorem buildSlaTargetAt_eq (detectedAt : Time) (baseSlaHours : Int) :
    buildSlaTargetAt detectedAt baseSlaHours = detectedAt + baseSlaHours * 3600000 := by
  simp only [buildSlaTargetAt, Int.mul_assoc, Int.reduceMul]

theorem isClosed_iff (status : OperationalIncidentStatus) :
    status.isClosed = true ↔ status = .resolved ∨ status = .canceled := by
  simp [OperationalIncidentStatus.isClosed]

theorem recorded_createdIncident (actorUserId : UserId)
    (dto : CreateOperationalIncidentDto) (now : Time) (id : Nat) :
    Recorded (createdIncident actorUserId dto now id) where
  hours_pos := (resolveDefaultSlaHours_bounds _ _ _).1
  hours_le := (resolveDefaultSlaHours_bounds _ _ _).2
  target := buildSlaTargetAt_eq now dto.slaHours
  resolved := by simp [createdIncident]
  assumed := fun _ => rfl

theorem createIncident_caseStep (interventions : Nat → Bool) (actorUserId : UserId)
    (dto : CreateOperationalIncidentDto) (now : Time) (store : Store) :
    CaseStep store (createIncident interventions actorUserId dto now store).state := by
  rw [createIncident, Action.consult_bind_apply]
  cases assertRelatedEntitiesExist interventions dto store with
  | error error =>
      exact .untouched
  | ok checked =>
      exact .opened (createdIncident actorUserId dto now) (fun _ => rfl)
        (creationEvents actorUserId (resolveActorName actorUserId store.market) dto
          store.incidents.nextId)
        (recorded_createdIncident actorUserId dto now)

theorem recorded_disputeIncident (input : RefundDisputeInput) (now : Time) (id : Nat) :
    Recorded (disputeIncident input now id) where
  hours_pos := by simp [disputeIncident]
  hours_le := by simp [disputeIncident]
  target := buildSlaTargetAt_eq now 24
  resolved := by simp [disputeIncident]
  assumed := fun owned => by simp [disputeIncident] at owned

theorem ensureRefundDisputeCase_caseStep (input : RefundDisputeInput) (now : Time)
    (store : Store) : CaseStep store (ensureRefundDisputeCase input now store).state := by
  rw [ensureRefundDisputeCase, Action.inspect_bind_apply]
  cases store.incidents.findFirst? _ with
  | some incident =>
      exact .untouched
  | none =>
      exact .opened (disputeIncident input now) (fun _ => rfl)
        (disputeEvents input store.incidents.nextId) (recorded_disputeIncident input now)

theorem recorded_decidedIncident (input : RefundDecisionInput) (now : Time)
    {existing : OperationalIncident} (recorded : Recorded existing) :
    Recorded (decidedIncident input existing now existing) where
  hours_pos := recorded.hours_pos
  hours_le := recorded.hours_le
  target := recorded.target
  resolved := by
    have closed : (decidedIncident input existing now existing).status = .resolved ∨
        (decidedIncident input existing now existing).status = .canceled := by
      simp only [decidedIncident]
      split_ifs
      · exact .inr rfl
      · exact .inl rfl
    have dated : (decidedIncident input existing now existing).resolvedAt.isSome := by
      simp [decidedIncident]
    exact ⟨fun _ => closed, fun _ => dated⟩
  assumed := recorded.assumed

theorem syncRefundCaseDecision_caseStep (input : RefundDecisionInput) (now : Time)
    (store : Store) : CaseStep store (syncRefundCaseDecision input now store).state := by
  rw [syncRefundCaseDecision_apply]
  cases found : newestCase input.refundRequestId store with
  | none =>
      exact .untouched
  | some incident =>
      have member : incident ∈ store.incidents := (store.incidents.mem_of_findFirst? found).1
      refine .rewritten incident member (decidedIncident input incident now) (fun _ => rfl)
        (decisionEvents input (decisionNoteOf input) incident.id)
        (recorded_decidedIncident input now) ?_
      refine ⟨fun _ same => same, fun _ => ?_⟩
      -- the third event of a decision closes the case
      refine ⟨_, List.mem_cons_of_mem _ (List.mem_cons_of_mem _ List.mem_cons_self), rfl, ?_⟩
      simp only [statusEventType, decidedIncident]
      split_ifs with canceled closed closed
      · rfl
      · exact absurd (.inr rfl) closed
      · rfl
      · exact absurd (.inl rfl) closed

/-! ## Updates -/

theorem nextSlaHours_bounds {field : Field DtoNumber} {hours : Int}
    (given : nextSlaHours field = some hours) : 1 ≤ hours ∧ hours ≤ 168 := by
  cases field with
  | absent =>
      cases given
  | null =>
      cases given
      exact normalizeBaseSlaHours_bounds .null
  | value numeric =>
      cases given
      exact normalizeBaseSlaHours_bounds (.value numeric)

theorem updatedIncident_hours (next : IncidentUpdate) (now : Time)
    (bounds : ∀ hours, next.nextBaseSlaHours = some hours → 1 ≤ hours ∧ hours ≤ 168)
    (recorded : Recorded next.existing) :
    (1 ≤ (updatedIncident next now next.existing).baseSlaHours ∧
      (updatedIncident next now next.existing).baseSlaHours ≤ 168) ∧
    (updatedIncident next now next.existing).slaTargetAt =
      (updatedIncident next now next.existing).detectedAt +
        (updatedIncident next now next.existing).baseSlaHours * 3600000 := by
  simp only [updatedIncident]
  cases given : next.nextBaseSlaHours with
  | none =>
      exact ⟨⟨recorded.hours_pos, recorded.hours_le⟩, recorded.target⟩
  | some hours =>
      exact ⟨bounds hours given, buildSlaTargetAt_eq next.existing.detectedAt hours⟩

theorem updatedIncident_resolved (next : IncidentUpdate) (now : Time)
    (recorded : Recorded next.existing) :
    (updatedIncident next now next.existing).resolvedAt.isSome ↔
      (updatedIncident next now next.existing).status = .resolved ∨
        (updatedIncident next now next.existing).status = .canceled := by
  have resolved := recorded.resolved
  rw [← isClosed_iff] at resolved ⊢
  simp only [updatedIncident]
  by_cases closed : next.nextStatus.isClosed = true
  · simp [closed]
  · by_cases same : next.nextStatus = next.existing.status
    · rw [if_neg closed, if_pos same, same]
      exact resolved
    · simp [closed, same]

theorem updatedIncident_assumed (next : IncidentUpdate) (now : Time) :
    (updatedIncident next now next.existing).ownerAdminUserId.isSome →
      (updatedIncident next now next.existing).assumedAt.isSome := by
  intro owned
  have assigned : next.nextOwnerAdminUserId.isSome := owned
  simp [updatedIncident, assigned]

theorem recorded_updatedIncident (next : IncidentUpdate) (now : Time)
    (bounds : ∀ hours, next.nextBaseSlaHours = some hours → 1 ≤ hours ∧ hours ≤ 168)
    (recorded : Recorded next.existing) :
    Recorded (updatedIncident next now next.existing) where
  hours_pos := (updatedIncident_hours next now bounds recorded).1.1
  hours_le := (updatedIncident_hours next now bounds recorded).1.2
  target := (updatedIncident_hours next now bounds recorded).2
  resolved := updatedIncident_resolved next now recorded
  assumed := updatedIncident_assumed next now

theorem buildInternalStatusEvent_type (incidentId : Nat) (actorUserId : UserId)
    (actorName : String) (nextStatus : OperationalIncidentStatus) (note : Option String) :
    (buildInternalStatusEvent incidentId actorUserId actorName nextStatus note).incidentId =
        incidentId ∧
      (buildInternalStatusEvent incidentId actorUserId actorName nextStatus note).eventType =
        statusEventType nextStatus := by
  cases nextStatus <;> exact ⟨rfl, rfl⟩

theorem outlived_updatedIncident (next : IncidentUpdate) (actorUserId : UserId)
    (actorName : String) (now : Time) :
    Outlived next.existing (updatedIncident next now next.existing)
      (next.events actorUserId actorName) where
  assumed := by
    intro time same
    simp only [updatedIncident, same]
    split_ifs <;> rfl
  announced := by
    intro changed
    have changesStatus : next.changesStatus = true := by
      simpa [IncidentUpdate.changesStatus, updatedIncident] using changed
    obtain ⟨about, type⟩ := buildInternalStatusEvent_type next.existing.id actorUserId
      actorName next.nextStatus next.statedNote
    refine ⟨_, ?_, about, type⟩
    simp [IncidentUpdate.events, IncidentUpdate.statusEvents, changesStatus]

theorem prepareUpdate_ok {incidentId : Nat} {actorUserId : UserId}
    {dto : UpdateOperationalIncidentDto} {store : Store} {next : IncidentUpdate}
    (prepared : prepareUpdate incidentId actorUserId dto store = .ok next) :
    ∃ existing changes, store.incidents.find? incidentId = some existing ∧
      next = plannedUpdate actorUserId dto existing changes := by
  rw [prepareUpdate] at prepared
  cases found : store.incidents.find? incidentId with
  | none =>
      simp [found] at prepared
  | some existing =>
      cases read : readChanges dto with
      | error error =>
          simp [found, read, Except.map] at prepared
      | ok changes =>
          simp only [found, read, Except.map, Except.ok.injEq] at prepared
          exact ⟨existing, changes, rfl, prepared.symm⟩

/-- What `updateIncident` leaves: nothing changes unless the update is prepared. -/
theorem updateIncident_state (incidentId : Nat) (actorUserId : UserId)
    (dto : UpdateOperationalIncidentDto) (now : Time) (store : Store) :
    (updateIncident incidentId actorUserId dto now store).state =
      match prepareUpdate incidentId actorUserId dto store with
      | .ok next => Store.applyUpdate store next actorUserId now
      | .error _ => store := by
  simp only [updateIncident, Action.transaction, Action.consult_bind_apply]
  cases prepared : prepareUpdate incidentId actorUserId dto store with
  | error error =>
      rfl
  | ok next =>
      obtain ⟨existing, changes, found, rfl⟩ := prepareUpdate_ok prepared
      have still : ((Store.applyUpdate store (plannedUpdate actorUserId dto existing changes)
          actorUserId now).incidents.find? incidentId).isSome := by
        simp only [Store.applyUpdate, Table.find?_update, found, Option.map_some]
        split_ifs <;> rfl
      obtain ⟨row, present⟩ := Option.isSome_iff_exists.mp still
      simp only [Action.alter_bind_apply, Action.consult, present, Option.elim_some]

theorem updateIncident_caseStep (incidentId : Nat) (actorUserId : UserId)
    (dto : UpdateOperationalIncidentDto) (now : Time) (store : Store) :
    CaseStep store (updateIncident incidentId actorUserId dto now store).state := by
  rw [updateIncident_state]
  cases prepared : prepareUpdate incidentId actorUserId dto store with
  | error error =>
      exact .untouched
  | ok next =>
      obtain ⟨existing, changes, found, rfl⟩ := prepareUpdate_ok prepared
      let next := plannedUpdate actorUserId dto existing changes
      have recorded : Recorded existing → Recorded (updatedIncident next now existing) :=
        recorded_updatedIncident next now fun hours given => nextSlaHours_bounds given
      exact .rewritten existing (store.incidents.mem_of_find? found)
        (updatedIncident next now) (fun _ => rfl)
        (next.events actorUserId (resolveActorName actorUserId store.market)) recorded
        (outlived_updatedIncident next actorUserId _ now)

/-! ## Runs -/

theorem perform_caseStep (store : Store) (operation : CaseOperation) :
    CaseStep store (operation.perform store) := by
  cases operation with
  | createIncident interventions actorUserId dto now =>
      exact createIncident_caseStep interventions actorUserId dto now store
  | updateIncident incidentId actorUserId dto now =>
      exact updateIncident_caseStep incidentId actorUserId dto now store
  | ensureRefundDisputeCase input now =>
      exact ensureRefundDisputeCase_caseStep input now store
  | syncRefundCaseDecision input now =>
      exact syncRefundCaseDecision_caseStep input now store

theorem run_continues (store : Store) (operations : List CaseOperation) :
    Continues store (caseKeeping.run store operations) := by
  refine caseKeeping.run_preserves (Continues store) ?_ (Continues.refl store) operations
  intro middle operation before
  have last : Continues middle (operation.perform middle) :=
    (perform_caseStep middle operation).continues
  exact before.trans last

/-- Before the first incident is opened. -/
def WithoutIncidents (store : Store) : Prop :=
  store.incidents.rows = []

/-- Every incident of a reachable store satisfies the record invariants, and
whatever happens next, its `assumedAt` stays and a new status is announced. -/
theorem incidents_recorded {store : Store}
    (reachable : caseKeeping.Reachable WithoutIncidents store)
    (operations : List CaseOperation) :
    (∀ incident ∈ store.incidents, Recorded incident) ∧
      Continues store (caseKeeping.run store operations) := by
  refine ⟨?_, run_continues store operations⟩
  refine @Machine.Reachable.invariant _ _ caseKeeping WithoutIncidents
    (fun store => ∀ incident ∈ store.incidents, Recorded incident) ?_ ?_ store reachable
  · intro start without incident member
    rw [Table.mem_rows, without] at member
    cases member
  · intro before operation recorded
    exact (perform_caseStep before operation).recorded recorded

/-- A platform incident without limits in its request. -/
def sampleIncidentDto : CreateOperationalIncidentDto where
  title := "Gateway down"
  summary := "No charge goes through"
  source := some .platform
  severity := some .critical
  impactedArea := none
  customerImpact := none
  baseSlaHours := none
  evidenceItems := none
  relatedJobId := none
  relatedRefundRequestId := none
  relatedTrustSafetyInterventionId := none

/-- An update of the status alone. -/
def sampleStatusUpdate (status : OperationalIncidentStatus) : UpdateOperationalIncidentDto where
  title := none
  summary := none
  source := .absent
  severity := .absent
  status := some status
  impactedArea := .absent
  customerImpact := .absent
  baseSlaHours := .absent
  assignToMe := false
  evidenceItems := .absent
  resolutionNote := .absent

theorem sample_incident_recorded :
    (∀ incident ∈ (caseKeeping.run (Store.initial sampleMarketplace)
        [.createIncident (fun _ => false) 2 sampleIncidentDto 5]).incidents,
      Recorded incident) ∧
      Continues
        (caseKeeping.run (Store.initial sampleMarketplace)
          [.createIncident (fun _ => false) 2 sampleIncidentDto 5])
        (caseKeeping.run
          (caseKeeping.run (Store.initial sampleMarketplace)
            [.createIncident (fun _ => false) 2 sampleIncidentDto 5])
          [.updateIncident 0 2 (sampleStatusUpdate .resolved) 6,
            .updateIncident 0 2 (sampleStatusUpdate .open) 7]) :=
  incidents_recorded
    (Machine.Reachable.run (.start (show WithoutIncidents (Store.initial sampleMarketplace)
      from rfl)) _) _

end Tchuno.SupportOps
