import Tchuno.Payments.Runs
import Tchuno.Requests.Lifecycle

/-!
# Every invitation follows its lifecycle

Service by service: what each has checked is what its changes of the marketplace need.  A
request which has a job is closed, so that no selection meets a job which is already there.
-/

namespace Tchuno.Requests

open Tchuno.Library Tchuno.Library.Action Tchuno.Library.Ecma Tchuno.Payments

/-! ## The invariant -/

def JobsClosed (store : Store) : Prop :=
  ∀ job ∈ store.jobs, ∀ requestId, job.requestId = some requestId →
    IsClosed store.market requestId

structure Marketed (store : Store) : Prop where
  lifecycle : KeepsLifecycle store.market
  closed : JobsClosed store
  consistent : store.Consistent

section Changes

variable {store : Store} {market : Marketplace}

/-- The marketplace is replaced; closed requests stay closed. -/
theorem Marketed.replace (marketed : Marketed store) (lifecycle : KeepsLifecycle market)
    (closed : ∀ requestId, IsClosed store.market requestId → IsClosed market requestId) :
    Marketed { store with market := market } where
  lifecycle := lifecycle
  closed := fun job member requestId names =>
    closed requestId (marketed.closed job member requestId names)
  consistent := marketed.consistent

theorem Marketed.evolve (marketed : Marketed store)
    (requests : Table.Evolves stage store.market.requests market.requests)
    (proposals : ∀ id providerId,
      HasProposal market id providerId ↔ HasProposal store.market id providerId)
    (invitations : market.invitations = store.market.invitations) :
    Marketed { store with market := market } :=
  marketed.replace (keeps_of_evolves requests proposals invitations marketed.lifecycle)
    fun _ => isClosed_of_evolves requests

theorem Marketed.expire (marketed : Marketed store) (requestIds : List RequestId) (now : Time) :
    Marketed { store with market := expiredByIds requestIds now store.market } :=
  marketed.replace (keeps_expiredByIds marketed.lifecycle) fun _ => isClosed_expiredByIds

/-- Only the invitations are rewritten. -/
theorem Marketed.invite (marketed : Marketed store) {invitations : Table RequestInvitation}
    (lifecycle : KeepsLifecycle { store.market with invitations := invitations }) :
    Marketed { store with market := { store.market with invitations := invitations } } :=
  marketed.replace lifecycle fun _ closed => closed

end Changes

/-- The service keeps the invariant. -/
def KeepsMarket {α : Type} (service : Service α) : Prop :=
  ∀ store, Marketed store → (service store).Meets (fun _ => Marketed) Marketed

/-! ## Requests -/

theorem ownRequestGate_eq_ok {message : String} {requestId : RequestId} {actorUserId : UserId}
    {store : Store} {request : ServiceRequest}
    (passed : ownRequestGate message requestId actorUserId store = .ok request) :
    store.market.requests.find? requestId = some request ∧ request.customerId = actorUserId := by
  simp only [ownRequestGate, gate_bind_eq_ok, orThrow_eq_ok, guardThat_eq_ok, gate_pure_eq_ok]
    at passed
  obtain ⟨found, lookup, _, owner, same⟩ := passed
  rw [← same]
  exact ⟨lookup, owner⟩

theorem placeRequest_keeps (make : RequestId → ServiceRequest)
    (keyed : ∀ id, Keyed.key (make id) = id) : KeepsMarket (placeRequest make keyed) := by
  intro store marketed
  refine meets_inspect_bind (meets_alter_bind (meets_pure ?_))
  exact marketed.evolve (Table.Evolves.insert _ _ make keyed) (fun _ _ => Iff.rfl) rfl

theorem create_keeps (expiryHours : EnvNumber) (actorUserId : UserId)
    (dto : CreateServiceRequestDto) (now : Time) :
    KeepsMarket (create expiryHours actorUserId dto now) := by
  intro store marketed
  refine meets_consult_bind (fun _ _ => ?_) marketed
  exact placeRequest_keeps _ _ store marketed

theorem recreate_keeps (expiryHours : EnvNumber) (actorUserId : UserId)
    (requestId : RequestId) (dto : RecreateServiceRequestDto) (now : Time) :
    KeepsMarket (recreate expiryHours actorUserId requestId dto now) := by
  intro store marketed
  refine meets_consult_bind (fun request _ => meets_inspect_bind ?_) marketed
  refine meets_refresh_bind (fun _ => ?_) fun _ => ?_
  · refine meets_require_bind (fun _ => ?_) marketed
    refine meets_consult_bind (fun _ _ => ?_) marketed
    exact placeRequest_keeps _ _ _ marketed
  · have expired := marketed.expire [request.id] now
    refine meets_require_bind (fun _ => ?_) expired
    refine meets_consult_bind (fun _ _ => ?_) expired
    exact placeRequest_keeps _ _ _ expired

theorem update_keeps (actorUserId : UserId) (requestId : RequestId)
    (dto : UpdateServiceRequestDto) (now : Time) :
    KeepsMarket (update actorUserId requestId dto now) := by
  intro store marketed
  refine meets_consult_bind (fun request _ => meets_inspect_bind ?_) marketed
  refine meets_refresh_bind (fun _ => ?_) fun _ => ?_
  · refine meets_require_bind (fun _ => ?_) marketed
    split_ifs
    · refine meets_alter_bind (meets_pure ?_)
      exact marketed.evolve (Table.Evolves.update _ _ requestId (adjusted dto request now)
        (fun _ => rfl) fun _ => rfl) (fun _ _ => Iff.rfl) rfl
    · exact meets_pure marketed
  · exact meets_require_bind (fun isOpen => by cases isOpen.1)
      (marketed.expire [request.id] now)

theorem getMineById_keeps (actorUserId : UserId) (requestId : RequestId) (now : Time) :
    KeepsMarket (getMineById actorUserId requestId now) := by
  intro store marketed
  refine meets_consult_bind (fun request _ => ?_) marketed
  refine meets_refresh_bind (fun _ => ?_) fun _ => ?_
  · split_ifs
    · exact meets_consult (fun _ _ => marketed) marketed
    · exact meets_pure marketed
  · have expired := marketed.expire [request.id] now
    exact meets_consult (fun _ _ => expired) expired

theorem expireStaleOpenRequests_keeps (now : Time) :
    KeepsMarket (expireStaleOpenRequests now) := by
  intro store marketed
  refine meets_inspect_bind ?_
  split_ifs
  · exact meets_pure marketed
  · exact meets_alter_bind (meets_pure (marketed.expire _ now))

/-! ## Invitations -/

theorem expireFound_keeps {stale : Marketplace → RequestInvitation → Bool} {now : Time}
    {store : Store} (marketed : Marketed store)
    (late : ∀ invitation, stale store.market invitation = true →
      invitation.status = .sent ∧ IsOver store.market invitation.requestId) :
    Marketed { store with market := expireFound stale now store.market } :=
  marketed.invite (keeps_expireFound late marketed.lifecycle)

theorem listRequestInvitations_keeps (requestId : RequestId) (actorUserId : UserId)
    (now : Time) : KeepsMarket (listRequestInvitations requestId actorUserId now) := by
  intro store marketed
  refine meets_consult_bind (fun request passed => ?_) marketed
  obtain ⟨found, _⟩ := ownRequestGate_eq_ok passed
  have sameId : request.id = requestId := store.market.requests.key_of_find? found
  refine meets_refresh_bind (fun _ => ?_) fun past => ?_
  · unfold expirePendingInvitationsForRequest
    split_ifs with waits
    · exact marketed
    · refine meets_alter_bind (expireFound_keeps marketed ?_)
      intro invitation stale
      simp only [Bool.and_eq_true, decide_eq_true_eq] at stale
      rw [stale.1, sameId]
      exact ⟨stale.2, request, found, .inl waits⟩
  · refine meets_alter_bind (expireFound_keeps (marketed.expire [request.id] now) ?_)
    intro invitation stale
    simp only [Bool.and_eq_true, decide_eq_true_eq] at stale
    simp only [isRequestPastExpiry, Bool.and_eq_true, decide_eq_true_eq,
      Option.isNone_iff_eq_none] at past
    rw [stale.1]
    refine ⟨stale.2, isOver_of_expired ?_ (by simp)⟩
    rw [sameId]
    exact ⟨request, found, past.1.1, past.1.2⟩

theorem invitationGate_eq_ok {request : ServiceRequest} {currentStatus : ServiceRequestStatus}
    {snapshot : InvitationSnapshot}
    (passed : invitationGate request currentStatus snapshot = .ok ()) :
    currentStatus = .open ∧ request.selectedProposalId = none ∧
      snapshot.existingProposal = none := by
  simp only [invitationGate, gate_bind_eq_ok, guardThat_eq_ok, Option.isNone_iff_eq_none]
    at passed
  obtain ⟨_, status, _, _, _, unproposed, _⟩ := passed
  exact ⟨status.1, status.2, unproposed⟩

theorem proposalOf?_eq_none {requestId : RequestId} {providerId : UserId}
    {market : Marketplace} (none : proposalOf? requestId providerId market = none) :
    ¬ HasProposal market requestId providerId := by
  rintro ⟨proposal, member, sameRequest, sameProvider⟩
  exact market.proposals.findFirst?_eq_none_iff.mp none proposal member
    (by simp [sameRequest, sameProvider])

theorem createInvitation_keeps (requestId : RequestId) (actorUserId providerUserId : UserId)
    (now : Time) : KeepsMarket (createInvitation requestId actorUserId providerUserId now) := by
  intro store marketed
  refine meets_require_bind (fun _ => meets_inspect_bind ?_) marketed
  refine meets_consult_bind (fun request passed => ?_) marketed
  obtain ⟨found, _⟩ := ownRequestGate_eq_ok passed
  refine meets_refresh_bind (fun _ => ?_) fun _ => ?_
  · refine meets_consult_bind (fun _ gate => meets_inspect_bind ?_) marketed
    obtain ⟨status, unselected, unproposed⟩ := invitationGate_eq_ok gate
    refine meets_alter_bind (meets_pure (marketed.invite ?_))
    exact keeps_insert ⟨request, found, status, unselected⟩ (proposalOf?_eq_none unproposed)
      marketed.lifecycle
  · refine meets_consult_bind (fun _ gate => ?_) (marketed.expire [request.id] now)
    cases (invitationGate_eq_ok gate).1

theorem listMineInvitations_keeps (actorUserId : UserId) (now : Time) :
    KeepsMarket (listMineInvitations actorUserId now) := by
  intro store marketed
  refine meets_bind (expireStaleOpenRequests_keeps now store marketed) fun _ swept keeps => ?_
  have expired : Marketed { swept with
      market := expireFound (fun market invitation =>
        invitation.providerUserId = actorUserId && invitation.status = .sent &&
          requestPasses (fun request => request.status ≠ .open) market invitation) now
        swept.market } := by
    refine expireFound_keeps keeps fun invitation stale => ?_
    simp only [Bool.and_eq_true, decide_eq_true_eq, requestPasses, Option.any_eq_true] at stale
    obtain ⟨⟨_, pending⟩, request, found, past⟩ := stale
    exact ⟨pending, request, found, .inl past⟩
  refine meets_alter_bind (meets_alter_bind (meets_inspect ?_))
  exact expired.invite (keeps_markOpened expired.lifecycle)

theorem declineGate_eq_ok {invitationId : Nat} {actorUserId : UserId} {store : Store}
    {terms : DeclineTerms} (passed : declineGate invitationId actorUserId store = .ok terms) :
    store.market.invitations.find? invitationId = some terms.invitation ∧
      store.market.requests.find? terms.invitation.requestId = some terms.request ∧
      terms.invitation.status ≠ .accepted := by
  simp only [declineGate, gate_bind_eq_ok, orThrow_eq_ok, guardThat_eq_ok, gate_pure_eq_ok]
    at passed
  obtain ⟨invitation, found, request, foundRequest, _, _, _, pending, same⟩ := passed
  rw [← same]
  exact ⟨found, foundRequest, pending⟩

section Decline

variable {market : Marketplace} {invitation : RequestInvitation} {now : Time}

theorem follows_declined (follows : FollowsLifecycle market invitation)
    (pending : invitation.status ≠ .accepted) :
    FollowsLifecycle market (declinedInvitation invitation now invitation) where
  sent := fun status => by cases status
  accepted_iff := ⟨fun status => (by cases status), fun proposed =>
    absurd (follows.accepted_iff.mpr proposed) pending⟩
  accepted := fun status => by cases status
  declined := fun _ => by
    cases opened : invitation.openedAt <;> simp [declinedInvitation, opened]
  expired := fun status => by cases status

theorem follows_late {row : RequestInvitation} (sameRequest : row.requestId = invitation.requestId)
    (sameProvider : row.providerUserId = invitation.providerUserId)
    (none : ¬ HasProposal market invitation.requestId invitation.providerUserId)
    (past : IsOver market invitation.requestId) :
    FollowsLifecycle market (lateInvitation invitation now row) where
  sent := fun status => by cases status
  accepted_iff := by
    refine ⟨fun status => (by cases status), fun proposed => absurd ?_ none⟩
    rw [← sameRequest, ← sameProvider]
    exact proposed
  accepted := fun status => by cases status
  declined := fun status => by cases status
  expired := fun _ => by
    refine ⟨?_, ?_, ?_⟩
    · cases responded : invitation.respondedAt <;> simp [lateInvitation, responded]
    · cases expires : invitation.expiresAt <;> simp [lateInvitation, expires]
    · exact sameRequest ▸ past

end Decline

theorem declineInvitation_keeps (invitationId : Nat) (actorUserId : UserId) (now : Time) :
    KeepsMarket (declineInvitation invitationId actorUserId now) := by
  intro store marketed
  refine meets_consult_bind (fun terms passed => ?_) marketed
  obtain ⟨found, foundRequest, unaccepted⟩ := declineGate_eq_ok passed
  obtain ⟨invitation, request⟩ := terms
  dsimp only at found foundRequest unaccepted ⊢
  have member := store.market.invitations.mem_of_find? found
  have follows := marketed.lifecycle invitation member
  have sameId : request.id = invitation.requestId :=
    store.market.requests.key_of_find? foundRequest
  by_cases declined : invitation.status = .declined
  · rw [if_pos declined]
    exact meets_pure marketed
  rw [if_neg declined]
  by_cases expired : invitation.status = .expired
  · refine meets_refresh_bind (fun _ => ?_) fun _ => ?_
    · rw [if_pos expired]
      exact meets_pure marketed
    · rw [if_pos expired]
      exact meets_pure (marketed.expire [request.id] now)
  -- what is left is a pending invitation, so its request is open
  have pending : invitation.status = .sent := by
    cases status : invitation.status <;> simp_all
  have none : ¬ HasProposal store.market invitation.requestId invitation.providerUserId :=
    fun proposed => unaccepted (follows.accepted_iff.mpr proposed)
  have waits := follows.sent pending
  refine meets_refresh_bind (fun _ => ?_) fun _ => ?_
  · have current : ¬ (request.status ≠ .open ∨ request.selectedProposalId.isSome = true) :=
      fun past => not_isOver_of_isOpenFor waits ⟨request, foundRequest, past⟩
    rw [if_neg expired, if_neg current]
    refine meets_alter_bind (meets_pure (marketed.invite ?_))
    refine keeps_rewrite (fun row rowMember sameKey => ?_) marketed.lifecycle
    have same : row = invitation :=
      store.market.invitations.eq_of_key_eq rowMember member sameKey
    rw [same]
    exact follows_declined follows unaccepted
  · have expires := marketed.expire [request.id] now
    rw [if_neg expired, if_pos (.inl (by decide))]
    refine meets_alter_bind (meets_pure (expires.invite ?_))
    refine keeps_rewrite (fun row rowMember sameKey => ?_) expires.lifecycle
    obtain ⟨old, oldMember, made⟩ :=
      (store.market.invitations.mem_updateMany _ (expiredInvitation now) fun _ => rfl).mp
        rowMember
    have samePair : row.id = old.id ∧ row.requestId = old.requestId ∧
        row.providerUserId = old.providerUserId := by
      rw [made]
      split_ifs <;> exact ⟨rfl, rfl, rfl⟩
    have same : old = invitation :=
      store.market.invitations.eq_of_key_eq oldMember member (samePair.1.symm.trans sameKey)
    rw [same] at samePair
    refine follows_late samePair.2.1 samePair.2.2 none (isOver_of_expired waits ?_)
    simp [sameId]

/-! ## Proposals -/

theorem proposalOf?_eq_some {requestId : RequestId} {providerId : UserId}
    {market : Marketplace} {proposal : Proposal}
    (found : proposalOf? requestId providerId market = some proposal) :
    proposal ∈ market.proposals ∧ proposal.requestId = requestId ∧
      proposal.providerId = providerId := by
  obtain ⟨member, chosen⟩ := market.proposals.mem_of_findFirst? found
  simp only [Bool.and_eq_true, decide_eq_true_eq] at chosen
  exact ⟨member, chosen⟩

/-- The store after the proposal was written: only the proposals differ, and the pair has
one. -/
def Proposed (requestId : RequestId) (providerId : UserId) (before after : Store) : Prop :=
  ∃ proposals, after = { before with market := { before.market with proposals := proposals } } ∧
    ∀ other provider, HasProposal after.market other provider ↔
      (requestId = other ∧ providerId = provider) ∨ HasProposal before.market other provider

theorem writeProposal_meets (requestId : RequestId) (providerId : UserId)
    (dto : SubmitProposalDto) (store : Store) (failed : Store → Prop) :
    (writeProposal requestId providerId dto store).Meets
      (fun _ => Proposed requestId providerId store) failed := by
  refine meets_inspect_bind ?_
  cases existing : proposalOf? requestId providerId store.market with
  | some proposal =>
      refine meets_alter_bind (meets_pure ⟨_, rfl, fun other provider => ?_⟩)
      obtain ⟨member, pair⟩ := proposalOf?_eq_some existing
      have same : HasProposal
          { store.market with
            proposals := store.market.proposals.update proposal.id (resubmitted dto) }
          other provider ↔ HasProposal store.market other provider :=
        hasProposal_resubmitted other provider
      refine same.trans (or_iff_right_of_imp fun named => ?_).symm
      rw [← named.1, ← named.2]
      exact ⟨proposal, member, pair⟩
  | none =>
      refine meets_inspect_bind (meets_alter_bind (meets_pure ⟨_, rfl, ?_⟩))
      exact fun other provider => hasProposal_inserted other provider

theorem submitProposal_keeps (requestId : RequestId) (actorUserId : UserId)
    (dto : SubmitProposalDto) (now : Time) :
    KeepsMarket (submitProposal requestId actorUserId dto now) := by
  intro store marketed
  refine meets_consult_bind (fun terms _ => ?_) marketed
  refine meets_refresh_bind (fun _ => ?_) fun _ => ?_
  · refine meets_require_bind (fun _ => ?_) marketed
    refine meets_require_bind (fun _ => ?_) marketed
    refine meets_bind (writeProposal_meets requestId actorUserId dto store _)
      fun _ after proposed => meets_alter_bind (meets_pure ?_)
    obtain ⟨proposals, same, pairs⟩ := proposed
    rw [same] at pairs ⊢
    refine marketed.replace (fun invitation member => ?_) fun _ closed => closed
    obtain ⟨old, oldMember, made⟩ := mem_markAccepted member
    rw [made]
    exact @follows_marked _ _ _ _ store.market _ rfl pairs (marketed.lifecycle old oldMember)
  · exact meets_require_bind (fun isOpen => by cases isOpen.1)
      (marketed.expire [terms.request.id] now)

/-! ## Selection -/

theorem ownedRequestGate_eq_ok {requestId : RequestId} {actorUserId : UserId} {store : Store}
    {request : ServiceRequest}
    (passed : ownedRequestGate requestId actorUserId store = .ok request) :
    store.market.requests.find? requestId = some request ∧ request.customerId = actorUserId := by
  simp only [ownedRequestGate, gate_bind_eq_ok, orThrow_eq_ok, guardThat_eq_ok, gate_pure_eq_ok]
    at passed
  obtain ⟨found, lookup, _, owner, same⟩ := passed
  rw [← same]
  exact ⟨lookup, owner⟩

theorem selectionGate_open {policy : PaymentPolicy} {request : ServiceRequest}
    {currentStatus : ServiceRequestStatus} {proposalId : ProposalId}
    {depositPercent : Option DepositPercent} {store : Store} {terms : SelectionTerms}
    (passed : selectionGate policy request currentStatus proposalId depositPercent store =
      .ok terms) : currentStatus = .open := by
  simp only [selectionGate, gate_bind_eq_ok, guardThat_eq_ok] at passed
  obtain ⟨_, isOpen, _⟩ := passed
  exact isOpen

theorem jobOfRequest?_eq_some {store : Store} {requestId : RequestId} {job : Job}
    (found : store.jobOfRequest? requestId = some job) :
    job ∈ store.jobs ∧ job.requestId = some requestId := by
  obtain ⟨member, chosen⟩ := store.jobs.mem_of_findFirst? found
  exact ⟨member, of_decide_eq_true chosen⟩

section Reply

variable {α : Type} {selected : Option ProposalId} {requestJob : Option Job}
  {reply : Job → Service α} {select : Service α} {after : α → Store → Prop}
  {failed : Store → Prop} {store : Store}

/-- A selection made before is answered at once if its job is there. -/
theorem meets_reply_or_select (replied : ∀ job, (reply job store).Meets after failed)
    (selects : (select store).Meets after failed) :
    ((match selected, requestJob with
      | some _, some job => reply job
      | _, _ => select : Service α) store).Meets after failed := by
  cases selected with
  | none =>
      exact selects
  | some proposalId =>
      cases requestJob with
      | none =>
          exact selects
      | some job =>
          exact replied job

end Reply

/-- What a selection has to keep: no payment is looked at. -/
def Settled (store : Store) : Prop :=
  KeepsLifecycle store.market ∧ JobsClosed store

theorem recordSelection_settled {store : Store} {request : ServiceRequest}
    (marketed : Marketed store)
    (found : store.market.requests.find? request.id = some request)
    (isOpen : request.status = .open) (policy : PaymentPolicy) (terms : SelectionTerms)
    (actorUserId : UserId) (now : Time) (failed : Store → Prop) (refused : failed store) :
    ((Action.transaction (recordSelection policy request terms actorUserId now)) store).Meets
      (fun _ => Settled) failed := by
  refine meets_transaction (meets_inspect_bind ?_)
  cases existing : store.jobOfRequest? request.id with
  | some job =>
      -- a job of an open request
      obtain ⟨member, names⟩ := jobOfRequest?_eq_some existing
      obtain ⟨closed, foundClosed, status⟩ := marketed.closed job member request.id names
      rw [found, Option.some.injEq] at foundClosed
      rw [← foundClosed, isOpen] at status
      cases status
  | none =>
      refine meets_alter_bind (meets_inspect_bind ?_)
      refine meets_require_bind (fun _ => ?_) refused
      refine meets_inspect_bind (meets_alter_bind ?_)
      refine meets_inspect_bind (meets_alter_bind (meets_pure ⟨?_, ?_⟩))
      · exact keeps_selectedMarket found marketed.lifecycle
      · intro job member requestId names
        change IsClosed (selectedMarket request.id terms.proposal.id now store.market) requestId
        rcases (store.jobs.mem_insert (selectedJob request terms actorUserId)
          fun _ => rfl).mp member with new | old
        · rw [new] at names
          cases names
          exact isClosed_selected found
        · exact isClosed_selectedMarket (marketed.closed job old requestId names)

theorem selectProposal_settled {store : Store} (marketed : Marketed store)
    (policy : PaymentPolicy) (requestId : RequestId) (proposalId : ProposalId)
    (actorUserId : UserId) (depositPercent : Option DepositPercent) (now : Time) :
    (selectProposal policy requestId proposalId actorUserId depositPercent now store).Meets
      (fun _ => Settled) Settled := by
  have settled : Settled store := ⟨marketed.lifecycle, marketed.closed⟩
  refine meets_consult_bind (fun request passed => ?_) settled
  obtain ⟨lookup, _⟩ := ownedRequestGate_eq_ok passed
  have found := store.market.requests.find?_key lookup
  refine meets_inspect_bind (meets_inspect_bind ?_)
  refine meets_refresh_bind (fun _ => ?_) fun _ => ?_
  · refine meets_require_bind (fun _ => ?_) settled
    refine meets_reply_or_select (fun job => meets_pure settled) ?_
    refine meets_consult_bind (fun terms gate => ?_) settled
    exact recordSelection_settled marketed found (selectionGate_open gate) _ _ _ _ _ settled
  · have expired := marketed.expire [request.id] now
    have stale : Settled { store with market := expiredByIds [request.id] now store.market } :=
      ⟨expired.lifecycle, expired.closed⟩
    refine meets_require_bind (fun _ => ?_) stale
    refine meets_reply_or_select (fun job => meets_pure stale) ?_
    exact meets_consult_bind (fun terms gate => by cases selectionGate_open gate) stale

theorem selectProposal_marketed {store : Store} (marketed : Marketed store)
    (policy : PaymentPolicy) (requestId : RequestId) (proposalId : ProposalId)
    (actorUserId : UserId) (depositPercent : Option DepositPercent) (now : Time) :
    Marketed (selectProposal policy requestId proposalId actorUserId depositPercent now
      store).state := by
  have settled := state_of_meets
    (selectProposal_settled marketed policy requestId proposalId actorUserId depositPercent now)
  exact
    { lifecycle := settled.1
      closed := settled.2
      consistent := perform_consistent marketed.consistent
        (.selectProposal policy requestId proposalId actorUserId depositPercent now) }

/-! ## Every run -/

theorem payment_marketed {store : Store} (marketed : Marketed store) {operation : Operation}
    (payment : IsPaymentCall operation) : Marketed (operation.perform store) := by
  have same := market_perform payment store
  have jobs := sameJobs_perform marketed.consistent payment
  constructor
  · rw [same]
    exact marketed.lifecycle
  · intro job member requestId names
    obtain ⟨old, oldMember, sameFixed⟩ := jobs job member
    rw [same]
    have sameRequest := field_eq sameFixed Job.requestId fun _ => rfl
    exact marketed.closed old oldMember requestId (sameRequest.symm.trans names)
  · exact perform_consistent marketed.consistent operation

theorem marketed_perform {store : Store} (marketed : Marketed store)
    (operation : MarketOperation) : Marketed (operation.perform store) := by
  cases operation with
  | create expiryHours actorUserId dto now =>
      exact state_of_meets (create_keeps expiryHours actorUserId dto now store marketed)
  | recreate expiryHours actorUserId requestId dto now =>
      exact state_of_meets
        (recreate_keeps expiryHours actorUserId requestId dto now store marketed)
  | update actorUserId requestId dto now =>
      exact state_of_meets (update_keeps actorUserId requestId dto now store marketed)
  | getMineById actorUserId requestId now =>
      exact state_of_meets (getMineById_keeps actorUserId requestId now store marketed)
  | listRequestInvitations requestId actorUserId now =>
      exact state_of_meets
        (listRequestInvitations_keeps requestId actorUserId now store marketed)
  | createInvitation requestId actorUserId providerUserId now =>
      exact state_of_meets
        (createInvitation_keeps requestId actorUserId providerUserId now store marketed)
  | listMineInvitations actorUserId now =>
      exact state_of_meets (listMineInvitations_keeps actorUserId now store marketed)
  | declineInvitation invitationId actorUserId now =>
      exact state_of_meets
        (declineInvitation_keeps invitationId actorUserId now store marketed)
  | submitProposal requestId actorUserId dto now =>
      exact state_of_meets (submitProposal_keeps requestId actorUserId dto now store marketed)
  | expireStaleOpenRequests now =>
      exact state_of_meets (expireStaleOpenRequests_keeps now store marketed)
  | selectProposal policy requestId proposalId actorUserId depositPercent now =>
      exact selectProposal_marketed marketed policy requestId proposalId actorUserId
        depositPercent now
  | upsertMe userId isAvailable =>
      exact marketed.evolve (Table.Evolves.refl _ _) (fun _ _ => Iff.rfl) rfl
  | payment operation call =>
      exact payment_marketed marketed call
  | others users categories =>
      exact marketed.evolve (Table.Evolves.refl _ _) (fun _ _ => Iff.rfl) rfl

theorem emptyStore_marketed : Marketed emptyStore where
  lifecycle := fun invitation member => absurd member (Table.not_mem_empty invitation)
  closed := fun job member => absurd member (Table.not_mem_empty job)
  consistent := Books.initial_consistent

theorem marketed_run (operations : List MarketOperation) :
    Marketed (marketplace.run emptyStore operations) :=
  marketplace.run_preserves Marketed
    (fun _ operation marketed => marketed_perform marketed operation) emptyStore_marketed
    operations

/-- In every state the services can reach, every invitation is where its status says. -/
theorem invitation_lifecycle (operations : List MarketOperation) :
    ∀ invitation ∈ (marketplace.run emptyStore operations).market.invitations,
      FollowsLifecycle (marketplace.run emptyStore operations).market invitation :=
  (marketed_run operations).lifecycle

theorem sample_invitation_lifecycle :
    ∃ invitation ∈ (marketplace.run emptyStore sampleOperations).market.invitations,
      FollowsLifecycle (marketplace.run emptyStore sampleOperations).market invitation := by
  have present : ∃ invitation ∈
      (marketplace.run emptyStore sampleOperations).market.invitations.rows,
        invitation.id = 0 := by
    decide +kernel
  obtain ⟨invitation, member, _⟩ := present
  exact ⟨invitation, member, invitation_lifecycle sampleOperations invitation member⟩

end Tchuno.Requests
