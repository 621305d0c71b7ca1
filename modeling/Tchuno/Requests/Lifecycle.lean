import Tchuno.Requests.Market

/-!
# The lifecycle of invitations

What the status of an invitation says about its request, about the proposals and about its
own dates, and the changes of the marketplace under which it goes on saying so.
-/

namespace Tchuno.Requests

open Tchuno.Library Tchuno.Library.Ecma Tchuno.Payments

/-! ## What a status says -/

section Status

variable (market : Marketplace) (requestId : RequestId)

/-- The request waits for proposals. -/
def IsOpenFor : Prop :=
  ∃ request, market.requests.find? requestId = some request ∧ request.status = .open ∧
    request.selectedProposalId = none

def IsOver : Prop :=
  ∃ request, market.requests.find? requestId = some request ∧
    (request.status ≠ .open ∨ request.selectedProposalId.isSome = true)

def IsClosed : Prop :=
  ∃ request, market.requests.find? requestId = some request ∧ request.status = .closed

def HasProposal (providerId : UserId) : Prop :=
  ∃ proposal ∈ market.proposals, proposal.requestId = requestId ∧
    proposal.providerId = providerId

end Status

structure FollowsLifecycle (market : Marketplace) (invitation : RequestInvitation) : Prop where
  sent : invitation.status = .sent → IsOpenFor market invitation.requestId
  accepted_iff : invitation.status = .accepted ↔
    HasProposal market invitation.requestId invitation.providerUserId
  accepted : invitation.status = .accepted →
    invitation.openedAt.isSome = true ∧ invitation.respondedAt.isSome = true ∧
      invitation.expiresAt = none
  declined : invitation.status = .declined →
    invitation.openedAt.isSome = true ∧ invitation.respondedAt.isSome = true
  expired : invitation.status = .expired →
    invitation.respondedAt.isSome = true ∧ invitation.expiresAt.isSome = true ∧
      IsOver market invitation.requestId

def KeepsLifecycle (market : Marketplace) : Prop :=
  ∀ invitation ∈ market.invitations, FollowsLifecycle market invitation

theorem not_isOver_of_isOpenFor {market : Marketplace} {requestId : RequestId}
    (waits : IsOpenFor market requestId) : ¬ IsOver market requestId := by
  obtain ⟨request, found, status, unselected⟩ := waits
  rintro ⟨other, foundOther, past⟩
  rw [found, Option.some.injEq] at foundOther
  rw [← foundOther, status, unselected] at past
  simp at past

/-! ## Requests and proposals around an invitation -/

/-- What the lifecycle depends on in a request. -/
def stage (request : ServiceRequest) : ServiceRequestStatus × Option ProposalId :=
  (request.status, request.selectedProposalId)

section Evolution

variable {before after : Marketplace} {requestId : RequestId}

theorem isOpenFor_of_evolves
    (evolves : Table.Evolves stage before.requests after.requests)
    (waits : IsOpenFor before requestId) : IsOpenFor after requestId := by
  obtain ⟨request, found, status, unselected⟩ := waits
  obtain ⟨later, foundLater, same⟩ := evolves requestId request found
  simp only [stage, Prod.mk.injEq] at same
  exact ⟨later, foundLater, same.1.trans status, same.2.trans unselected⟩

theorem isOver_of_evolves
    (evolves : Table.Evolves stage before.requests after.requests)
    (past : IsOver before requestId) : IsOver after requestId := by
  obtain ⟨request, found, done⟩ := past
  obtain ⟨later, foundLater, same⟩ := evolves requestId request found
  simp only [stage, Prod.mk.injEq] at same
  refine ⟨later, foundLater, ?_⟩
  rw [same.1, same.2]
  exact done

theorem isClosed_of_evolves
    (evolves : Table.Evolves stage before.requests after.requests)
    (closed : IsClosed before requestId) : IsClosed after requestId := by
  obtain ⟨request, found, status⟩ := closed
  obtain ⟨later, foundLater, same⟩ := evolves requestId request found
  simp only [stage, Prod.mk.injEq] at same
  exact ⟨later, foundLater, same.1.trans status⟩

theorem follows_of_evolves {invitation : RequestInvitation}
    (evolves : Table.Evolves stage before.requests after.requests)
    (proposals : ∀ id providerId,
      HasProposal after id providerId ↔ HasProposal before id providerId)
    (follows : FollowsLifecycle before invitation) : FollowsLifecycle after invitation where
  sent := fun status => isOpenFor_of_evolves evolves (follows.sent status)
  accepted_iff := follows.accepted_iff.trans (proposals _ _).symm
  accepted := follows.accepted
  declined := follows.declined
  expired := fun status =>
    ⟨(follows.expired status).1, (follows.expired status).2.1,
      isOver_of_evolves evolves (follows.expired status).2.2⟩

/-- The other tables do not matter. -/
theorem follows_congr (before : Marketplace) {invitation : RequestInvitation}
    (requests : after.requests = before.requests) (proposals : after.proposals = before.proposals)
    (follows : FollowsLifecycle before invitation) : FollowsLifecycle after invitation := by
  refine follows_of_evolves ?_ (fun id providerId => ?_) follows
  · rw [requests]
    exact Table.Evolves.refl _ _
  · rw [HasProposal, HasProposal, proposals]

theorem keeps_of_evolves (evolves : Table.Evolves stage before.requests after.requests)
    (proposals : ∀ id providerId,
      HasProposal after id providerId ↔ HasProposal before id providerId)
    (invitations : after.invitations = before.invitations)
    (keeps : KeepsLifecycle before) : KeepsLifecycle after := by
  intro invitation member
  rw [invitations] at member
  exact follows_of_evolves evolves proposals (keeps invitation member)

end Evolution

/-! ## Expiry -/

section Expiry

variable {market : Marketplace} {requestIds : List RequestId} {now : Time}

theorem find?_expiredByIds (requestId : RequestId) :
    (expiredByIds requestIds now market).requests.find? requestId =
      (market.requests.find? requestId).map fun request =>
        if requestIds.contains request.id && request.status = .open then
          { request with status := .expired }
        else request := by
  rw [expiredByIds, Table.find?_updateMany]

theorem isOver_expiredByIds {requestId : RequestId} (past : IsOver market requestId) :
    IsOver (expiredByIds requestIds now market) requestId := by
  obtain ⟨request, found, done⟩ := past
  rw [IsOver, find?_expiredByIds, found, Option.map_some]
  split_ifs
  · exact ⟨_, rfl, .inl (by simp)⟩
  · exact ⟨request, rfl, done⟩

theorem isOver_of_expired {requestId : RequestId} (waits : IsOpenFor market requestId)
    (named : requestIds.contains requestId = true) :
    IsOver (expiredByIds requestIds now market) requestId := by
  obtain ⟨request, found, status, _⟩ := waits
  have sameId : request.id = requestId := market.requests.key_of_find? found
  rw [IsOver, find?_expiredByIds, found]
  refine ⟨_, rfl, .inl ?_⟩
  simp only [sameId, named, status, decide_true, Bool.and_self, if_true]
  decide

theorem isOpenFor_expiredByIds {requestId : RequestId} (waits : IsOpenFor market requestId)
    (unnamed : requestIds.contains requestId = false) :
    IsOpenFor (expiredByIds requestIds now market) requestId := by
  obtain ⟨request, found, status, unselected⟩ := waits
  have sameId : request.id = requestId := market.requests.key_of_find? found
  rw [IsOpenFor, find?_expiredByIds, found]
  refine ⟨request, ?_, status, unselected⟩
  simp only [Option.map_some, sameId, unnamed, Bool.false_and, Bool.false_eq_true, if_false]

theorem isClosed_expiredByIds {requestId : RequestId} (closed : IsClosed market requestId) :
    IsClosed (expiredByIds requestIds now market) requestId := by
  obtain ⟨request, found, status⟩ := closed
  rw [IsClosed, find?_expiredByIds, found]
  exact ⟨request, by simp [status], status⟩

/-- An invitation which expires with its request. -/
theorem follows_expired {after : Marketplace} {invitation : RequestInvitation}
    (none : ¬ HasProposal after invitation.requestId invitation.providerUserId)
    (past : IsOver after invitation.requestId) :
    FollowsLifecycle after (expiredInvitation now invitation) := by
  constructor
  · intro status
    cases status
  · exact ⟨fun status => (by cases status), fun proposed => absurd proposed none⟩
  · intro status
    cases status
  · intro status
    cases status
  · intro _
    exact ⟨rfl, rfl, past⟩

theorem keeps_expiredByIds (keeps : KeepsLifecycle market) :
    KeepsLifecycle (expiredByIds requestIds now market) := by
  intro invitation member
  obtain ⟨old, oldMember, made⟩ :=
    (market.invitations.mem_updateMany _ (expiredInvitation now) fun _ => rfl).mp member
  have follows := keeps old oldMember
  by_cases expires : requestIds.contains old.requestId && old.status = .sent
  · rw [if_pos expires] at made
    rw [Bool.and_eq_true, decide_eq_true_eq] at expires
    have none : ¬ HasProposal market old.requestId old.providerUserId := by
      rw [← follows.accepted_iff, expires.2]
      decide
    rw [made]
    exact follows_expired none (isOver_of_expired (follows.sent expires.2) expires.1)
  · rw [if_neg expires] at made
    rw [made]
    refine ⟨fun pending => ?_, follows.accepted_iff, follows.accepted, follows.declined,
      fun status => ?_⟩
    · refine isOpenFor_expiredByIds (follows.sent pending) ?_
      simpa [pending] using expires
    · have dates := follows.expired status
      exact ⟨dates.1, dates.2.1, isOver_expiredByIds dates.2.2⟩

/-- While the lifecycle holds, a query for pending invitations of requests which are over
finds nothing. -/
theorem keeps_expireFound {stale : Marketplace → RequestInvitation → Bool}
    (late : ∀ invitation, stale market invitation = true →
      invitation.status = .sent ∧ IsOver market invitation.requestId)
    (keeps : KeepsLifecycle market) : KeepsLifecycle (expireFound stale now market) := by
  have nothing : market.invitations.findMany (stale market) = [] := by
    apply List.filter_eq_nil_iff.mpr
    intro invitation member found
    obtain ⟨pending, past⟩ := late invitation found
    exact not_isOver_of_isOpenFor ((keeps invitation member).sent pending) past
  intro invitation member
  obtain ⟨old, oldMember, made⟩ :=
    (market.invitations.mem_updateMany _ (expiredInvitation now) fun _ => rfl).mp member
  have same : invitation = old := by
    rw [made, nothing]
    rfl
  rw [same]
  exact follows_congr market rfl rfl (keeps old oldMember)

end Expiry

/-! ## Single invitations -/

section Invitations

variable {market : Marketplace} {now : Time}

theorem keeps_insert {requestId : RequestId} {providerUserId : UserId}
    (waits : IsOpenFor market requestId) (none : ¬ HasProposal market requestId providerUserId)
    (keeps : KeepsLifecycle market) :
    KeepsLifecycle
      { market with
        invitations := market.invitations.insert (sentInvitation requestId providerUserId) } := by
  intro invitation member
  rcases (market.invitations.mem_insert (sentInvitation requestId providerUserId)
    fun _ => rfl).mp member with new | old
  · rw [new]
    constructor
    · exact fun _ => waits
    · exact ⟨fun status => (by cases status), fun proposed => absurd proposed none⟩
    · intro status
      cases status
    · intro status
      cases status
    · intro status
      cases status
  · exact follows_congr market rfl rfl (keeps invitation old)

/-- The date of opening may be set at any time. -/
theorem follows_opened {invitation : RequestInvitation}
    (follows : FollowsLifecycle market invitation) :
    FollowsLifecycle market (openedInvitation now invitation) where
  sent := follows.sent
  accepted_iff := follows.accepted_iff
  accepted := fun status => ⟨rfl, (follows.accepted status).2⟩
  declined := fun status => ⟨rfl, (follows.declined status).2⟩
  expired := follows.expired

theorem keeps_markOpened {actorUserId : UserId} (keeps : KeepsLifecycle market) :
    KeepsLifecycle (markOpened actorUserId now market) := by
  intro invitation member
  obtain ⟨old, oldMember, made⟩ :=
    (market.invitations.mem_updateMany _ (openedInvitation now) fun _ => rfl).mp member
  rw [made]
  split_ifs
  · exact follows_congr market rfl rfl (follows_opened (keeps old oldMember))
  · exact follows_congr market rfl rfl (keeps old oldMember)

/-- One invitation is rewritten in a way which suits it. -/
theorem keeps_rewrite {id : Nat} {change : RequestInvitation → RequestInvitation}
    {sameKey : ∀ row, Keyed.key (change row) = Keyed.key row}
    (suits : ∀ row ∈ market.invitations, row.id = id →
      FollowsLifecycle market (change row))
    (keeps : KeepsLifecycle market) :
    KeepsLifecycle
      { market with invitations := market.invitations.update id change sameKey } := by
  intro invitation member
  obtain ⟨old, oldMember, made⟩ := (market.invitations.mem_update change sameKey).mp member
  rw [made]
  split_ifs with same
  · exact follows_congr market rfl rfl (suits old oldMember same)
  · exact follows_congr market rfl rfl (keeps old oldMember)

end Invitations

/-! ## Proposals -/

section Proposals

variable {market : Marketplace} {requestId : RequestId} {providerId : UserId} {now : Time}

/-- What `HasProposal` depends on in a proposal. -/
def pair (proposal : Proposal) : RequestId × UserId :=
  (proposal.requestId, proposal.providerId)

theorem hasProposal_iff (other : RequestId) (provider : UserId) :
    HasProposal market other provider ↔ (other, provider) ∈ market.proposals.rows.map pair := by
  simp [HasProposal, pair, Table.mem_rows]

theorem hasProposal_congr {before after : Marketplace}
    (same : after.proposals.rows.map pair = before.proposals.rows.map pair) (other : RequestId)
    (provider : UserId) :
    HasProposal after other provider ↔ HasProposal before other provider := by
  rw [hasProposal_iff, hasProposal_iff, same]

theorem hasProposal_resubmitted {dto : SubmitProposalDto} {proposalId : ProposalId}
    (other : RequestId) (provider : UserId) :
    HasProposal
        { market with proposals := market.proposals.update proposalId (resubmitted dto) } other
        provider ↔
      HasProposal market other provider :=
  hasProposal_congr (market.proposals.map_rows_update (resubmitted dto) (fun _ => rfl) _
    fun _ => rfl) other provider

theorem hasProposal_inserted {dto : SubmitProposalDto} (other : RequestId) (provider : UserId) :
    HasProposal
        { market with
          proposals := market.proposals.insert (submittedProposal requestId providerId dto) }
        other provider ↔
      (requestId = other ∧ providerId = provider) ∨ HasProposal market other provider := by
  constructor
  · rintro ⟨proposal, member, pair⟩
    rcases (market.proposals.mem_insert (submittedProposal requestId providerId dto)
      fun _ => rfl).mp member with new | old
    · rw [new] at pair
      exact .inl pair
    · exact .inr ⟨proposal, old, pair⟩
  · intro either
    rcases either with pair | ⟨proposal, member, pair⟩
    · exact ⟨_, (market.proposals.mem_insert (submittedProposal requestId providerId dto)
        fun _ => rfl).mpr (.inl rfl), pair⟩
    · exact ⟨proposal, (market.proposals.mem_insert (submittedProposal requestId providerId dto)
        fun _ => rfl).mpr (.inr member), pair⟩

/-- What `markAccepted` makes of one invitation. -/
def marked (requestId : RequestId) (providerUserId : UserId) (now : Time)
    (invitation : RequestInvitation) : RequestInvitation :=
  if invitation.requestId = requestId ∧ invitation.providerUserId = providerUserId then
    { invitation with
      status := .accepted
      openedAt := invitation.openedAt.or (some now)
      respondedAt := if invitation.status = .accepted then invitation.respondedAt else some now
      expiresAt := if invitation.status = .accepted then invitation.expiresAt else none }
  else
    invitation

theorem mem_markAccepted {invitation : RequestInvitation}
    (member : invitation ∈ (markAccepted requestId providerId now market).invitations) :
    ∃ old ∈ market.invitations, invitation = marked requestId providerId now old := by
  obtain ⟨opened, openedMember, made⟩ :=
    (Table.mem_updateMany _ _ (acceptedInvitation now) fun _ => rfl).mp member
  obtain ⟨old, oldMember, opens⟩ :=
    (market.invitations.mem_updateMany _ (openedInvitation now) fun _ => rfl).mp openedMember
  refine ⟨old, oldMember, ?_⟩
  rw [made, opens, marked]
  by_cases pair : old.requestId = requestId ∧ old.providerUserId = providerId
  · obtain ⟨id, oldRequestId, oldProviderUserId, status, openedAt, respondedAt, expiresAt⟩ :=
      old
    rw [if_pos pair]
    cases openedAt <;> cases status <;>
      simp_all [openedInvitation, acceptedInvitation]
  · rw [if_neg pair]
    have apart : (decide (old.requestId = requestId) &&
        decide (old.providerUserId = providerId)) = false := by
      simpa using pair
    simp [apart]

/-- A pair which has a proposal is accepted, the others are as before. -/
theorem follows_marked {before : Marketplace} {invitation : RequestInvitation}
    (requests : market.requests = before.requests)
    (proposals : ∀ other provider, HasProposal market other provider ↔
      (requestId = other ∧ providerId = provider) ∨ HasProposal before other provider)
    (follows : FollowsLifecycle before invitation) :
    FollowsLifecycle market (marked requestId providerId now invitation) := by
  by_cases pair : invitation.requestId = requestId ∧ invitation.providerUserId = providerId
  · rw [marked, if_pos pair]
    constructor
    · intro status
      cases status
    · exact ⟨fun _ => (proposals _ _).mpr (.inl ⟨pair.1.symm, pair.2.symm⟩), fun _ => rfl⟩
    · intro _
      refine ⟨by cases opened : invitation.openedAt <;> rfl, ?_⟩
      by_cases accepted : invitation.status = .accepted
      · simp only [if_pos accepted]
        exact (follows.accepted accepted).2
      · simp [accepted]
    · intro status
      cases status
    · intro status
      cases status
  · rw [marked, if_neg pair]
    have same : HasProposal market invitation.requestId invitation.providerUserId ↔
        HasProposal before invitation.requestId invitation.providerUserId := by
      rw [proposals]
      exact or_iff_right fun named => pair ⟨named.1.symm, named.2.symm⟩
    refine ⟨fun status => ?_, follows.accepted_iff.trans same.symm, follows.accepted,
      follows.declined, fun status => ?_⟩
    · rw [IsOpenFor, requests]
      exact follows.sent status
    · rw [IsOver, requests]
      exact follows.expired status

end Proposals

/-! ## Selection -/

section Selection

variable {market : Marketplace} {requestId : RequestId} {proposalId : ProposalId} {now : Time}

/-- The marketplace after a selection. -/
def selectedMarket (requestId : RequestId) (proposalId : ProposalId) (now : Time)
    (market : Marketplace) : Marketplace :=
  expireInvitations requestId now (closeRequest requestId proposalId market)

theorem find?_selectedMarket (other : RequestId) :
    (selectedMarket requestId proposalId now market).requests.find? other =
      if other = requestId then
        (market.requests.find? other).map fun request =>
          { request with status := .closed, selectedProposalId := some proposalId }
      else market.requests.find? other :=
  market.requests.find?_update
    (fun request => { request with status := .closed, selectedProposalId := some proposalId })
    (fun _ => rfl) requestId other

theorem hasProposal_selectedMarket (other : RequestId) (provider : UserId) :
    HasProposal (selectedMarket requestId proposalId now market) other provider ↔
      HasProposal market other provider := by
  refine hasProposal_congr ?_ other provider
  simp only [selectedMarket, expireInvitations, closeRequest]
  rw [Table.map_rows_update, Table.map_rows_updateMany]
  · exact fun _ => rfl
  · exact fun _ => rfl

theorem isClosed_selected {request : ServiceRequest}
    (found : market.requests.find? requestId = some request) :
    IsClosed (selectedMarket requestId proposalId now market) requestId := by
  rw [IsClosed, find?_selectedMarket, if_pos rfl, found]
  exact ⟨_, rfl, rfl⟩

theorem isClosed_selectedMarket {other : RequestId} (closed : IsClosed market other) :
    IsClosed (selectedMarket requestId proposalId now market) other := by
  obtain ⟨request, found, status⟩ := closed
  by_cases same : other = requestId
  · rw [same] at found ⊢
    exact isClosed_selected found
  · rw [IsClosed, find?_selectedMarket, if_neg same]
    exact ⟨request, found, status⟩

theorem isOver_selectedMarket {other : RequestId} (past : IsOver market other) :
    IsOver (selectedMarket requestId proposalId now market) other := by
  obtain ⟨request, found, done⟩ := past
  by_cases same : other = requestId
  · rw [same] at found ⊢
    obtain ⟨later, foundLater, status⟩ := isClosed_selected found
    refine ⟨later, foundLater, .inl ?_⟩
    rw [status]
    decide
  · rw [IsOver, find?_selectedMarket, if_neg same]
    exact ⟨request, found, done⟩

theorem keeps_selectedMarket {request : ServiceRequest}
    (found : market.requests.find? requestId = some request) (keeps : KeepsLifecycle market) :
    KeepsLifecycle (selectedMarket requestId proposalId now market) := by
  intro invitation member
  obtain ⟨old, oldMember, made⟩ :=
    (Table.mem_updateMany _ _ (expiredInvitation now) fun _ => rfl).mp member
  have follows := keeps old oldMember
  by_cases expires : old.requestId = requestId && old.status = .sent
  · rw [if_pos expires] at made
    simp only [Bool.and_eq_true, decide_eq_true_eq] at expires
    have past : IsOver (selectedMarket requestId proposalId now market) old.requestId := by
      rw [expires.1]
      obtain ⟨later, foundLater, status⟩ :=
        @isClosed_selected market requestId proposalId now _ found
      refine ⟨later, foundLater, .inl ?_⟩
      rw [status]
      decide
    have none : ¬ HasProposal (selectedMarket requestId proposalId now market) old.requestId
        old.providerUserId := by
      rw [hasProposal_selectedMarket, ← follows.accepted_iff, expires.2]
      decide
    rw [made]
    exact follows_expired none past
  · rw [if_neg expires] at made
    rw [made]
    refine ⟨fun pending => ?_, follows.accepted_iff.trans
      (hasProposal_selectedMarket _ _).symm, follows.accepted, follows.declined,
      fun status => ?_⟩
    · have other : old.requestId ≠ requestId := by
        simpa [pending] using expires
      rw [IsOpenFor, find?_selectedMarket, if_neg other]
      exact follows.sent pending
    · have dates := follows.expired status
      exact ⟨dates.1, dates.2.1, isOver_selectedMarket dates.2.2⟩

end Selection

end Tchuno.Requests
