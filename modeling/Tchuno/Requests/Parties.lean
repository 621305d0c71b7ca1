import Tchuno.Requests.Invitations

/-!
# Money goes to the right people

The parties of a payment are copied from the request and the proposal into the job, from the
job into its intents and from an intent into its payouts and refunds.  Who made a request,
who made a proposal for it and whose a profile is never changes, so every copy stays right.
-/

namespace Tchuno.Requests

open Tchuno.Library Tchuno.Library.Action Tchuno.Library.Ecma Tchuno.Payments

/-! ## Identities in the marketplace -/

/-- The proposal was made by somebody else than the customer of its request. -/
def IsForeign (market : Marketplace) (proposal : Proposal) : Prop :=
  ∃ request, market.requests.find? proposal.requestId = some request ∧
    request.customerId ≠ proposal.providerId

/-- Nobody's rows change hands, and every new proposal is foreign. -/
structure Continues (before after : Marketplace) : Prop where
  requests : Table.Evolves ServiceRequest.customerId before.requests after.requests
  proposals : Table.Evolves pair before.proposals after.proposals
  profiles : Table.Evolves WorkerProfile.userId before.workerProfiles after.workerProfiles
  offered : ∀ proposal ∈ after.proposals,
    (∃ old ∈ before.proposals, pair proposal = pair old) ∨ IsForeign after proposal

section Continues

variable {before middle after : Marketplace} {proposal old : Proposal}

theorem isForeign_congr (same : pair proposal = pair old) (foreign : IsForeign before old) :
    IsForeign before proposal := by
  simp only [pair, Prod.mk.injEq] at same
  rw [IsForeign, same.1, same.2]
  exact foreign

theorem isForeign_continues
    (requests : Table.Evolves ServiceRequest.customerId before.requests after.requests)
    (foreign : IsForeign before proposal) : IsForeign after proposal := by
  obtain ⟨request, found, other⟩ := foreign
  obtain ⟨later, foundLater, same⟩ := requests _ request found
  have sameCustomer : later.customerId = request.customerId := same
  exact ⟨later, foundLater, sameCustomer ▸ other⟩

/-- Requests and proposals may be rewritten, and requests and profiles created. -/
theorem Continues.rewrite
    (requests : Table.Evolves ServiceRequest.customerId before.requests after.requests)
    (proposals : after.proposals = before.proposals)
    (profiles : Table.Evolves WorkerProfile.userId before.workerProfiles
      after.workerProfiles) : Continues before after where
  requests := requests
  proposals := by
    rw [proposals]
    exact Table.Evolves.refl _ _
  profiles := profiles
  offered := by
    rw [proposals]
    exact fun proposal member => .inl ⟨proposal, member, rfl⟩

end Continues

/-! ## The changes of the services -/

section Changes

variable (market : Marketplace)

theorem continues_invitations (invitations : Table RequestInvitation) :
    Continues market { market with invitations := invitations } :=
  .rewrite (Table.Evolves.refl _ _) rfl (Table.Evolves.refl _ _)

theorem continues_expiredByIds (requestIds : List RequestId) (now : Time) :
    Continues market (expiredByIds requestIds now market) := by
  refine .rewrite ?_ rfl (Table.Evolves.refl _ _)
  exact Table.Evolves.updateMany _ market.requests _
    (fun request : ServiceRequest => { request with status := .expired }) (fun _ => rfl)
    fun _ => rfl

theorem continues_placed (make : RequestId → ServiceRequest)
    (keyed : ∀ id, Keyed.key (make id) = id) :
    Continues market { market with requests := market.requests.insert make keyed } :=
  .rewrite (Table.Evolves.insert _ _ make keyed) rfl (Table.Evolves.refl _ _)

theorem continues_adjusted (requestId : RequestId) (dto : UpdateServiceRequestDto)
    (request : ServiceRequest) (now : Time) :
    Continues market
      { market with requests := market.requests.update requestId (adjusted dto request now) } := by
  refine .rewrite ?_ rfl (Table.Evolves.refl _ _)
  exact Table.Evolves.update _ _ requestId (adjusted dto request now) (fun _ => rfl) fun _ => rfl

theorem continues_upsertMe (userId : UserId) (isAvailable : Bool) :
    Continues market (upsertMe userId isAvailable market) := by
  refine .rewrite (Table.Evolves.refl _ _) rfl ?_
  simp only [upsertMe]
  cases profileOf? userId market with
  | some profile =>
      exact Table.Evolves.update _ _ profile.id
        (fun row : WorkerProfile => { row with isAvailable := isAvailable }) (fun _ => rfl)
        fun _ => rfl
  | none =>
      exact Table.Evolves.insert _ _ _ fun _ => rfl

theorem continues_resubmitted (proposalId : ProposalId) (dto : SubmitProposalDto) :
    Continues market
      { market with proposals := market.proposals.update proposalId (resubmitted dto) } where
  requests := Table.Evolves.refl _ _
  proposals :=
    Table.Evolves.update _ _ proposalId (resubmitted dto) (fun _ => rfl) fun _ => rfl
  profiles := Table.Evolves.refl _ _
  offered := by
    intro proposal member
    obtain ⟨old, oldMember, made⟩ :=
      (market.proposals.mem_update (resubmitted dto) fun _ => rfl).mp member
    refine .inl ⟨old, oldMember, ?_⟩
    rw [made]
    split_ifs <;> rfl

theorem continues_submitted {requestId : RequestId} {providerId : UserId}
    {request : ServiceRequest} (found : market.requests.find? requestId = some request)
    (other : request.customerId ≠ providerId) (dto : SubmitProposalDto) :
    Continues market
      { market with
        proposals := market.proposals.insert (submittedProposal requestId providerId dto) } where
  requests := Table.Evolves.refl _ _
  proposals := Table.Evolves.insert _ _ _ fun _ => rfl
  profiles := Table.Evolves.refl _ _
  offered := by
    intro proposal member
    rcases (market.proposals.mem_insert (submittedProposal requestId providerId dto)
      fun _ => rfl).mp member with new | old
    · rw [new]
      exact .inr ⟨request, found, other⟩
    · exact .inl ⟨proposal, old, rfl⟩

theorem continues_selectedMarket (requestId : RequestId) (proposalId : ProposalId)
    (now : Time) : Continues market (selectedMarket requestId proposalId now market) where
  requests := Table.Evolves.update _ market.requests requestId
    (fun request : ServiceRequest =>
      { request with status := .closed, selectedProposalId := some proposalId })
    (fun _ => rfl) fun _ => rfl
  proposals := by
    have rejected : Table.Evolves pair market.proposals _ :=
      Table.Evolves.updateMany pair market.proposals
        (fun proposal => proposal.requestId = requestId && proposal.id ≠ proposalId)
        (fun proposal : Proposal => { proposal with status := .rejected }) (fun _ => rfl)
        fun _ => rfl
    exact rejected.trans (Table.Evolves.update pair _ proposalId
      (fun proposal : Proposal => { proposal with status := .selected }) (fun _ => rfl)
      fun _ => rfl)
  profiles := Table.Evolves.refl _ _
  offered := by
    intro proposal member
    obtain ⟨middle, middleMember, made⟩ := (Table.mem_update _
      (fun proposal : Proposal => { proposal with status := .selected }) fun _ => rfl).mp member
    obtain ⟨old, oldMember, rejected⟩ := (market.proposals.mem_updateMany _
      (fun proposal : Proposal => { proposal with status := .rejected })
      fun _ => rfl).mp middleMember
    refine .inl ⟨old, oldMember, ?_⟩
    rw [made, rejected]
    split_ifs <;> rfl

end Changes

/-! ## Services before the selection -/

theorem submissionGate_eq_ok {requestId : RequestId} {actorUserId : UserId} {store : Store}
    {terms : SubmissionTerms} (passed : submissionGate requestId actorUserId store = .ok terms) :
    store.market.requests.find? requestId = some terms.request ∧
      terms.request.customerId ≠ actorUserId := by
  simp only [submissionGate, gate_bind_eq_ok, orThrow_eq_ok, guardThat_eq_ok, gate_pure_eq_ok]
    at passed
  obtain ⟨request, found, _, _, _, other, same⟩ := passed
  rw [← same]
  exact ⟨found, other⟩

section Services

variable {property : Store → Prop}

/-- The property survives when nobody's rows change hands. -/
def IsLasting (property : Store → Prop) : Prop :=
  ∀ store market, Continues store.market market → property store →
    property { store with market := market }

variable (lasting : IsLasting property)

include lasting

theorem onMarket_preserves {change : Marketplace → Marketplace}
    (continues : ∀ market, Continues market (change market)) :
    (onMarket change).Preserves property :=
  preserves_alter fun store holds => lasting store _ (continues store.market) holds

theorem refresh_preserves (request : ServiceRequest) (now : Time) :
    (refreshRequestStatusIfExpired request now).Preserves property := by
  unfold refreshRequestStatusIfExpired
  apply preserves_ite
  · rw [expireRequest_eq]
    refine preserves_bind ?_ fun _ => preserves_pure _
    exact onMarket_preserves lasting fun market => continues_expiredByIds market [request.id] now
  · exact preserves_pure _

theorem placeRequest_preserves (make : RequestId → ServiceRequest)
    (keyed : ∀ id, Keyed.key (make id) = id) :
    (placeRequest make keyed).Preserves property := by
  refine preserves_bind (preserves_inspect _) fun _ => ?_
  refine preserves_bind ?_ fun _ => preserves_pure _
  exact onMarket_preserves lasting fun market => continues_placed market make keyed

theorem create_preserves (expiryHours : EnvNumber) (actorUserId : UserId)
    (dto : CreateServiceRequestDto) (now : Time) :
    (create expiryHours actorUserId dto now).Preserves property :=
  preserves_bind (preserves_consult _) fun _ => placeRequest_preserves lasting _ _

theorem recreate_preserves (expiryHours : EnvNumber) (actorUserId : UserId)
    (requestId : RequestId) (dto : RecreateServiceRequestDto) (now : Time) :
    (recreate expiryHours actorUserId requestId dto now).Preserves property := by
  refine preserves_bind (preserves_consult _) fun request => ?_
  refine preserves_bind (preserves_inspect _) fun _ => ?_
  refine preserves_bind (refresh_preserves lasting request now) fun _ => ?_
  refine preserves_bind (preserves_require _ _) fun _ => ?_
  exact preserves_bind (preserves_consult _) fun _ => placeRequest_preserves lasting _ _

theorem update_preserves (actorUserId : UserId) (requestId : RequestId)
    (dto : UpdateServiceRequestDto) (now : Time) :
    (update actorUserId requestId dto now).Preserves property := by
  refine preserves_bind (preserves_consult _) fun request => ?_
  refine preserves_bind (preserves_inspect _) fun _ => ?_
  refine preserves_bind (refresh_preserves lasting request now) fun _ => ?_
  refine preserves_bind (preserves_require _ _) fun _ => ?_
  refine preserves_ite (preserves_bind ?_ fun _ => preserves_pure _) (preserves_pure _)
  exact onMarket_preserves lasting fun market => continues_adjusted market requestId dto request now

theorem getMineById_preserves (actorUserId : UserId) (requestId : RequestId) (now : Time) :
    (getMineById actorUserId requestId now).Preserves property := by
  refine preserves_bind (preserves_consult _) fun request => ?_
  refine preserves_bind (refresh_preserves lasting request now) fun _ => ?_
  exact preserves_ite (preserves_consult _) (preserves_pure _)

theorem expireStaleOpenRequests_preserves (now : Time) :
    (expireStaleOpenRequests now).Preserves property := by
  refine preserves_bind (preserves_inspect _) fun stale => ?_
  refine preserves_ite (preserves_pure _) (preserves_bind ?_ fun _ => preserves_pure _)
  exact onMarket_preserves lasting fun market => continues_expiredByIds market _ now

theorem listRequestInvitations_preserves (requestId : RequestId) (actorUserId : UserId)
    (now : Time) :
    (listRequestInvitations requestId actorUserId now).Preserves property := by
  refine preserves_bind (preserves_consult _) fun request => ?_
  refine preserves_bind (refresh_preserves lasting request now) fun status => ?_
  refine preserves_bind ?_ fun _ => preserves_inspect _
  refine preserves_ite (preserves_pure _) ?_
  exact onMarket_preserves lasting fun market => continues_invitations market _

theorem createInvitation_preserves (requestId : RequestId)
    (actorUserId providerUserId : UserId) (now : Time) :
    (createInvitation requestId actorUserId providerUserId now).Preserves property := by
  refine preserves_bind (preserves_require _ _) fun _ => ?_
  refine preserves_bind (preserves_inspect _) fun _ => ?_
  refine preserves_bind (preserves_consult _) fun request => ?_
  refine preserves_bind (refresh_preserves lasting request now) fun _ => ?_
  refine preserves_bind (preserves_consult _) fun _ => ?_
  refine preserves_bind (preserves_inspect _) fun _ => ?_
  refine preserves_bind ?_ fun _ => preserves_pure _
  exact onMarket_preserves lasting fun market => continues_invitations market _

theorem listMineInvitations_preserves (actorUserId : UserId) (now : Time) :
    (listMineInvitations actorUserId now).Preserves property := by
  refine preserves_bind (expireStaleOpenRequests_preserves lasting now) fun _ => ?_
  refine preserves_bind ?_ fun _ => preserves_bind ?_ fun _ => preserves_inspect _
  · exact onMarket_preserves lasting fun market => continues_invitations market _
  · exact onMarket_preserves lasting fun market => continues_invitations market _

theorem declineInvitation_preserves (invitationId : Nat) (actorUserId : UserId) (now : Time) :
    (declineInvitation invitationId actorUserId now).Preserves property := by
  have rewrites : ∀ invitation change keeps,
      (rewriteInvitation invitation change keeps).Preserves property := fun invitation _ _ =>
    preserves_bind
      (onMarket_preserves lasting fun market => continues_invitations market _)
      fun _ => preserves_pure _
  refine preserves_bind (preserves_consult _) fun terms => ?_
  refine preserves_ite (preserves_pure _) ?_
  refine preserves_bind (refresh_preserves lasting terms.request now) fun _ => ?_
  refine preserves_ite (preserves_pure _) (preserves_ite ?_ ?_)
  · exact rewrites _ _ _
  · exact rewrites _ _ _

theorem writeProposal_preserves {requestId : RequestId} {providerId : UserId}
    {request : ServiceRequest} {store : Store} (holds : property store)
    (found : store.market.requests.find? requestId = some request)
    (other : request.customerId ≠ providerId) (dto : SubmitProposalDto) :
    (writeProposal requestId providerId dto store).Meets (fun _ => property) property := by
  refine meets_inspect_bind ?_
  cases proposalOf? requestId providerId store.market with
  | some proposal =>
      refine meets_alter_bind (meets_pure ?_)
      exact lasting store _ (continues_resubmitted store.market proposal.id dto) holds
  | none =>
      refine meets_inspect_bind (meets_alter_bind (meets_pure ?_))
      exact lasting store _ (continues_submitted store.market found other dto) holds

theorem submitProposal_preserves (requestId : RequestId) (actorUserId : UserId)
    (dto : SubmitProposalDto) (now : Time) :
    (submitProposal requestId actorUserId dto now).Preserves property := by
  intro store holds
  apply state_of_meets
  refine meets_consult_bind (fun terms passed => ?_) holds
  obtain ⟨found, other⟩ := submissionGate_eq_ok passed
  refine meets_refresh_bind (fun _ => ?_) fun _ => ?_
  · refine meets_require_bind (fun _ => meets_require_bind (fun _ => ?_) holds) holds
    refine meets_bind (writeProposal_preserves lasting holds found other dto) ?_
    intro proposal after held
    refine meets_alter_bind (meets_pure ?_)
    exact lasting after _ (continues_invitations after.market _) held
  · have expired := lasting store _ (continues_expiredByIds store.market [terms.request.id] now)
      holds
    exact meets_require_bind (fun isOpen => by cases isOpen.1) expired

end Services

/-! ## Who a job is between -/

structure JobParties (market : Marketplace) (job : Job) : Prop where
  customer : job.customerId = some job.clientId
  request : ∃ requestId ∈ job.requestId, ∃ request,
    market.requests.find? requestId = some request ∧ request.customerId = job.clientId
  proposal : ∃ proposalId ∈ job.proposalId, ∃ proposal,
    market.proposals.find? proposalId = some proposal ∧ job.providerId = some proposal.providerId
  profile : ∃ profile, market.workerProfiles.find? job.workerProfileId = some profile ∧
    job.providerId = some profile.userId
  different : job.providerId ≠ some job.clientId

structure IntentParties (books : Books) (intent : PaymentIntent) (job : Job) : Prop where
  found : books.jobs.find? intent.jobId = some job
  customer : intent.customerId = job.clientId
  provider : intent.providerUserId = job.providerId

/-- Every copy of the parties is right. -/
structure Addressed (market : Marketplace) (books : Books) : Prop where
  foreign : ∀ proposal ∈ market.proposals, IsForeign market proposal
  jobs : ∀ job ∈ books.jobs, JobParties market job
  intents : ∀ intent ∈ books.intents, ∃ job, IntentParties books intent job
  payouts : ∀ payout ∈ books.payouts, ∀ intentId ∈ payout.paymentIntentId,
    ∃ intent, books.intents.find? intentId = some intent ∧
      intent.providerUserId = some payout.providerUserId
  refunds : ∀ refund ∈ books.refunds,
    ∃ intent, books.intents.find? refund.paymentIntentId = some intent ∧
      refund.jobId = intent.jobId

section Copies

variable {before after : Marketplace} {books later : Books} {job old : Job}

theorem jobParties_continues (continues : Continues before after)
    (parties : JobParties before job) : JobParties after job where
  customer := parties.customer
  request := by
    obtain ⟨requestId, names, request, found, owner⟩ := parties.request
    obtain ⟨later, foundLater, same⟩ := continues.requests requestId request found
    exact ⟨requestId, names, later, foundLater, Eq.trans same owner⟩
  proposal := by
    obtain ⟨proposalId, names, proposal, found, provider⟩ := parties.proposal
    obtain ⟨later, foundLater, same⟩ := continues.proposals proposalId proposal found
    simp only [pair, Prod.mk.injEq] at same
    refine ⟨proposalId, names, later, foundLater, ?_⟩
    rw [same.2]
    exact provider
  profile := by
    obtain ⟨profile, found, provider⟩ := parties.profile
    obtain ⟨later, foundLater, same⟩ := continues.profiles _ profile found
    refine ⟨later, foundLater, ?_⟩
    rw [provider]
    exact congrArg some same.symm
  different := parties.different

theorem jobParties_congr (same : job.fixed = old.fixed) (parties : JobParties before old) :
    JobParties before job := by
  have client := field_eq same Job.clientId fun _ => rfl
  have customer := field_eq same Job.customerId fun _ => rfl
  have provider := field_eq same Job.providerId fun _ => rfl
  have request := field_eq same Job.requestId fun _ => rfl
  have proposal := field_eq same Job.proposalId fun _ => rfl
  have profile := field_eq same Job.workerProfileId fun _ => rfl
  constructor
  · rw [customer, client]
    exact parties.customer
  · rw [request, client]
    exact parties.request
  · rw [proposal, provider]
    exact parties.proposal
  · rw [profile, provider]
    exact parties.profile
  · rw [provider, client]
    exact parties.different

theorem Addressed.continues (continues : Continues before after)
    (addressed : Addressed before books) : Addressed after books where
  foreign := by
    intro proposal member
    rcases continues.offered proposal member with ⟨old, oldMember, same⟩ | foreign
    · have foreign := isForeign_continues continues.requests (addressed.foreign old oldMember)
      exact isForeign_congr same foreign
    · exact foreign
  jobs := fun job member => jobParties_continues continues (addressed.jobs job member)
  intents := addressed.intents
  payouts := addressed.payouts
  refunds := addressed.refunds

/-- An intent finds its job again, and the job has the same parties. -/
theorem intentParties_evolve {intent older : PaymentIntent}
    (jobs : Table.Evolves Job.fixed books.jobs later.jobs) (same : intent.fixed = older.fixed)
    (parties : IntentParties books older old) : ∃ job, IntentParties later intent job := by
  obtain ⟨job, found, sameJob⟩ := jobs _ old parties.found
  have sameId := field_eq same PaymentIntent.jobId fun _ => rfl
  have customer := field_eq same PaymentIntent.customerId fun _ => rfl
  have provider := field_eq same PaymentIntent.providerUserId fun _ => rfl
  have client := field_eq sameJob Job.clientId fun _ => rfl
  have worker := field_eq sameJob Job.providerId fun _ => rfl
  exact
    ⟨job,
      { found := sameId ▸ found
        customer := customer.trans (parties.customer.trans client.symm)
        provider := provider.trans (parties.provider.trans worker.symm) }⟩

end Copies

/-! ## Payment calls -/

/-- What the services have checked about the parties before they copy them. -/
def NamesParties : Movement → Prop
  | .openIntent _ actorUserId _ _ job providerUserId =>
      actorUserId = job.clientId ∧ ∀ providerId ∈ job.providerId, providerUserId = providerId
  | .openPayout intent _ dto => intent.providerUserId = some dto.providerUserId
  | _ => True

theorem createIntentGate_names {actorUserId : UserId} {dto : CreatePaymentIntentDto}
    {store : Store} {job : Job} {chargeAmount : Int} {providerUserId : UserId}
    (passed : createIntentGate actorUserId dto store =
      .ok (.create job chargeAmount providerUserId)) :
    actorUserId = job.clientId ∧ ∀ providerId ∈ job.providerId, providerUserId = providerId := by
  simp only [createIntentGate, gate_bind_eq_ok, orThrow_eq_ok, guardThat_eq_ok] at passed
  obtain ⟨found, _, _, owner, _, _, _, _, decided⟩ := passed
  split at decided
  · cases decided
  · simp only [gate_bind_eq_ok, orThrow_eq_ok, gate_pure_eq_ok] at decided
    obtain ⟨profile, _, made⟩ := decided
    injection made with sameJob _ sameProvider
    rw [← sameJob, ← sameProvider]
    refine ⟨owner.symm, fun providerId named => ?_⟩
    rw [Option.mem_def.mp named]
    rfl

theorem createPayoutGate_names {dto : CreatePayoutDto} {store : Store}
    {intent : PaymentIntent} (passed : createPayoutGate dto store = .ok intent) :
    intent.providerUserId = some dto.providerUserId := by
  simp only [createPayoutGate, gate_bind_eq_ok, orThrow_eq_ok, guardThat_eq_ok,
    gate_pure_eq_ok] at passed
  obtain ⟨_, _, found, _, _, owner, _, _, same⟩ := passed
  rw [← same]
  exact owner

theorem movements_nameParties (store : Store) (operation : Operation) :
    ∀ movement ∈ operation.movements store, NamesParties movement := by
  intro movement member
  cases makes_of_mem member with
  | openIntent gate =>
      exact createIntentGate_names gate
  | openPayout gate =>
      exact createPayoutGate_names gate
  | _ =>
      trivial

section Movements

variable {market : Marketplace} {books : Books} {movement : Movement}

/-- An intent is an old one, or it was opened for a job of the books. -/
theorem intent_opened (kept : OpensNoJob movement) {intent : PaymentIntent}
    (member : intent ∈ movement.intents books) :
    (∃ old ∈ books.intents, intent.fixed = old.fixed) ∨
      ∃ split actorUserId dto now job providerUserId,
        movement = .openIntent split actorUserId dto now job providerUserId ∧
          intent = requestedIntent split actorUserId dto now job providerUserId
            books.intents.nextId := by
  cases movement with
  | selectProposal policy request terms actorUserId =>
      exact kept.elim
  | openIntent split actorUserId dto now job providerUserId =>
      simp only [Movement.intents] at member
      rcases Table.eq_or_mem_of_insert member with new | old
      · exact .inr ⟨split, actorUserId, dto, now, job, providerUserId, rfl, new⟩
      · exact .inl ⟨intent, old, rfl⟩
  | moveJob job requesterId dto now =>
      simp only [Movement.intents] at member
      split_ifs at member
      · exact .inl (Table.Evolves.origin_updateMany _ member fun _ => rfl)
      · exact .inl ⟨intent, member, rfl⟩
  | applyReport report =>
      simp only [Movement.intents] at member
      split at member
      · exact .inl (Table.Evolves.origin_update _ member fun _ => rfl)
      · exact .inl ⟨intent, member, rfl⟩
  | _ =>
      exact .inl ⟨intent, member, rfl⟩

theorem payout_opened {payout : Payout} (member : payout ∈ movement.payouts books) :
    (∃ old ∈ books.payouts, payout.fixed = old.fixed) ∨
      ∃ intent actorUserId dto, movement = .openPayout intent actorUserId dto ∧
        payout = pendingPayout intent actorUserId dto books.payouts.nextId := by
  cases movement with
  | openPayout intent actorUserId dto =>
      simp only [Movement.payouts] at member
      rcases Table.eq_or_mem_of_insert member with new | old
      · exact .inr ⟨intent, actorUserId, dto, rfl, new⟩
      · exact .inl ⟨payout, old, rfl⟩
  | approvePayout target actorUserId =>
      exact .inl (Table.Evolves.origin_update _ member fun _ => rfl)
  | settlePayout target actorUserId dto answer now =>
      exact .inl (Table.Evolves.origin_update _ member fun _ => rfl)
  | _ =>
      exact .inl ⟨payout, member, rfl⟩

theorem intents_addressed (admitted : movement.Admitted books) (kept : OpensNoJob movement)
    (names : NamesParties movement) (addressed : Addressed market books)
    {intent : PaymentIntent} (member : intent ∈ movement.intents books) :
    ∃ job, IntentParties (movement.apply books) intent job := by
  have jobs : Table.Evolves Job.fixed books.jobs (movement.apply books).jobs :=
    Movement.jobs_evolve books movement
  rcases intent_opened kept member with ⟨old, oldMember, same⟩ |
    ⟨split, actorUserId, dto, now, job, providerUserId, opened, made⟩
  · obtain ⟨job, parties⟩ := addressed.intents old oldMember
    exact intentParties_evolve jobs same parties
  · rw [opened] at admitted names jobs ⊢
    have found : books.jobs.find? job.id = some job := admitted.1
    obtain ⟨profile, _, provider⟩ := (addressed.jobs job (books.jobs.mem_of_find? found)).profile
    rw [made]
    refine intentParties_evolve jobs rfl ⟨found, names.1, ?_⟩
    rw [provider]
    exact congrArg some (names.2 _ provider)

theorem payouts_addressed (admitted : movement.Admitted books) (names : NamesParties movement)
    (addressed : Addressed market books) {payout : Payout}
    (member : payout ∈ movement.payouts books) {intentId : IntentId}
    (owed : intentId ∈ payout.paymentIntentId) :
    ∃ intent, (movement.intents books).find? intentId = some intent ∧
      intent.providerUserId = some payout.providerUserId := by
  have intents := Movement.intents_evolve books movement
  have carried : ∃ intent, books.intents.find? intentId = some intent ∧
      intent.providerUserId = some payout.providerUserId := by
    rcases payout_opened member with ⟨old, oldMember, same⟩ |
      ⟨intent, actorUserId, dto, opened, made⟩
    · have intentOf := field_eq same Payout.paymentIntentId fun _ => rfl
      have provider := field_eq same Payout.providerUserId fun _ => rfl
      rw [provider]
      exact addressed.payouts old oldMember intentId (intentOf ▸ owed)
    · rw [opened] at admitted names
      rw [made] at owed ⊢
      have sameId : intent.id = intentId := Option.some.inj owed
      exact ⟨intent, sameId ▸ admitted.1, names⟩
  obtain ⟨intent, found, provider⟩ := carried
  obtain ⟨later, foundLater, same⟩ := intents intentId intent found
  have sameProvider := field_eq same PaymentIntent.providerUserId fun _ => rfl
  exact ⟨later, foundLater, sameProvider.trans provider⟩

theorem addressed_apply (admitted : movement.Admitted books) (kept : OpensNoJob movement)
    (names : NamesParties movement) (addressed : Addressed market books) :
    Addressed market (movement.apply books) where
  foreign := addressed.foreign
  jobs := by
    intro job member
    obtain ⟨old, oldMember, same⟩ := sameJobs_apply kept job member
    exact jobParties_congr same (addressed.jobs old oldMember)
  intents := fun _ member => intents_addressed admitted kept names addressed member
  payouts := fun _ member _ owed => payouts_addressed admitted names addressed member owed
  refunds := fun _ member => Movement.refund_job admitted addressed.refunds member

end Movements

theorem payment_addressed {store : Store} (consistent : store.Consistent)
    (addressed : Addressed store.market store.toBooks) {operation : Operation}
    (payment : IsPaymentCall operation) :
    Addressed (operation.perform store).market (operation.perform store).toBooks := by
  rw [market_perform payment store, perform_books consistent.toForeignKeys operation]
  have checked := (movements_admitted store operation).and_forall_mem
    fun movement member => And.intro (movements_opensNoJob store payment movement member)
      (movements_nameParties store operation movement member)
  refine @Machine.run_invariant _ _ bookkeeping (Addressed store.market)
    (fun books movement =>
      movement.Admitted books ∧ OpensNoJob movement ∧ NamesParties movement) ?_ store.toBooks
    addressed _ checked
  exact fun books movement addressed made => addressed_apply made.1 made.2.1 made.2.2 addressed

/-! ## The selection -/

theorem selectionGate_eq_ok {policy : PaymentPolicy} {request : ServiceRequest}
    {currentStatus : ServiceRequestStatus} {proposalId : ProposalId}
    {depositPercent : Option DepositPercent} {store : Store} {terms : SelectionTerms}
    (passed : selectionGate policy request currentStatus proposalId depositPercent store =
      .ok terms) :
    store.market.proposals.find? proposalId = some terms.proposal ∧
      terms.proposal.requestId = request.id ∧
      terms.providerProfile ∈ store.market.workerProfiles ∧
      terms.providerProfile.userId = terms.proposal.providerId := by
  simp only [selectionGate, gate_bind_eq_ok, orThrow_eq_ok, guardThat_eq_ok, gate_pure_eq_ok,
    Option.filter_eq_some_iff, decide_eq_true_eq] at passed
  obtain ⟨_, _, proposal, ⟨found, ofRequest⟩, _, _, profile, chosen, _, _, split, _, same⟩ :=
    passed
  obtain ⟨member, owner⟩ := store.market.workerProfiles.mem_of_findFirst? chosen
  rw [← same]
  exact ⟨found, ofRequest, member, of_decide_eq_true owner⟩

section Selection

variable {store : Store} {request : ServiceRequest} {policy : PaymentPolicy}
  {terms : SelectionTerms} {actorUserId : UserId}

/-- The job of a selection is between the customer and the provider who made the offer. -/
theorem selectedJob_parties (addressed : Addressed store.market store.toBooks)
    (found : store.market.requests.find? request.id = some request)
    (owner : request.customerId = actorUserId)
    {currentStatus : ServiceRequestStatus} {proposalId : ProposalId}
    {depositPercent : Option DepositPercent}
    (passed : selectionGate policy request currentStatus proposalId depositPercent store =
      .ok terms) (jobId : JobId) :
    JobParties store.market (selectedJob request terms actorUserId jobId) := by
  obtain ⟨offered, ofRequest, profile, provides⟩ := selectionGate_eq_ok passed
  have stored := store.market.proposals.mem_of_find? offered
  obtain ⟨same, foundSame, other⟩ := addressed.foreign terms.proposal stored
  rw [ofRequest, found, Option.some.injEq] at foundSame
  rw [← foundSame, owner] at other
  constructor
  · rfl
  · exact ⟨request.id, rfl, request, found, owner⟩
  · exact ⟨terms.proposal.id, rfl, terms.proposal, store.market.proposals.find?_key offered, rfl⟩
  · refine ⟨terms.providerProfile, ?_, congrArg some provides.symm⟩
    exact store.market.workerProfiles.find?_eq_some_iff.mpr ⟨profile, rfl⟩
  · exact fun same => other (Option.some.inj same).symm

theorem recordSelection_addressed (addressed : Addressed store.market store.toBooks)
    (parties : ∀ jobId, JobParties store.market (selectedJob request terms actorUserId jobId))
    (now : Time) (failed : Store → Prop) (refused : failed store) :
    ((Action.transaction (recordSelection policy request terms actorUserId now)) store).Meets
      (fun _ after => Addressed after.market after.toBooks) failed := by
  refine meets_transaction (meets_inspect_bind ?_)
  cases store.jobOfRequest? request.id with
  | some job =>
      refine meets_inspect_bind (meets_alter_bind (meets_pure ?_))
      exact addressed.continues (continues_invitations store.market _)
  | none =>
      have continues := continues_selectedMarket store.market request.id terms.proposal.id now
      have closed := addressed.continues continues
      refine meets_alter_bind (meets_inspect_bind ?_)
      refine meets_require_bind (fun _ => ?_) refused
      refine meets_inspect_bind (meets_alter_bind ?_)
      refine meets_inspect_bind (meets_alter_bind (meets_pure ?_))
      have jobs : Table.Evolves Job.fixed store.jobs
          (store.jobs.insert (selectedJob request terms actorUserId)) :=
        Table.Evolves.insert _ _ _ fun _ => rfl
      have intents : Table.Evolves PaymentIntent.fixed store.intents
          (store.intents.insert
            (depositIntent policy request terms actorUserId store.jobs.nextId)) :=
        Table.Evolves.insert _ _ _ fun _ => rfl
      constructor
      · exact closed.foreign
      · intro job member
        rcases (store.jobs.mem_insert (selectedJob request terms actorUserId)
          fun _ => rfl).mp member with new | old
        · rw [new]
          exact jobParties_continues continues (parties store.jobs.nextId)
        · exact closed.jobs job old
      · intro intent member
        rcases (store.intents.mem_insert
          (depositIntent policy request terms actorUserId store.jobs.nextId)
          fun _ => rfl).mp member with new | old
        · rw [new]
          refine ⟨selectedJob request terms actorUserId store.jobs.nextId, ?_, rfl, rfl⟩
          exact store.jobs.find?_insert_nextId (selectedJob request terms actorUserId)
            fun _ => rfl
        · obtain ⟨job, parties⟩ := closed.intents intent old
          exact intentParties_evolve jobs rfl parties
      · intro payout member intentId owed
        obtain ⟨intent, found, provider⟩ := closed.payouts payout member intentId owed
        obtain ⟨later, foundLater, same⟩ := intents intentId intent found
        have kept := field_eq same PaymentIntent.providerUserId fun _ => rfl
        exact ⟨later, foundLater, kept.trans provider⟩
      · intro refund member
        obtain ⟨intent, found, sameJob⟩ := closed.refunds refund member
        obtain ⟨later, foundLater, same⟩ := intents _ intent found
        have kept := field_eq same PaymentIntent.jobId fun _ => rfl
        exact ⟨later, foundLater, sameJob.trans kept.symm⟩

theorem selectProposal_addressed (addressed : Addressed store.market store.toBooks)
    (requestId : RequestId) (proposalId : ProposalId) (depositPercent : Option DepositPercent)
    (now : Time) :
    (selectProposal policy requestId proposalId actorUserId depositPercent now store).Meets
      (fun _ after => Addressed after.market after.toBooks)
      fun after => Addressed after.market after.toBooks := by
  refine meets_consult_bind (fun request passed => ?_) addressed
  obtain ⟨lookup, owner⟩ := ownedRequestGate_eq_ok passed
  have found := store.market.requests.find?_key lookup
  refine meets_inspect_bind (meets_inspect_bind ?_)
  refine meets_refresh_bind (fun _ => ?_) fun _ => ?_
  · refine meets_require_bind (fun _ => ?_) addressed
    refine meets_reply_or_select (fun job => meets_pure addressed) ?_
    refine meets_consult_bind (fun terms gate => ?_) addressed
    exact recordSelection_addressed addressed
      (selectedJob_parties addressed found owner gate) now _ addressed
  · have expired := addressed.continues
      (continues_expiredByIds store.market [request.id] now)
    refine meets_require_bind (fun _ => ?_) expired
    refine meets_reply_or_select (fun job => meets_pure expired) ?_
    exact meets_consult_bind (fun terms gate => by cases selectionGate_open gate) expired

end Selection

/-! ## Every run -/

def Parties (store : Store) : Prop :=
  store.Consistent ∧ Addressed store.market store.toBooks

theorem parties_lasting : IsLasting Parties :=
  fun _ _ continues parties => ⟨parties.1, parties.2.continues continues⟩

theorem parties_perform {store : Store} (parties : Parties store) (operation : MarketOperation) :
    Parties (operation.perform store) := by
  cases operation with
  | create expiryHours actorUserId dto now =>
      exact create_preserves parties_lasting _ _ _ _ store parties
  | recreate expiryHours actorUserId requestId dto now =>
      exact recreate_preserves parties_lasting _ _ _ _ _ store parties
  | update actorUserId requestId dto now =>
      exact update_preserves parties_lasting _ _ _ _ store parties
  | getMineById actorUserId requestId now =>
      exact getMineById_preserves parties_lasting _ _ _ store parties
  | listRequestInvitations requestId actorUserId now =>
      exact listRequestInvitations_preserves parties_lasting _ _ _ store parties
  | createInvitation requestId actorUserId providerUserId now =>
      exact createInvitation_preserves parties_lasting _ _ _ _ store parties
  | listMineInvitations actorUserId now =>
      exact listMineInvitations_preserves parties_lasting _ _ store parties
  | declineInvitation invitationId actorUserId now =>
      exact declineInvitation_preserves parties_lasting _ _ _ store parties
  | submitProposal requestId actorUserId dto now =>
      exact submitProposal_preserves parties_lasting _ _ _ _ store parties
  | expireStaleOpenRequests now =>
      exact expireStaleOpenRequests_preserves parties_lasting _ store parties
  | selectProposal policy requestId proposalId actorUserId depositPercent now =>
      have consistent := perform_consistent parties.1
        (.selectProposal policy requestId proposalId actorUserId depositPercent now)
      exact ⟨consistent, state_of_meets
        (selectProposal_addressed parties.2 requestId proposalId depositPercent now)⟩
  | upsertMe userId isAvailable =>
      exact parties_lasting store _ (continues_upsertMe store.market userId isAvailable) parties
  | payment operation call =>
      exact ⟨perform_consistent parties.1 operation, payment_addressed parties.1 parties.2 call⟩
  | others users categories =>
      exact parties_lasting store _ (.rewrite (Table.Evolves.refl _ _) rfl
        (Table.Evolves.refl _ _)) parties

theorem emptyStore_parties : Parties emptyStore :=
  ⟨Books.initial_consistent,
    { foreign := fun row member => absurd member (Table.not_mem_empty row)
      jobs := fun row member => absurd member (Table.not_mem_empty row)
      intents := fun row member => absurd member (Table.not_mem_empty row)
      payouts := fun row member => absurd member (Table.not_mem_empty row)
      refunds := fun row member => absurd member (Table.not_mem_empty row) }⟩

theorem parties_run (operations : List MarketOperation) :
    Parties (marketplace.run emptyStore operations) :=
  marketplace.run_preserves Parties
    (fun _ operation parties => parties_perform parties operation) emptyStore_parties operations

/-- What an intent, its job, its payouts and its refunds say about the two parties. -/
structure RightPeople (store : Store) (intent : PaymentIntent) (job : Job) : Prop where
  copied : IntentParties store.toBooks intent job
  parties : JobParties store.market job
  apart : intent.providerUserId ≠ some intent.customerId
  payouts : ∀ payout ∈ store.payouts, payout.paymentIntentId = some intent.id →
    some payout.providerUserId = intent.providerUserId
  refunds : ∀ refund ∈ store.refunds, refund.paymentIntentId = intent.id →
    refund.jobId = intent.jobId

/-- In every state the services can reach, every intent pays the right people. -/
theorem right_people (operations : List MarketOperation) :
    ∀ intent ∈ (marketplace.run emptyStore operations).intents,
      ∃ job, RightPeople (marketplace.run emptyStore operations) intent job := by
  have addressed := (parties_run operations).2
  generalize marketplace.run emptyStore operations = store at addressed ⊢
  intro intent member
  have found : store.intents.find? intent.id = some intent :=
    store.intents.find?_eq_some_iff.mpr ⟨member, rfl⟩
  obtain ⟨job, copied⟩ := addressed.intents intent member
  have parties := addressed.jobs job (store.jobs.mem_of_find? copied.found)
  refine ⟨job, copied, parties, ?_, ?_, ?_⟩
  · rw [copied.provider, copied.customer]
    exact parties.different
  · intro payout paid owed
    obtain ⟨same, foundSame, provider⟩ := addressed.payouts payout paid intent.id owed
    rw [found, Option.some.injEq] at foundSame
    rw [← provider, foundSame]
  · intro refund asked ofIntent
    obtain ⟨same, foundSame, sameJob⟩ := addressed.refunds refund asked
    rw [ofIntent, found, Option.some.injEq] at foundSame
    rw [sameJob, foundSame]

theorem sample_right_people :
    ∃ intent ∈ (marketplace.run emptyStore sampleOperations).intents,
      ∃ job, RightPeople (marketplace.run emptyStore sampleOperations) intent job := by
  have present : ∃ intent ∈ (marketplace.run emptyStore sampleOperations).intents.rows,
      intent.id = 0 := by
    decide +kernel
  obtain ⟨intent, member, _⟩ := present
  exact ⟨intent, member, right_people sampleOperations intent member⟩

end Tchuno.Requests
