import Tchuno.Requests.Snapshots

/-!
# Requests, proposals, jobs and intents agree

A selection closes the request, rejects the other proposals and copies the price.  Its checks
and those of a submission are made before their writes: the four tables agree as long as
nothing which was checked has changed when the write comes.
-/

namespace Tchuno.Requests

open Tchuno.Library Tchuno.Library.Ecma Tchuno.Payments

/-! ## Agreement -/

/-- The job of a selected proposal, with its intents. -/
structure Hired (books : Books) (proposal : Proposal) (job : Job) : Prop where
  ofRequest : job.requestId = some proposal.requestId
  only : ∀ other ∈ books.jobs, other.requestId = some proposal.requestId → other = job
  ofProposal : job.proposalId = some proposal.id
  price : job.agreedPrice = some proposal.price
  deposit : ∃ intent ∈ books.intents, intent.jobId = job.id
  quotes : ∀ intent ∈ books.intents, intent.jobId = job.id →
    intent.acceptedQuoteSnapshot = some proposal.price

/-- The proposal is selected, the others are rejected and there is one job. -/
structure Awarded (proposals : Table Proposal) (books : Books) (requestId : RequestId)
    (proposalId : ProposalId) : Prop where
  statuses : ∀ proposal ∈ proposals, proposal.requestId = requestId →
    proposal.status = if proposal.id = proposalId then .selected else .rejected
  hired : ∃ proposal ∈ proposals, proposal.id = proposalId ∧ proposal.requestId = requestId ∧
    ∃ job ∈ books.jobs, Hired books proposal job

structure Agrees (store : Store) (request : ServiceRequest) : Prop where
  closed_iff : request.status = .closed ↔ request.selectedProposalId.isSome = true
  selected_iff : request.selectedProposalId.isSome = true ↔
    ∃! proposal, proposal ∈ store.market.proposals ∧ proposal.requestId = request.id ∧
      proposal.status = .selected
  awarded : ∀ proposalId ∈ request.selectedProposalId,
    Awarded store.market.proposals store.toBooks request.id proposalId

def AllAgree (store : Store) : Prop :=
  ∀ request ∈ store.market.requests, Agrees store request

/-- What a statement must find when it writes. -/
def Call.FindsUnchanged (bidding : Bidding) : Call → Prop
  | .submitProposal input (.running (.rewriting proposal)) =>
      bidding.isProposalLocked proposal.id = false →
        ∀ request ∈ bidding.store.market.requests.find? input.requestId,
          request.status ≠ .closed
  | .submitProposal input (.running .creating) =>
      creationGate input bidding.store = .ok () →
        ∀ request ∈ bidding.store.market.requests.find? input.requestId,
          request.status ≠ .closed
  | .selectProposal _ (.running (.closed request terms others)) =>
      bidding.store.admitsJob request.id terms.proposal.id = true →
        ∀ proposal ∈ bidding.store.market.proposals,
          (proposal.id = terms.proposal.id → proposal.price = terms.proposal.price) ∧
          (proposal.requestId = request.id → proposal.id ≠ terms.proposal.id →
            proposal.id ∈ others)
  | _ => True

/-- A submission writes while the request is not closed; a selection is written while the
proposal has the price which was read and no other proposal has come. -/
def FindsUnchanged (bidding : Bidding) : BiddingStep → Prop
  | .advance number _ => ∀ call, bidding.calls[number]? = some call → call.FindsUnchanged bidding
  | _ => True

/-! ## The invariant -/

structure Agreement (store : Store) : Prop where
  unselected : ∀ request ∈ store.market.requests, request.selectedProposalId = none →
    request.status ≠ .closed ∧ ∀ proposal ∈ store.market.proposals,
      proposal.requestId = request.id → proposal.status = .submitted
  selected : ∀ request ∈ store.market.requests, ∀ proposalId ∈ request.selectedProposalId,
    request.status = .closed ∧
      Awarded store.market.proposals store.toBooks request.id proposalId
  known : ∀ proposal ∈ store.market.proposals,
    (store.market.requests.find? proposal.requestId).isSome = true
  billed : ∀ intent ∈ store.intents, (store.jobs.find? intent.jobId).isSome = true

section Invariant

variable {store : Store}

theorem uniqueSelected {proposals : Table Proposal} {books : Books} {requestId : RequestId}
    {proposalId : ProposalId} (awarded : Awarded proposals books requestId proposalId) :
    ∃! proposal, proposal ∈ proposals ∧ proposal.requestId = requestId ∧
      proposal.status = .selected := by
  obtain ⟨proposal, stored, named, ofRequest, _⟩ := awarded.hired
  have status := awarded.statuses proposal stored ofRequest
  rw [if_pos named] at status
  refine ⟨proposal, ⟨stored, ofRequest, status⟩, ?_⟩
  intro other chosen
  obtain ⟨otherStored, otherRequest, otherStatus⟩ := chosen
  have same : other.id = proposalId := by
    by_contra different
    have rejected := awarded.statuses other otherStored otherRequest
    rw [if_neg different, otherStatus] at rejected
    cases rejected
  exact proposals.eq_of_key_eq otherStored stored (same.trans named.symm)

theorem allAgree_of_agreement (agreement : Agreement store) : AllAgree store := by
  intro request member
  cases selection : request.selectedProposalId with
  | none =>
      obtain ⟨notClosed, submitted⟩ := agreement.unselected request member selection
      refine ⟨?_, ?_, ?_⟩
      · rw [selection]
        exact ⟨fun closed => absurd closed notClosed, fun some => (by cases some)⟩
      · rw [selection]
        refine ⟨fun some => (by cases some), fun unique => ?_⟩
        obtain ⟨proposal, ⟨stored, ofRequest, status⟩, _⟩ := unique
        rw [submitted proposal stored ofRequest] at status
        cases status
      · intro proposalId named
        rw [selection] at named
        cases named
  | some chosen =>
      obtain ⟨closed, awarded⟩ := agreement.selected request member chosen selection
      refine ⟨?_, ?_, fun proposalId named => ?_⟩
      · rw [selection]
        exact ⟨fun _ => rfl, fun _ => closed⟩
      · rw [selection]
        exact ⟨fun _ => uniqueSelected awarded, fun _ => rfl⟩
      · exact (agreement.selected request member proposalId named).2

theorem not_closed_of_known (agreement : Agreement store) {requestId : RequestId}
    {request : ServiceRequest} (member : request ∈ store.market.requests)
    (sameId : request.id = requestId) {proposalId : ProposalId}
    (selected : request.selectedProposalId = some proposalId)
    (notClosed : ∀ row ∈ store.market.requests.find? requestId, row.status ≠ .closed) : False := by
  have found : store.market.requests.find? requestId = some request :=
    store.market.requests.find?_eq_some_iff.mpr ⟨member, sameId⟩
  exact notClosed request found (agreement.selected request member proposalId selected).1

/-- The award of a request does not depend on the proposals for others. -/
theorem awarded_of_same {before after : Table Proposal} {books : Books} {requestId : RequestId}
    {proposalId : ProposalId}
    (same : ∀ proposal, proposal.requestId = requestId → (proposal ∈ after ↔ proposal ∈ before))
    (awarded : Awarded before books requestId proposalId) :
    Awarded after books requestId proposalId where
  statuses := fun proposal member ofRequest =>
    awarded.statuses proposal ((same proposal ofRequest).mp member) ofRequest
  hired := by
    obtain ⟨proposal, member, named, ofRequest, hired⟩ := awarded.hired
    exact ⟨proposal, (same proposal ofRequest).mpr member, named, ofRequest, hired⟩

end Invariant

/-! ## Writes to the requests -/

section Requests

variable {store : Store} {market : Marketplace}

/-- Statuses change only between open and expired, and new requests are open. -/
theorem agreement_requests (agreement : Agreement store)
    (proposals : market.proposals = store.market.proposals)
    (present : ∀ requestId, (store.market.requests.find? requestId).isSome = true →
      (market.requests.find? requestId).isSome = true)
    (origin : ∀ request ∈ market.requests,
      (request.status ≠ .closed ∧ request.selectedProposalId = none ∧
        store.market.requests.find? request.id = none) ∨
      ∃ old ∈ store.market.requests, old.id = request.id ∧
        old.selectedProposalId = request.selectedProposalId ∧
          (request.status = .closed ↔ old.status = .closed)) :
    Agreement { store with market := market } where
  unselected := by
    intro request member none
    simp only [proposals]
    rcases origin request member with ⟨notClosed, _, new⟩ | ⟨old, stored, sameId, same, status⟩
    · refine ⟨notClosed, fun proposal offered ofRequest => ?_⟩
      have known := agreement.known proposal offered
      rw [ofRequest, new] at known
      cases known
    · rw [ne_eq, status, ← sameId]
      exact agreement.unselected old stored (same.trans none)
  selected := by
    intro request member proposalId named
    simp only [proposals]
    rcases origin request member with ⟨_, none, _⟩ | ⟨old, stored, sameId, same, status⟩
    · rw [none] at named
      cases named
    · rw [status, ← sameId]
      exact agreement.selected old stored proposalId (same.trans named)
  known := by
    intro proposal member
    simp only [proposals] at member
    exact present proposal.requestId (agreement.known proposal member)
  billed := agreement.billed

theorem agreement_expire (agreement : Agreement store) (requestIds : List RequestId)
    (now : Time) :
    Agreement { store with market := expiredByIds requestIds now store.market } := by
  have evolves := (@keepsSelections_expire store.market requestIds now).evolves
  refine agreement_requests agreement rfl (fun _ => evolves.isSome_find?) ?_
  intro request member
  obtain ⟨old, oldMember, made⟩ := (store.market.requests.mem_updateMany _
    (fun request : ServiceRequest => { request with status := .expired }) fun _ => rfl).mp member
  refine .inr ⟨old, oldMember, ?_⟩
  rw [made]
  split_ifs with expires
  · simp only [Bool.and_eq_true, decide_eq_true_eq] at expires
    simp [expires.2]
  · exact ⟨rfl, rfl, Iff.rfl⟩

theorem agreement_adjust (agreement : Agreement store) (input : Adjustment)
    (read : ServiceRequest) (now : Time) :
    Agreement ((Write.adjust input read now).apply store) := by
  have evolves := (@keepsSelections_adjust store.market input read now).evolves
  refine agreement_requests agreement rfl (fun _ => evolves.isSome_find?) ?_
  intro request member
  obtain ⟨old, oldMember, made⟩ := (store.market.requests.mem_update
    (adjusted input.dto read now) fun _ => rfl).mp member
  refine .inr ⟨old, oldMember, ?_⟩
  rw [made]
  split_ifs <;> exact ⟨rfl, rfl, Iff.rfl⟩

theorem agreement_place (agreement : Agreement store) {make : RequestId → ServiceRequest}
    {keyed : ∀ id, Keyed.key (make id) = id}
    (fresh : ∀ id, (make id).selectedProposalId = none ∧ (make id).status = .open) :
    Agreement
      { store with
        market := { store.market with requests := store.market.requests.insert make keyed } } := by
  have evolves := (@keepsSelections_place store.market make keyed fun id => (fresh id).1).evolves
  refine agreement_requests agreement rfl (fun _ => evolves.isSome_find?) ?_
  intro request member
  rcases (store.market.requests.mem_insert make keyed).mp member with new | old
  · have sameId : (make store.market.requests.nextId).id = store.market.requests.nextId :=
      keyed _
    rw [new]
    refine .inl ⟨?_, (fresh _).1, ?_⟩
    · rw [(fresh _).2]
      decide
    · rw [sameId]
      exact store.market.requests.find?_nextId
  · exact .inr ⟨request, old, rfl, rfl, Iff.rfl⟩

end Requests

/-! ## Writes to the proposals -/

section Proposals

variable {store : Store}

theorem mem_resubmit {proposalId : ProposalId} {dto : SubmitProposalDto} {proposal : Proposal} :
    proposal ∈ ((Write.resubmit proposalId dto).apply store).market.proposals ↔
      ∃ old ∈ store.market.proposals,
        proposal = if old.id = proposalId then resubmitted dto old else old :=
  store.market.proposals.mem_update (resubmitted dto) fun _ => rfl

theorem mem_submit {input : Submission} {proposal : Proposal} :
    proposal ∈ ((Write.submit input).apply store).market.proposals ↔
      proposal = submittedProposal input.requestId input.actorUserId input.dto
          store.market.proposals.nextId ∨ proposal ∈ store.market.proposals :=
  store.market.proposals.mem_insert
    (submittedProposal input.requestId input.actorUserId input.dto) fun _ => rfl

/-- The request of the proposal is not closed. -/
def IsUnclosed (store : Store) (requestId : RequestId) : Prop :=
  ∀ request ∈ store.market.requests.find? requestId, request.status ≠ .closed

/-- A proposal which waits is no part of a closed request. -/
theorem unclosed_of_allAgree (agree : AllAgree store) {proposal : Proposal}
    (member : proposal ∈ store.market.proposals) (waits : proposal.status = .submitted) :
    IsUnclosed store proposal.requestId := by
  intro request found closed
  have stored := store.market.requests.mem_of_find? found
  have sameId : request.id = proposal.requestId := store.market.requests.key_of_find? found
  have agrees := agree request stored
  obtain ⟨chosen, selected⟩ := Option.isSome_iff_exists.mp (agrees.closed_iff.mp closed)
  have status := (agrees.awarded chosen selected).statuses proposal member sameId.symm
  rw [waits] at status
  split_ifs at status

theorem agreement_resubmit (agreement : Agreement store) {proposalId : ProposalId}
    (unclosed : ∀ proposal ∈ store.market.proposals, proposal.id = proposalId →
      IsUnclosed store proposal.requestId) (dto : SubmitProposalDto) :
    Agreement ((Write.resubmit proposalId dto).apply store) where
  unselected := by
    intro request member none
    obtain ⟨notClosed, submitted⟩ := agreement.unselected request member none
    refine ⟨notClosed, fun proposal offered ofRequest => ?_⟩
    obtain ⟨old, stored, made⟩ := mem_resubmit.mp offered
    rw [made] at ofRequest ⊢
    split_ifs with same
    · rfl
    · rw [if_neg same] at ofRequest
      exact submitted old stored ofRequest
  selected := by
    intro request member chosen selected
    obtain ⟨closed, awarded⟩ := agreement.selected request member chosen selected
    refine ⟨closed, awarded_of_same (fun proposal ofRequest => ?_) awarded⟩
    have apart : ∀ old ∈ store.market.proposals, old.requestId = request.id →
        old.id ≠ proposalId := by
      intro old stored sameRequest same
      exact not_closed_of_known agreement member sameRequest.symm selected
        (unclosed old stored same)
    rw [mem_resubmit]
    constructor
    · intro written
      obtain ⟨old, stored, made⟩ := written
      have sameRequest : old.requestId = request.id := by
        rw [← ofRequest, made]
        split_ifs <;> rfl
      rw [if_neg (apart old stored sameRequest)] at made
      exact made ▸ stored
    · intro stored
      exact ⟨proposal, stored, (if_neg (apart proposal stored ofRequest)).symm⟩
  known := by
    intro proposal offered
    obtain ⟨old, stored, made⟩ := mem_resubmit.mp offered
    have sameRequest : proposal.requestId = old.requestId := by
      rw [made]
      split_ifs <;> rfl
    rw [sameRequest]
    exact agreement.known old stored
  billed := agreement.billed

theorem unclosed_of_resubmit {proposalId : ProposalId} {dto : SubmitProposalDto}
    (agree : AllAgree ((Write.resubmit proposalId dto).apply store)) :
    ∀ proposal ∈ store.market.proposals, proposal.id = proposalId →
      IsUnclosed store proposal.requestId := by
  intro proposal stored same
  have written : resubmitted dto proposal ∈
      ((Write.resubmit proposalId dto).apply store).market.proposals :=
    mem_resubmit.mpr ⟨proposal, stored, (if_pos same).symm⟩
  have unclosed := unclosed_of_allAgree agree written rfl
  exact unclosed

theorem agreement_submit (agreement : Agreement store) {input : Submission}
    (present : (store.market.requests.find? input.requestId).isSome = true)
    (unclosed : IsUnclosed store input.requestId) :
    Agreement ((Write.submit input).apply store) where
  unselected := by
    intro request member none
    obtain ⟨notClosed, submitted⟩ := agreement.unselected request member none
    refine ⟨notClosed, fun proposal offered ofRequest => ?_⟩
    rcases mem_submit.mp offered with new | old
    · rw [new]
      rfl
    · exact submitted proposal old ofRequest
  selected := by
    intro request member chosen selected
    obtain ⟨closed, awarded⟩ := agreement.selected request member chosen selected
    refine ⟨closed, awarded_of_same (fun proposal ofRequest => ?_) awarded⟩
    rw [mem_submit]
    refine or_iff_right fun new => ?_
    rw [new] at ofRequest
    exact not_closed_of_known agreement member ofRequest.symm selected unclosed
  known := by
    intro proposal offered
    rcases mem_submit.mp offered with new | old
    · rw [new]
      exact present
    · exact agreement.known proposal old
  billed := agreement.billed

theorem unclosed_of_submit {input : Submission}
    (agree : AllAgree ((Write.submit input).apply store)) :
    IsUnclosed store input.requestId := by
  have written : submittedProposal input.requestId input.actorUserId input.dto
      store.market.proposals.nextId ∈ ((Write.submit input).apply store).market.proposals :=
    mem_submit.mpr (.inl rfl)
  have unclosed := unclosed_of_allAgree agree written rfl
  exact unclosed

end Proposals

/-! ## The write of a selection -/

section Select

variable {store : Store} {input : Selection} {request : ServiceRequest} {terms : SelectionTerms}
  {others : List ProposalId} {now : Time}

/-- What a selection makes of a proposal. -/
def decided (terms : SelectionTerms) (others : List ProposalId) (proposal : Proposal) : Proposal :=
  if proposal.id = terms.proposal.id then { proposal with status := .selected }
  else if others.contains proposal.id then { proposal with status := .rejected }
  else proposal

theorem mem_proposals_select
    (apart : ∀ other ∈ others, other ≠ terms.proposal.id) {proposal : Proposal} :
    proposal ∈ ((Write.select input request terms others now).apply store).market.proposals ↔
      ∃ old ∈ store.market.proposals, proposal = decided terms others old := by
  have both : ∀ old : Proposal,
      (if (if others.contains old.id then { old with status := ProposalStatus.rejected }
            else old).id = terms.proposal.id then
          { (if others.contains old.id then { old with status := ProposalStatus.rejected }
              else old) with status := .selected }
        else if others.contains old.id then { old with status := ProposalStatus.rejected }
          else old) = decided terms others old := by
    intro old
    by_cases other : others.contains old.id = true
    · have different := apart old.id (by simpa using other)
      simp only [other, if_true, decided, if_neg different]
    · simp only [other, decided]
      rfl
  refine (Table.mem_update _ (fun proposal : Proposal => { proposal with status := .selected })
    fun _ => rfl).trans ?_
  constructor
  · intro written
    obtain ⟨middle, middleMember, made⟩ := written
    obtain ⟨old, stored, between⟩ := (store.market.proposals.mem_updateMany _
      (fun proposal : Proposal => { proposal with status := .rejected })
      fun _ => rfl).mp middleMember
    refine ⟨old, stored, ?_⟩
    rw [made, between]
    exact both old
  · intro written
    obtain ⟨old, stored, made⟩ := written
    refine ⟨_, (store.market.proposals.mem_updateMany _
      (fun proposal : Proposal => { proposal with status := .rejected })
      fun _ => rfl).mpr ⟨old, stored, rfl⟩, ?_⟩
    rw [made]
    exact (both old).symm

theorem decided_of_other {proposal : Proposal}
    (fits : FitsTerms store input request terms others)
    (stored : proposal ∈ store.market.proposals) (other : proposal.requestId ≠ request.id) :
    decided terms others proposal = proposal := by
  have apart : ∀ proposalId, Offered store request.id proposalId → proposal.id ≠ proposalId := by
    intro proposalId offered same
    obtain ⟨row, found, ofRequest⟩ := offered
    have sameRow : row = proposal := store.market.proposals.eq_of_key_eq
      (store.market.proposals.mem_of_find? found) stored
      ((store.market.proposals.key_of_find? found).trans same.symm)
    rw [sameRow] at ofRequest
    exact other ofRequest
  have notOther : ¬ others.contains proposal.id = true := by
    intro rejected
    have listed : proposal.id ∈ others := by simpa using rejected
    exact apart proposal.id (fits.others proposal.id listed).2 rfl
  rw [decided, if_neg (apart _ fits.offered), if_neg notOther]

@[simp]
theorem decided_requestId (proposal : Proposal) :
    (decided terms others proposal).requestId = proposal.requestId := by
  unfold decided
  split_ifs <;> rfl

@[simp]
theorem decided_id (proposal : Proposal) : (decided terms others proposal).id = proposal.id := by
  unfold decided
  split_ifs <;> rfl

@[simp]
theorem decided_price (proposal : Proposal) :
    (decided terms others proposal).price = proposal.price := by
  unfold decided
  split_ifs <;> rfl

/-- What the checks of the selection still have to find. -/
def IsCurrent (store : Store) (request : ServiceRequest) (terms : SelectionTerms)
    (others : List ProposalId) : Prop :=
  ∀ proposal ∈ store.market.proposals,
    (proposal.id = terms.proposal.id → proposal.price = terms.proposal.price) ∧
    (proposal.requestId = request.id → proposal.id ≠ terms.proposal.id → proposal.id ∈ others)

/-- The new job and its intent do not touch the jobs of other requests. -/
theorem hired_select_of_other {proposal : Proposal} {job : Job}
    (stored : job ∈ store.jobs) (other : proposal.requestId ≠ request.id)
    (hired : Hired store.toBooks proposal job) :
    Hired ((Write.select input request terms others now).apply store).toBooks proposal job where
  ofRequest := hired.ofRequest
  only := by
    intro candidate member names
    rcases mem_jobs_select.mp member with new | old
    · rw [new] at names
      exact absurd (Option.some.inj names).symm other
    · exact hired.only candidate old names
  ofProposal := hired.ofProposal
  price := hired.price
  deposit := by
    obtain ⟨intent, billed, ofJob⟩ := hired.deposit
    exact ⟨intent, mem_intents_select.mpr (.inr billed), ofJob⟩
  quotes := by
    intro intent member ofJob
    rcases mem_intents_select.mp member with new | old
    · rw [new] at ofJob
      have older := store.jobs.key_lt_nextId stored
      have sameId : store.jobs.nextId = job.id := ofJob
      have key : Keyed.key job = job.id := rfl
      omega
    · exact hired.quotes intent old ofJob

theorem awarded_select_of_other {requestId : RequestId} {proposalId : ProposalId}
    (fits : FitsTerms store input request terms others) (other : requestId ≠ request.id)
    (awarded : Awarded store.market.proposals store.toBooks requestId proposalId) :
    Awarded ((Write.select input request terms others now).apply store).market.proposals
      ((Write.select input request terms others now).apply store).toBooks requestId
      proposalId where
  statuses := by
    intro proposal member ofRequest
    obtain ⟨old, stored, made⟩ :=
      (mem_proposals_select fun id listed => (fits.others id listed).1).mp member
    rw [made, decided_requestId] at ofRequest
    rw [made, decided_of_other fits stored (ofRequest ▸ other)]
    exact awarded.statuses old stored ofRequest
  hired := by
    obtain ⟨proposal, stored, named, ofRequest, job, jobStored, hired⟩ := awarded.hired
    have different : proposal.requestId ≠ request.id := ofRequest ▸ other
    refine ⟨proposal, ?_, named, ofRequest, job, mem_jobs_select.mpr (.inr jobStored),
      hired_select_of_other jobStored different hired⟩
    exact (mem_proposals_select fun id listed => (fits.others id listed).1).mpr
      ⟨proposal, stored, (decided_of_other fits stored different).symm⟩

theorem awarded_select (agreement : Agreement store)
    (admitted : store.admitsJob request.id terms.proposal.id = true)
    (fits : FitsTerms store input request terms others)
    (current : IsCurrent store request terms others) :
    Awarded ((Write.select input request terms others now).apply store).market.proposals
      ((Write.select input request terms others now).apply store).toBooks request.id
      terms.proposal.id where
  statuses := by
    intro proposal member ofRequest
    obtain ⟨old, stored, made⟩ :=
      (mem_proposals_select fun id listed => (fits.others id listed).1).mp member
    rw [made, decided_requestId] at ofRequest
    rw [made, decided_id]
    by_cases chosen : old.id = terms.proposal.id
    · rw [decided, if_pos chosen, if_pos chosen]
    · have listed := (current old stored).2 ofRequest chosen
      rw [decided, if_neg chosen, if_neg chosen, if_pos (by simpa using listed)]
  hired := by
    obtain ⟨row, found, ofRequest⟩ := fits.offered
    have stored := store.market.proposals.mem_of_find? found
    have sameId : row.id = terms.proposal.id := store.market.proposals.key_of_find? found
    have price := (current row stored).1 sameId
    refine ⟨decided terms others row, ?_, ?_, ?_, _, mem_jobs_select.mpr (.inl rfl), ?_⟩
    · exact (mem_proposals_select fun id listed => (fits.others id listed).1).mpr
        ⟨row, stored, rfl⟩
    · rw [decided_id, sameId]
    · rw [decided_requestId, ofRequest]
    · constructor
      · rw [decided_requestId, ofRequest]
        rfl
      · intro candidate member names
        rcases mem_jobs_select.mp member with new | old
        · exact new
        · rw [decided_requestId, ofRequest] at names
          exact absurd names (admitsJob_iff.mp admitted candidate old).1
      · rw [decided_id, sameId]
        rfl
      · rw [decided_price, price]
        rfl
      · exact ⟨_, mem_intents_select.mpr (.inl rfl), rfl⟩
      · intro intent member ofJob
        rcases mem_intents_select.mp member with new | old
        · rw [new, decided_price, price]
          rfl
        · have known := agreement.billed intent old
          have sameJob : intent.jobId = store.jobs.nextId := ofJob
          rw [sameJob, store.jobs.find?_nextId] at known
          cases known

theorem agreement_select (agreement : Agreement store)
    (admitted : store.admitsJob request.id terms.proposal.id = true)
    (fits : FitsTerms store input request terms others)
    (current : IsCurrent store request terms others) :
    Agreement ((Write.select input request terms others now).apply store) where
  unselected := by
    intro row member none
    obtain ⟨old, stored, made⟩ := mem_requests_select.mp member
    by_cases same : old.id = request.id
    · rw [made, if_pos same] at none
      cases none
    · rw [if_neg same] at made
      rw [made] at none ⊢
      obtain ⟨notClosed, submitted⟩ := agreement.unselected old stored none
      refine ⟨notClosed, fun proposal offered ofRequest => ?_⟩
      obtain ⟨before, beforeStored, decision⟩ :=
        (mem_proposals_select fun id listed => (fits.others id listed).1).mp offered
      rw [decision, decided_requestId] at ofRequest
      rw [decision, decided_of_other fits beforeStored (ofRequest ▸ same)]
      exact submitted before beforeStored ofRequest
  selected := by
    intro row member chosen selected
    obtain ⟨old, stored, made⟩ := mem_requests_select.mp member
    by_cases same : old.id = request.id
    · rw [if_pos same] at made
      rw [made] at selected ⊢
      have sameProposal : terms.proposal.id = chosen := Option.some.inj selected
      refine ⟨rfl, ?_⟩
      have awarded := @awarded_select store input request terms others now agreement admitted
        fits current
      rw [← sameProposal]
      exact same.symm ▸ awarded
    · rw [if_neg same] at made
      rw [made] at selected ⊢
      obtain ⟨closed, awarded⟩ := agreement.selected old stored chosen selected
      exact ⟨closed, awarded_select_of_other fits same awarded⟩
  known := by
    intro proposal member
    obtain ⟨old, stored, made⟩ :=
      (mem_proposals_select fun id listed => (fits.others id listed).1).mp member
    have known := agreement.known old stored
    rw [made, decided_requestId, find?_select]
    split_ifs
    · rw [Option.isSome_map]
      exact known
    · exact known
  billed := by
    intro intent member
    rcases mem_intents_select.mp member with new | old
    · rw [new]
      have created := store.jobs.find?_insert_nextId
        (selectedJob request terms input.actorUserId) fun _ => rfl
      exact Option.isSome_iff_exists.mpr ⟨_, created⟩
    · obtain ⟨job, found⟩ := Option.isSome_iff_exists.mp (agreement.billed intent old)
      have still := store.jobs.find?_insert_of_some
        (selectedJob request terms input.actorUserId) (fun _ => rfl) found
      exact Option.isSome_iff_exists.mpr ⟨job, still⟩

/-- If the tables agree after the selection, nothing had changed before it. -/
theorem current_of_select (agreement : Agreement store)
    (vacant : ∀ row ∈ store.market.requests.find? request.id, row.selectedProposalId = none)
    (fits : FitsTerms store input request terms others)
    (agree : AllAgree ((Write.select input request terms others now).apply store)) :
    IsCurrent store request terms others := by
  obtain ⟨row, found, _⟩ := fits.known
  have stored := store.market.requests.mem_of_find? found
  have sameId : row.id = request.id := store.market.requests.key_of_find? found
  have written : { row with status := .closed, selectedProposalId := some terms.proposal.id } ∈
      ((Write.select input request terms others now).apply store).market.requests :=
    mem_requests_select.mpr ⟨row, stored, (if_pos sameId).symm⟩
  have awarded := (agree _ written).awarded terms.proposal.id rfl
  simp only [sameId] at awarded
  intro proposal member
  have decision : decided terms others proposal ∈
      ((Write.select input request terms others now).apply store).market.proposals :=
    (mem_proposals_select fun id listed => (fits.others id listed).1).mpr ⟨proposal, member, rfl⟩
  constructor
  · intro chosen
    obtain ⟨selected, selectedStored, named, ofRequest, job, _, hired⟩ := awarded.hired
    have sameProposal : selected = decided terms others proposal := by
      refine Table.eq_of_key_eq _ selectedStored decision ?_
      exact named.trans (chosen.symm.trans (decided_id proposal).symm)
    have newJob := hired.only _ (mem_jobs_select.mpr (.inl rfl)) (congrArg some ofRequest.symm)
    have price := hired.price
    rw [← newJob, sameProposal, decided_price] at price
    exact (Option.some.inj price).symm
  · intro ofRequest different
    by_contra unlisted
    have unchanged : decided terms others proposal = proposal := by
      rw [decided, if_neg different, if_neg (by simpa using unlisted)]
    rw [unchanged] at decision
    have rejected := awarded.statuses proposal decision ofRequest
    rw [if_neg different] at rejected
    have submitted := (agreement.unselected row stored (vacant row found)).2 proposal member
      (ofRequest.trans sameId.symm)
    rw [rejected] at submitted
    cases submitted

end Select

/-! ## Statements -/

def Write.FindsUnchanged (store : Store) : Write → Prop
  | .resubmit proposalId _ => ∀ proposal ∈ store.market.proposals, proposal.id = proposalId →
      IsUnclosed store proposal.requestId
  | .submit input => IsUnclosed store input.requestId
  | .select _ request terms others _ => IsCurrent store request terms others
  | _ => True

section Statements

variable {bidding : Bidding} {now : Time}

theorem agreement_write {store : Store} (agreement : Agreement store) {write : Write}
    (admitted : write.Admitted store) (unchanged : write.FindsUnchanged store) :
    Agreement (write.apply store) := by
  cases write with
  | nothing => exact agreement
  | expire requestIds now => exact agreement_expire agreement requestIds now
  | resubmit proposalId dto => exact agreement_resubmit agreement unchanged dto
  | submit input => exact agreement_submit agreement admitted unchanged
  | adjust input request now => exact agreement_adjust agreement input request now
  | invite invitations =>
      exact ⟨agreement.unselected, agreement.selected, agreement.known, agreement.billed⟩
  | select input request terms others now =>
      exact agreement_select agreement admitted.1 admitted.2 unchanged

theorem unchanged_of_allAgree {store : Store} (linked : Linked store)
    (agreement : Agreement store) {write : Write} (admitted : write.Admitted store)
    (agree : AllAgree (write.apply store)) : write.FindsUnchanged store := by
  cases write with
  | resubmit proposalId dto => exact unclosed_of_resubmit agree
  | submit input => exact unclosed_of_submit agree
  | select input request terms others now =>
      have vacant : ∀ row ∈ store.market.requests.find? request.id,
          row.selectedProposalId = none :=
        fun row found => vacant_of_admitsJob linked admitted.1 found
      exact current_of_select agreement vacant admitted.2 agree
  | _ => trivial

theorem unchanged_of_plain {store : Store} {write : Write} (plain : write.IsPlain) :
    write.FindsUnchanged store := by
  cases write with
  | resubmit proposalId dto => exact plain.elim
  | submit input => exact plain.elim
  | select input request terms others now => exact plain.elim
  | _ => trivial

theorem unchanged_of_quiet {call : Call} (quiet : ¬ call.IsDeciding) :
    call.FindsUnchanged bidding := by
  cases call with
  | submitProposal input progress =>
      cases progress with
      | running phase =>
          cases phase with
          | rewriting proposal => exact absurd trivial quiet
          | creating => exact absurd trivial quiet
          | _ => trivial
      | _ => trivial
  | selectProposal input progress =>
      cases progress with
      | running phase =>
          cases phase with
          | closed request terms others => exact absurd trivial quiet
          | _ => trivial
      | _ => trivial
  | _ => trivial

/-- The proposal which is rewritten still is a proposal for the request. -/
theorem resubmission_unchanged_iff {input : Submission} {proposal : Proposal}
    (fits : (Call.submitProposal input (.running (.rewriting proposal))).Fits bidding.store) :
    (Write.resubmit proposal.id input.dto).FindsUnchanged bidding.store ↔
      IsUnclosed bidding.store input.requestId := by
  obtain ⟨row, found, ofRequest⟩ := fits
  have stored := bidding.store.market.proposals.mem_of_find? found
  have sameId : row.id = proposal.id := bidding.store.market.proposals.key_of_find? found
  constructor
  · intro unclosed
    have here := unclosed row stored sameId
    rw [ofRequest] at here
    exact here
  · intro unclosed other otherStored same
    have sameRow : other = row := bidding.store.market.proposals.eq_of_key_eq otherStored
      stored (same.trans sameId.symm)
    rw [sameRow, ofRequest]
    exact unclosed

theorem unchanged_iff_of_writes {call : Call} {write : Write} (fits : call.Fits bidding.store)
    (writes : Writes bidding now call write) :
    write.FindsUnchanged bidding.store ↔ call.FindsUnchanged bidding := by
  cases writes with
  | waiting locked =>
      refine iff_of_true trivial fun unlocked => ?_
      rw [locked] at unlocked
      cases unlocked
  | resubmission unlocked =>
      rw [resubmission_unchanged_iff fits]
      exact ⟨fun unclosed _ => unclosed, fun unclosed => unclosed unlocked⟩
  | refusal refused =>
      refine iff_of_true trivial fun passed => ?_
      rw [refused] at passed
      cases passed
  | submission passed =>
      exact ⟨fun unclosed _ => unclosed, fun unclosed => unclosed passed⟩
  | duplicate taken =>
      refine iff_of_true trivial fun vacant => ?_
      rw [taken] at vacant
      cases vacant
  | selection vacant =>
      exact ⟨fun current _ => current, fun current => current vacant⟩
  | plain quiet plain =>
      exact iff_of_true (unchanged_of_plain plain) (unchanged_of_quiet quiet)

theorem call_unchanged_iff {call : Call} (fits : call.Fits bidding.store) :
    (call.next bidding now).2.FindsUnchanged bidding.store ↔ call.FindsUnchanged bidding :=
  unchanged_iff_of_writes fits (call_writes fits)

end Statements

/-! ## Every run -/

section Steps

variable {bidding : Bidding}

theorem unchanged_advance {number : Nat} {now : Time} {call : Call}
    (found : bidding.calls[number]? = some call) :
    FindsUnchanged bidding (.advance number now) ↔ call.FindsUnchanged bidding := by
  constructor
  · exact fun unchanged => unchanged call found
  · intro unchanged other foundOther
    rw [found, Option.some.injEq] at foundOther
    exact foundOther ▸ unchanged

theorem agreement_perform (sound : Sound bidding) (agreement : Agreement bidding.store)
    {step : BiddingStep} (unchanged : FindsUnchanged bidding step) :
    Agreement (step.perform bidding).store := by
  cases step with
  | advance number now =>
      cases found : bidding.calls[number]? with
      | none =>
          simp only [BiddingStep.perform, Bidding.advance, found]
          exact agreement
      | some call =>
          have fits := sound.calls call (List.mem_of_getElem? found)
          have finds := (unchanged_advance found).mp unchanged
          simp only [BiddingStep.perform, advance_of_found found]
          exact agreement_write agreement (call_write fits) ((call_unchanged_iff fits).mpr finds)
  | create expiryHours actorUserId dto now =>
      simp only [BiddingStep.perform]
      rcases create_state bidding.store expiryHours actorUserId dto now with
        same | ⟨make, keyed, fresh, made⟩
      · rw [same]
        exact agreement
      · rw [made]
        exact agreement_place agreement fresh
  | others users categories workerProfiles =>
      exact ⟨agreement.unselected, agreement.selected, agreement.known, agreement.billed⟩
  | _ => exact agreement

theorem allAgree_perform (sound : Sound bidding) (agreement : Agreement bidding.store)
    (step : BiddingStep) :
    AllAgree (step.perform bidding).store ↔ FindsUnchanged bidding step := by
  constructor
  · intro agree
    cases step with
    | advance number now =>
        intro call found
        have fits := sound.calls call (List.mem_of_getElem? found)
        simp only [BiddingStep.perform, advance_of_found found] at agree
        have written := unchanged_of_allAgree sound.linked agreement (call_write fits) agree
        exact (call_unchanged_iff fits).mp written
    | _ => trivial
  · intro unchanged
    exact allAgree_of_agreement (agreement_perform sound agreement unchanged)

theorem initial_agreement : Agreement Bidding.initial.store where
  unselected := fun request member => absurd member (Table.not_mem_empty request)
  selected := fun request member => absurd member (Table.not_mem_empty request)
  known := fun proposal member => absurd member (Table.not_mem_empty proposal)
  billed := fun intent member => absurd member (Table.not_mem_empty intent)

/-- In a run requests, proposals, jobs and intents agree after every step exactly if every
statement that writes finds what the checks before it have found. -/
theorem tables_agree_iff (steps : List BiddingStep) :
    negotiating.Along (fun bidding step => AllAgree (negotiating.step bidding step).store)
        .initial steps ↔
      negotiating.Along FindsUnchanged .initial steps := by
  refine @Machine.along_iff_along _ _ negotiating
    (fun bidding => Sound bidding ∧ Agreement bidding.store) _ _ ?_ ?_ _ ?_ steps
  · exact fun bidding step both => allAgree_perform both.1 both.2 step
  · intro bidding step both unchanged
    exact ⟨sound_perform both.1 step, agreement_perform both.1 both.2 unchanged⟩
  · exact ⟨initial_sound, initial_agreement⟩

end Steps

/-! ## A price which rises while the proposal is selected -/

section Sample

/-- Worker 1 raises the price after the client's call has read it. -/
def sampleRise : List BiddingStep :=
  [.others .empty sampleCategories sampleMarketplace.workerProfiles,
    .create none 0 ⟨0, "Paint a wall", "One wall", none⟩ 0,
    .submitProposal ⟨0, 1, sampleOffer⟩,
    .submitProposal ⟨0, 1, sampleDearOffer⟩,
    .selectProposal ⟨samplePolicy, 0, 0, 0, none⟩] ++
  List.replicate 5 (.advance 0 1) ++ List.replicate 5 (.advance 2 2) ++
    List.replicate 5 (.advance 1 3) ++ List.replicate 6 (.advance 2 4)

/-- The job is made for 1000, the selected proposal says 2000. -/
theorem price_rises : ¬ AllAgree (negotiating.run .initial sampleRise).store := by
  intro agree
  have selected : ((negotiating.run .initial sampleRise).store.market.requests.find? 0).map
      ServiceRequest.selectedProposalId = some (some 0) := by
    decide +kernel
  have prices : (negotiating.run .initial sampleRise).store.market.proposals.rows.map
      Proposal.price = [2000] := by
    decide +kernel
  have jobs : (negotiating.run .initial sampleRise).store.jobs.rows.map Job.agreedPrice =
      [some 1000] := by
    decide +kernel
  obtain ⟨request, found, chosen⟩ := Option.map_eq_some_iff.mp selected
  have stored := Table.mem_of_find? _ found
  obtain ⟨proposal, offered, _, _, job, hiredFor, hired⟩ :=
    ((agree request stored).awarded 0 chosen).hired
  have price : proposal.price ∈ [2000] := prices ▸ List.mem_map_of_mem offered
  have agreed : job.agreedPrice ∈ [some (1000 : Int)] := jobs ▸ List.mem_map_of_mem hiredFor
  rw [List.mem_singleton] at price agreed
  have same := hired.price
  rw [price, agreed] at same
  cases same

end Sample

end Tchuno.Requests
