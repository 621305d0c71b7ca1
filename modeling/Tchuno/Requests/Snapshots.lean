import Tchuno.Requests.Bidding
import Tchuno.Requests.Invitations

/-!
# What a call has read stays true

Requests, proposals and jobs stay, a selection is for good, and a job which was found is the
job of its request.  So what a call has read before its last statement still says something
about the database.
-/

namespace Tchuno.Requests

open Tchuno.Library Tchuno.Library.Ecma Tchuno.Payments

/-! ## Snapshots -/

section Snapshots

variable (store : Store)

/-- The request is there, and its selection, if it had one. -/
def Known (request : ServiceRequest) : Prop :=
  ∃ row, store.market.requests.find? request.id = some row ∧
    ∀ proposalId ∈ request.selectedProposalId, row.selectedProposalId = some proposalId

def Offered (requestId : RequestId) (proposalId : ProposalId) : Prop :=
  ∃ row, store.market.proposals.find? proposalId = some row ∧ row.requestId = requestId

def Employs (requestId : RequestId) (job : Job) : Prop :=
  job ∈ store.jobs ∧ job.requestId = some requestId

/-- The terms are for a proposal for the request, and the others are other ones for it. -/
structure FitsTerms (input : Selection) (request : ServiceRequest) (terms : SelectionTerms)
    (others : List ProposalId) : Prop where
  known : Known store request
  owned : request.id = input.requestId
  named : terms.proposal.id = input.proposalId
  offered : Offered store request.id terms.proposal.id
  others : ∀ other ∈ others, other ≠ terms.proposal.id ∧ Offered store request.id other

def SelectionPhase.Fits (input : Selection) : SelectionPhase → Prop
  | .called => True
  | .owned request => Known store request ∧ request.id = input.requestId
  | .joined request requestJob =>
      Known store request ∧ request.id = input.requestId ∧
        ∀ job ∈ requestJob, Employs store request.id job
  | .expiring _ => True
  | .selectable request => Known store request ∧ request.id = input.requestId
  | .offered request proposal =>
      Known store request ∧ request.id = input.requestId ∧ proposal.id = input.proposalId ∧
        Offered store request.id proposal.id
  | .agreed request terms => FitsTerms store input request terms []
  | .repeating request terms job =>
      FitsTerms store input request terms [] ∧ Employs store request.id job
  | .replying request reply =>
      request.id = input.requestId ∧ reply.selectedProposalId = input.proposalId ∧
        Employs store input.requestId reply.job ∧
          ∃ intent, reply.paymentIntent = some intent ∧ intent.jobId = reply.job.id
  | .unemployed request terms => FitsTerms store input request terms []
  | .rejecting request terms others => FitsTerms store input request terms others
  | .rejected request terms others => FitsTerms store input request terms others
  | .selected request terms others => FitsTerms store input request terms others
  | .closed request terms others => FitsTerms store input request terms others

def Call.Fits : Call → Prop
  | .submitProposal input (.running (.rewriting proposal)) =>
      Offered store input.requestId proposal.id
  | .selectProposal input (.running phase) => phase.Fits store input
  | _ => True

end Snapshots

/-- Nothing is deleted, no selection is taken back and no job changes. -/
structure Later (before after : Store) : Prop where
  requests : ∀ requestId row, before.market.requests.find? requestId = some row →
    ∃ later, after.market.requests.find? requestId = some later ∧
      ∀ proposalId ∈ row.selectedProposalId, later.selectedProposalId = some proposalId
  proposals : Table.Evolves pair before.market.proposals after.market.proposals
  jobs : ∀ job ∈ before.jobs, job ∈ after.jobs

section Later

variable {before after : Store}

theorem known_later (later : Later before after) {request : ServiceRequest}
    (known : Known before request) : Known after request := by
  obtain ⟨row, found, selection⟩ := known
  obtain ⟨next, foundNext, kept⟩ := later.requests _ row found
  exact ⟨next, foundNext, fun proposalId named => kept proposalId (selection proposalId named)⟩

theorem offered_later (later : Later before after) {requestId : RequestId}
    {proposalId : ProposalId} (offered : Offered before requestId proposalId) :
    Offered after requestId proposalId := by
  obtain ⟨row, found, names⟩ := offered
  obtain ⟨next, foundNext, same⟩ := later.proposals proposalId row found
  simp only [pair, Prod.mk.injEq] at same
  exact ⟨next, foundNext, same.1.trans names⟩

theorem employs_later (later : Later before after) {requestId : RequestId} {job : Job}
    (employs : Employs before requestId job) : Employs after requestId job :=
  ⟨later.jobs job employs.1, employs.2⟩

theorem fitsTerms_later (later : Later before after) {input : Selection}
    {request : ServiceRequest} {terms : SelectionTerms} {others : List ProposalId}
    (fits : FitsTerms before input request terms others) :
    FitsTerms after input request terms others where
  known := known_later later fits.known
  owned := fits.owned
  named := fits.named
  offered := offered_later later fits.offered
  others := fun other member =>
    ⟨(fits.others other member).1, offered_later later (fits.others other member).2⟩

theorem phase_fits_later (later : Later before after) {input : Selection}
    {phase : SelectionPhase} (fits : phase.Fits before input) : phase.Fits after input := by
  cases phase with
  | called => trivial
  | owned request => exact ⟨known_later later fits.1, fits.2⟩
  | joined request requestJob =>
      exact ⟨known_later later fits.1, fits.2.1,
        fun job named => employs_later later (fits.2.2 job named)⟩
  | expiring request => trivial
  | selectable request => exact ⟨known_later later fits.1, fits.2⟩
  | offered request proposal =>
      exact ⟨known_later later fits.1, fits.2.1, fits.2.2.1, offered_later later fits.2.2.2⟩
  | agreed request terms => exact fitsTerms_later later fits
  | repeating request terms job =>
      exact ⟨fitsTerms_later later fits.1, employs_later later fits.2⟩
  | replying request reply =>
      exact ⟨fits.1, fits.2.1, employs_later later fits.2.2.1, fits.2.2.2⟩
  | unemployed request terms => exact fitsTerms_later later fits
  | rejecting request terms others => exact fitsTerms_later later fits
  | rejected request terms others => exact fitsTerms_later later fits
  | selected request terms others => exact fitsTerms_later later fits
  | closed request terms others => exact fitsTerms_later later fits

theorem call_fits_later (later : Later before after) {call : Call} (fits : call.Fits before) :
    call.Fits after := by
  cases call with
  | submitProposal input progress =>
      cases progress with
      | running phase =>
          cases phase with
          | rewriting proposal => exact offered_later later fits
          | _ => trivial
      | _ => trivial
  | selectProposal input progress =>
      cases progress with
      | running phase => exact phase_fits_later later fits
      | _ => trivial
  | _ => trivial

end Later

/-! ## Requests and their jobs -/

/-- Every job is that of the selection of its request and has an intent, and every selection
has a job. -/
structure Linked (store : Store) : Prop where
  request : ∀ job ∈ store.jobs, ∀ requestId ∈ job.requestId, ∃ request,
    store.market.requests.find? requestId = some request ∧
      request.selectedProposalId = job.proposalId ∧ job.proposalId.isSome = true
  job : ∀ request ∈ store.market.requests, ∀ proposalId ∈ request.selectedProposalId,
    ∃ job ∈ store.jobs, job.requestId = some request.id ∧ job.proposalId = some proposalId
  billed : ∀ job ∈ store.jobs, ∃ intent ∈ store.intents, intent.jobId = job.id

theorem newestIntent?_of_linked {store : Store} (linked : Linked store) {job : Job}
    (stored : job ∈ store.jobs) :
    ∃ intent, store.newestIntent? job.id = some intent ∧ intent.jobId = job.id := by
  obtain ⟨bill, billed, ofJob⟩ := linked.billed job stored
  cases newest : store.newestIntent? job.id with
  | none =>
      have unbilled := store.intents.findFirst?_eq_none_iff.mp newest bill billed
      exact absurd ofJob (by simpa using unbilled)
  | some intent =>
      exact ⟨intent, rfl, of_decide_eq_true (store.intents.mem_of_findFirst? newest).2⟩

/-! ## Statements -/

section Statements

variable {bidding : Bidding} {now : Time}

theorem known_of_find? {store : Store} {requestId : RequestId} {request : ServiceRequest}
    (found : store.market.requests.find? requestId = some request) : Known store request :=
  ⟨request, store.market.requests.find?_key found, fun _ named => named⟩

section Decisions

variable {input : Selection} {request : ServiceRequest} {requestJob : Option Job}
  {newest : Option PaymentIntent}

theorem decide_eq_running {after : SelectionPhase}
    (decided : input.decide request requestJob newest = .running after) :
    after = .selectable request := by
  unfold Selection.decide at decided
  cases selected : request.selectedProposalId <;> cases requestJob <;>
    simp only [selected] at decided <;> split_ifs at decided <;> cases decided <;> rfl

theorem decide_eq_returned {reply : SelectionReply}
    (decided : input.decide request requestJob newest = .returned reply) :
    ∃ job, request.selectedProposalId = some input.proposalId ∧ requestJob = some job ∧
      reply = ⟨input.proposalId, job, newest, true⟩ := by
  unfold Selection.decide at decided
  cases selected : request.selectedProposalId with
  | none =>
      simp only [selected] at decided
      split_ifs at decided
  | some proposalId =>
      cases requestJob with
      | none =>
          simp only [selected] at decided
          split_ifs at decided
      | some job =>
          simp only [selected, reduceCtorEq, false_or] at decided
          split_ifs at decided with same
          cases decided
          exact ⟨job, same, rfl, rfl⟩

end Decisions

/-- What is read next fits as well. -/
theorem selection_fits_next (linked : Linked bidding.store) {input : Selection}
    {phase after : SelectionPhase} {write : Write} (fits : phase.Fits bidding.store input)
    (made : input.next bidding now phase = (.running after, write)) :
    after.Fits bidding.store input := by
  cases phase with
  | called =>
      simp only [Selection.next] at made
      cases gate : ownedRequestGate input.requestId input.actorUserId bidding.store with
      | error error =>
          rw [gate] at made
          cases made
      | ok request =>
          rw [gate] at made
          cases made
          have found := (ownedRequestGate_eq_ok gate).1
          exact ⟨known_of_find? found, bidding.store.market.requests.key_of_find? found⟩
  | owned request =>
      cases made
      refine ⟨fits.1, fits.2, fun job found => ?_⟩
      exact jobOfRequest?_eq_some found
  | joined request requestJob =>
      simp only [Selection.next] at made
      split_ifs at made
      · cases made
        trivial
      · rw [Prod.mk.injEq] at made
        rw [decide_eq_running made.1]
        exact ⟨fits.1, fits.2.1⟩
  | expiring request =>
      simp only [Selection.next, expireOrWait] at made
      split_ifs at made
      · cases made
        trivial
      · cases made
  | selectable request =>
      simp only [Selection.next] at made
      cases gate : offerGate request input.proposalId bidding.store with
      | error error =>
          rw [gate] at made
          cases made
      | ok proposal =>
          rw [gate] at made
          cases made
          simp only [offerGate, gate_bind_eq_ok, orThrow_eq_ok, guardThat_eq_ok, gate_pure_eq_ok,
            Option.filter_eq_some_iff, decide_eq_true_eq] at gate
          obtain ⟨row, ⟨found, names⟩, _, _, same⟩ := gate
          rw [← same]
          have sameId : row.id = input.proposalId :=
            bidding.store.market.proposals.key_of_find? found
          exact ⟨fits.1, fits.2, sameId, row, bidding.store.market.proposals.find?_key found,
            names⟩
  | offered request proposal =>
      simp only [Selection.next] at made
      cases gate : input.termsGate proposal bidding.store with
      | error error =>
          rw [gate] at made
          cases made
      | ok terms =>
          rw [gate] at made
          cases made
          simp only [Selection.termsGate, gate_bind_eq_ok, gate_pure_eq_ok] at gate
          obtain ⟨profile, _, _, _, split, _, same⟩ := gate
          rw [← same]
          exact ⟨fits.1, fits.2.1, fits.2.2.1, fits.2.2.2,
            fun other member => absurd member List.not_mem_nil⟩
  | agreed request terms =>
      simp only [Selection.next] at made
      cases found : bidding.store.jobOfRequest? request.id with
      | some job =>
          rw [found] at made
          cases made
          exact ⟨fits, jobOfRequest?_eq_some found⟩
      | none =>
          rw [found] at made
          cases made
          exact fits
  | repeating request terms job =>
      cases made
      exact ⟨fits.1.owned, fits.1.named, fits.1.owned ▸ fits.2,
        newestIntent?_of_linked linked fits.2.1⟩
  | replying request reply =>
      cases made
  | unemployed request terms =>
      cases made
      refine ⟨fits.known, fits.owned, fits.named, fits.offered, fun other member => ?_⟩
      obtain ⟨proposal, found, same⟩ := List.mem_map.mp member
      obtain ⟨stored, chosen⟩ := List.mem_filter.mp found
      simp only [Bool.and_eq_true, decide_eq_true_eq] at chosen
      rw [← same]
      refine ⟨chosen.2, proposal, ?_, chosen.1⟩
      exact bidding.store.market.proposals.find?_eq_some_iff.mpr ⟨stored, rfl⟩
  | rejecting request terms others =>
      simp only [Selection.next] at made
      split_ifs at made <;> cases made <;> exact fits
  | rejected request terms others =>
      simp only [Selection.next] at made
      split_ifs at made <;> cases made <;> exact fits
  | selected request terms others =>
      simp only [Selection.next] at made
      split_ifs at made <;> cases made <;> exact fits
  | closed request terms others =>
      simp only [Selection.next] at made
      split_ifs at made <;> cases made

theorem submission_fits_next {input : Submission} {phase after : SubmissionPhase}
    {write : Write} (fits : (Call.submitProposal input (.running phase)).Fits bidding.store)
    (made : input.next bidding now phase = (.running after, write)) :
    (Call.submitProposal input (.running after)).Fits bidding.store := by
  cases after with
  | rewriting proposal =>
      cases phase with
      | called =>
          simp only [Submission.next] at made
          split at made
          · cases made
          · split_ifs at made
            · cases made
            · rw [Prod.mk.injEq] at made
              cases checked : submissionCheck input.dto _ <;> rw [checked] at made <;>
                cases made.1
      | expiring requestId =>
          simp only [Submission.next, expireOrWait] at made
          split_ifs at made <;> cases made
      | permitted =>
          simp only [Submission.next] at made
          cases found : proposalOf? input.requestId input.actorUserId bidding.store.market with
          | none =>
              rw [found] at made
              cases made
          | some row =>
              rw [found] at made
              cases made
              obtain ⟨member, names, _⟩ := proposalOf?_eq_some found
              refine ⟨proposal, ?_, names⟩
              exact bidding.store.market.proposals.find?_eq_some_iff.mpr ⟨member, rfl⟩
      | rewriting row =>
          simp only [Submission.next] at made
          split_ifs at made
          · cases made
            exact fits
          · split at made <;> cases made
      | creating =>
          simp only [Submission.next] at made
          split at made <;> cases made
      | written row =>
          cases made
      | opened row =>
          cases made
  | _ => trivial

theorem call_fits_next (linked : Linked bidding.store) {call : Call}
    (fits : call.Fits bidding.store) :
    (call.next bidding now).1.Fits bidding.store := by
  cases call with
  | submitProposal input progress =>
      cases progress with
      | running phase =>
          cases made : input.next bidding now phase with
          | mk next write =>
              simp only [Call.next, made]
              cases next with
              | running after => exact submission_fits_next fits made
              | _ => trivial
      | _ => trivial
  | selectProposal input progress =>
      cases progress with
      | running phase =>
          cases made : input.next bidding now phase with
          | mk next write =>
              simp only [Call.next, made]
              cases next with
              | running after => exact selection_fits_next linked fits made
              | _ => trivial
      | _ => trivial
  | update input progress =>
      cases progress <;> trivial
  | expireStaleOpenRequests progress =>
      cases progress <;> trivial

/-- What was checked before a write. -/
def Write.Admitted (store : Store) : Write → Prop
  | .submit input => (store.market.requests.find? input.requestId).isSome = true
  | .select input request terms others _ =>
      store.admitsJob request.id terms.proposal.id = true ∧
        FitsTerms store input request terms others
  | _ => True

/-- The writes before which nothing is checked. -/
def Write.IsPlain : Write → Prop
  | .resubmit _ _ => False
  | .submit _ => False
  | .select _ _ _ _ _ => False
  | _ => True

/-- The next statement of the call checks something and writes. -/
def Call.IsDeciding : Call → Prop
  | .submitProposal _ (.running (.rewriting _)) => True
  | .submitProposal _ (.running .creating) => True
  | .selectProposal _ (.running (.closed _ _ _)) => True
  | _ => False

/-- What the next statement of a call writes. -/
inductive Writes (bidding : Bidding) (now : Time) : Call → Write → Prop
  | waiting {input : Submission} {proposal : Proposal}
      (locked : bidding.isProposalLocked proposal.id = true) :
      Writes bidding now (.submitProposal input (.running (.rewriting proposal))) .nothing
  | resubmission {input : Submission} {proposal : Proposal}
      (unlocked : bidding.isProposalLocked proposal.id = false) :
      Writes bidding now (.submitProposal input (.running (.rewriting proposal)))
        (.resubmit proposal.id input.dto)
  | refusal {input : Submission} {error : ApiError}
      (refused : creationGate input bidding.store = .error error) :
      Writes bidding now (.submitProposal input (.running .creating)) .nothing
  | submission {input : Submission} (passed : creationGate input bidding.store = .ok ()) :
      Writes bidding now (.submitProposal input (.running .creating)) (.submit input)
  | duplicate {input : Selection} {request : ServiceRequest} {terms : SelectionTerms}
      {others : List ProposalId}
      (taken : bidding.store.admitsJob request.id terms.proposal.id = false) :
      Writes bidding now (.selectProposal input (.running (.closed request terms others)))
        .nothing
  | selection {input : Selection} {request : ServiceRequest} {terms : SelectionTerms}
      {others : List ProposalId}
      (vacant : bidding.store.admitsJob request.id terms.proposal.id = true) :
      Writes bidding now (.selectProposal input (.running (.closed request terms others)))
        (.select input request terms others now)
  | plain {call : Call} {write : Write} (quiet : ¬ call.IsDeciding) (plain : write.IsPlain) :
      Writes bidding now call write

theorem plain_expireOrWait {Phase Reply : Type} {requestIds : List RequestId} {waiting : Phase}
    {after : Progress Phase Reply} :
    (expireOrWait bidding now requestIds waiting after).2.IsPlain := by
  unfold expireOrWait
  split_ifs <;> trivial

theorem submission_writes {input : Submission} {phase : SubmissionPhase}
    (fits : (Call.submitProposal input (.running phase)).Fits bidding.store) :
    Writes bidding now (.submitProposal input (.running phase))
      (input.next bidding now phase).2 := by
  cases phase with
  | called =>
      refine .plain not_false ?_
      simp only [Submission.next]
      split
      · trivial
      · split_ifs <;> trivial
  | expiring requestId =>
      exact .plain not_false plain_expireOrWait
  | permitted =>
      refine .plain not_false ?_
      simp only [Submission.next]
      split <;> trivial
  | rewriting proposal =>
      obtain ⟨row, found, _⟩ := fits
      cases locked : bidding.isProposalLocked proposal.id with
      | true =>
          simp only [Submission.next, locked, if_true]
          exact .waiting locked
      | false =>
          simp only [Submission.next, locked, found]
          exact .resubmission locked
  | creating =>
      cases gate : creationGate input bidding.store with
      | error error =>
          simp only [Submission.next, gate]
          exact .refusal gate
      | ok passed =>
          simp only [Submission.next, gate]
          exact .submission gate
  | written proposal =>
      exact .plain not_false trivial
  | opened proposal =>
      exact .plain not_false trivial

theorem selection_writes {input : Selection} {phase : SelectionPhase} :
    Writes bidding now (.selectProposal input (.running phase))
      (input.next bidding now phase).2 := by
  cases phase with
  | closed request terms others =>
      cases admitted : bidding.store.admitsJob request.id terms.proposal.id with
      | true =>
          simp only [Selection.next, admitted, if_true]
          exact .selection admitted
      | false =>
          simp only [Selection.next, admitted]
          exact .duplicate admitted
  | expiring request =>
      exact .plain not_false plain_expireOrWait
  | joined request requestJob =>
      refine .plain not_false ?_
      simp only [Selection.next]
      split_ifs <;> trivial
  | agreed request terms =>
      refine .plain not_false ?_
      simp only [Selection.next]
      split <;> trivial
  | rejecting request terms others =>
      refine .plain not_false ?_
      simp only [Selection.next]
      split_ifs <;> trivial
  | rejected request terms others | selected request terms others =>
      refine .plain not_false ?_
      simp only [Selection.next]
      split_ifs <;> trivial
  | _ =>
      exact .plain not_false trivial

theorem adjustment_plain {input : Adjustment} {phase : AdjustmentPhase} :
    (input.next bidding now phase).2.IsPlain := by
  cases phase with
  | called => trivial
  | owned request =>
      simp only [Adjustment.next]
      split_ifs <;> trivial
  | expiring request =>
      exact plain_expireOrWait
  | adjusting request =>
      simp only [Adjustment.next]
      split_ifs
      · trivial
      · split <;> trivial

theorem expiry_plain {phase : ExpiryPhase} : (nextExpiry bidding now phase).2.IsPlain := by
  cases phase with
  | called =>
      simp only [nextExpiry]
      split_ifs <;> trivial
  | expiring requestIds =>
      exact plain_expireOrWait

theorem call_writes {call : Call} (fits : call.Fits bidding.store) :
    Writes bidding now call (call.next bidding now).2 := by
  cases call with
  | submitProposal input progress =>
      cases progress with
      | running phase => exact submission_writes fits
      | _ => exact .plain not_false trivial
  | selectProposal input progress =>
      cases progress with
      | running phase => exact selection_writes
      | _ => exact .plain not_false trivial
  | update input progress =>
      cases progress with
      | running phase => exact .plain not_false adjustment_plain
      | _ => exact .plain not_false trivial
  | expireStaleOpenRequests progress =>
      cases progress with
      | running phase => exact .plain not_false expiry_plain
      | _ => exact .plain not_false trivial

theorem admitted_of_plain {store : Store} {write : Write} (plain : write.IsPlain) :
    write.Admitted store := by
  cases write with
  | submit input => exact plain.elim
  | select input request terms others now => exact plain.elim
  | _ => trivial

theorem admitted_of_writes {call : Call} {write : Write} (fits : call.Fits bidding.store)
    (writes : Writes bidding now call write) : write.Admitted bidding.store := by
  cases writes with
  | submission passed =>
      simp only [creationGate, gate_bind_eq_ok, guardThat_eq_ok] at passed
      obtain ⟨_, _, present⟩ := passed
      exact present
  | selection vacant =>
      exact ⟨vacant, fits⟩
  | plain quiet plain =>
      exact admitted_of_plain plain
  | _ =>
      trivial

theorem call_write {call : Call} (fits : call.Fits bidding.store) :
    (call.next bidding now).2.Admitted bidding.store :=
  admitted_of_writes fits (call_writes fits)

end Statements

section Linked

variable {store : Store}

theorem admitsJob_iff {requestId : RequestId} {proposalId : ProposalId} :
    store.admitsJob requestId proposalId = true ↔
      ∀ job ∈ store.jobs, job.requestId ≠ some requestId ∧ job.proposalId ≠ some proposalId := by
  rw [Books.admitsJob, Option.isNone_iff_eq_none, Table.findFirst?_eq_none_iff]
  simp

/-- A request which has no job has no selection. -/
theorem vacant_of_admitsJob (linked : Linked store) {requestId : RequestId}
    {proposalId : ProposalId} (admitted : store.admitsJob requestId proposalId = true)
    {request : ServiceRequest} (found : store.market.requests.find? requestId = some request) :
    request.selectedProposalId = none := by
  cases selected : request.selectedProposalId with
  | none => rfl
  | some chosen =>
      have member := store.market.requests.mem_of_find? found
      obtain ⟨job, stored, names, _⟩ := linked.job request member chosen selected
      have sameId : request.id = requestId := store.market.requests.key_of_find? found
      rw [sameId] at names
      exact absurd names (admitsJob_iff.mp admitted job stored).1

/-- What happens to the requests when no selection is written. -/
structure KeepsSelections (before after : Marketplace) : Prop where
  evolves : Table.Evolves ServiceRequest.selectedProposalId before.requests after.requests
  origin : ∀ request ∈ after.requests, request.selectedProposalId = none ∨
    ∃ old ∈ before.requests, old.id = request.id ∧
      old.selectedProposalId = request.selectedProposalId

theorem linked_of_keeps {market : Marketplace} (linked : Linked store)
    (keeps : KeepsSelections store.market market) :
    Linked { store with market := market } where
  request := by
    intro job stored requestId names
    obtain ⟨request, found, same, named⟩ := linked.request job stored requestId names
    obtain ⟨later, foundLater, kept⟩ := keeps.evolves requestId request found
    have keptSelection : later.selectedProposalId = request.selectedProposalId := kept
    exact ⟨later, foundLater, keptSelection.trans same, named⟩
  job := by
    intro request member proposalId selected
    rcases keeps.origin request member with none | ⟨old, oldMember, sameId, same⟩
    · rw [none] at selected
      cases selected
    · rw [← same] at selected
      obtain ⟨job, stored, names, chosen⟩ := linked.job old oldMember proposalId selected
      exact ⟨job, stored, sameId ▸ names, chosen⟩
  billed := linked.billed

theorem later_of_keeps {market : Marketplace} (keeps : KeepsSelections store.market market)
    (proposals : Table.Evolves pair store.market.proposals market.proposals) :
    Later store { store with market := market } where
  requests := by
    intro requestId row found
    obtain ⟨later, foundLater, kept⟩ := keeps.evolves requestId row found
    have keptSelection : later.selectedProposalId = row.selectedProposalId := kept
    exact ⟨later, foundLater, fun proposalId named => keptSelection.trans named⟩
  proposals := proposals
  jobs := fun _ member => member

theorem keepsSelections_refl {before after : Marketplace}
    (same : after.requests = before.requests) : KeepsSelections before after where
  evolves := by
    rw [same]
    exact Table.Evolves.refl _ _
  origin := by
    rw [same]
    exact fun request member => .inr ⟨request, member, rfl, rfl⟩

theorem keepsSelections_expire {market : Marketplace} (requestIds : List RequestId)
    (now : Time) : KeepsSelections market (expiredByIds requestIds now market) where
  evolves := Table.Evolves.updateMany _ market.requests _
    (fun request : ServiceRequest => { request with status := .expired }) (fun _ => rfl)
    fun _ => rfl
  origin := by
    intro request member
    obtain ⟨old, oldMember, made⟩ := (market.requests.mem_updateMany _
      (fun request : ServiceRequest => { request with status := .expired })
      fun _ => rfl).mp member
    refine .inr ⟨old, oldMember, ?_⟩
    rw [made]
    split_ifs <;> exact ⟨rfl, rfl⟩

theorem keepsSelections_adjust {market : Marketplace} (input : Adjustment)
    (read : ServiceRequest) (now : Time) :
    KeepsSelections market
      { market with
        requests := market.requests.update input.requestId (adjusted input.dto read now) } where
  evolves := Table.Evolves.update _ market.requests _ (adjusted input.dto read now)
    (fun _ => rfl) fun _ => rfl
  origin := by
    intro request member
    obtain ⟨old, oldMember, made⟩ :=
      (market.requests.mem_update (adjusted input.dto read now) fun _ => rfl).mp member
    refine .inr ⟨old, oldMember, ?_⟩
    rw [made]
    split_ifs <;> exact ⟨rfl, rfl⟩

theorem keepsSelections_place {market : Marketplace} {make : RequestId → ServiceRequest}
    {keyed : ∀ id, Keyed.key (make id) = id} (fresh : ∀ id, (make id).selectedProposalId = none) :
    KeepsSelections market
      { market with requests := market.requests.insert make keyed } where
  evolves := Table.Evolves.insert _ _ make keyed
  origin := by
    intro request member
    rcases (market.requests.mem_insert make keyed).mp member with new | old
    · rw [new]
      exact .inl (fresh _)
    · exact .inr ⟨request, old, rfl, rfl⟩

end Linked

/-! ## Writes -/

section Writes

variable {store : Store}

section Select

variable {input : Selection} {request : ServiceRequest} {terms : SelectionTerms}
  {others : List ProposalId} {now : Time}

theorem find?_select (requestId : RequestId) :
    ((Write.select input request terms others now).apply store).market.requests.find? requestId =
      if requestId = request.id then
        (store.market.requests.find? requestId).map fun row =>
          { row with status := .closed, selectedProposalId := some terms.proposal.id }
      else store.market.requests.find? requestId :=
  store.market.requests.find?_update
    (fun row => { row with status := .closed, selectedProposalId := some terms.proposal.id })
    (fun _ => rfl) request.id requestId

theorem mem_jobs_select {job : Job} :
    job ∈ ((Write.select input request terms others now).apply store).jobs ↔
      job = selectedJob request terms input.actorUserId store.jobs.nextId ∨ job ∈ store.jobs :=
  store.jobs.mem_insert (selectedJob request terms input.actorUserId) fun _ => rfl

theorem mem_intents_select {intent : PaymentIntent} :
    intent ∈ ((Write.select input request terms others now).apply store).intents ↔
      intent = depositIntent input.policy request terms input.actorUserId store.jobs.nextId
          store.intents.nextId ∨ intent ∈ store.intents :=
  store.intents.mem_insert
    (depositIntent input.policy request terms input.actorUserId store.jobs.nextId) fun _ => rfl

theorem mem_requests_select {row : ServiceRequest} :
    row ∈ ((Write.select input request terms others now).apply store).market.requests ↔
      ∃ old ∈ store.market.requests, row =
        if old.id = request.id then
          { old with status := .closed, selectedProposalId := some terms.proposal.id }
        else old :=
  store.market.requests.mem_update
    (fun row => { row with status := .closed, selectedProposalId := some terms.proposal.id })
    fun _ => rfl

theorem later_select (linked : Linked store)
    (admitted : store.admitsJob request.id terms.proposal.id = true) :
    Later store ((Write.select input request terms others now).apply store) where
  requests := by
    intro requestId row found
    by_cases same : requestId = request.id
    · have vacant := vacant_of_admitsJob linked admitted (same ▸ found)
      rw [find?_select, if_pos same, found]
      refine ⟨_, rfl, fun proposalId named => ?_⟩
      rw [vacant] at named
      cases named
    · rw [find?_select, if_neg same]
      exact ⟨row, found, fun _ named => named⟩
  proposals := by
    have rejected : Table.Evolves pair store.market.proposals _ :=
      Table.Evolves.updateMany pair store.market.proposals
        (fun proposal => others.contains proposal.id)
        (fun proposal : Proposal => { proposal with status := .rejected }) (fun _ => rfl)
        fun _ => rfl
    exact rejected.trans (Table.Evolves.update pair _ terms.proposal.id
      (fun proposal : Proposal => { proposal with status := .selected }) (fun _ => rfl)
      fun _ => rfl)
  jobs := fun job member => mem_jobs_select.mpr (.inr member)

theorem linked_select (linked : Linked store)
    (admitted : store.admitsJob request.id terms.proposal.id = true)
    (known : Known store request) :
    Linked ((Write.select input request terms others now).apply store) where
  request := by
    intro job member requestId names
    rcases mem_jobs_select.mp member with new | old
    · rw [new] at names ⊢
      have sameId : request.id = requestId := Option.some.inj names
      obtain ⟨row, found, _⟩ := known
      rw [find?_select, if_pos sameId.symm, ← sameId, found]
      exact ⟨_, rfl, rfl, rfl⟩
    · obtain ⟨row, found, same, named⟩ := linked.request job old requestId names
      have other : requestId ≠ request.id := by
        intro same
        exact (admitsJob_iff.mp admitted job old).1 (same ▸ names)
      rw [find?_select, if_neg other]
      exact ⟨row, found, same, named⟩
  job := by
    intro row member proposalId selected
    obtain ⟨old, oldMember, made⟩ := mem_requests_select.mp member
    by_cases same : old.id = request.id
    · rw [if_pos same] at made
      rw [made] at selected ⊢
      refine ⟨_, mem_jobs_select.mpr (.inl rfl), congrArg some same.symm, selected⟩
    · rw [if_neg same] at made
      rw [made] at selected ⊢
      obtain ⟨job, stored, names, chosen⟩ := linked.job old oldMember proposalId selected
      exact ⟨job, mem_jobs_select.mpr (.inr stored), names, chosen⟩
  billed := by
    intro job member
    rcases mem_jobs_select.mp member with new | old
    · rw [new]
      exact ⟨_, mem_intents_select.mpr (.inl rfl), rfl⟩
    · obtain ⟨intent, stored, ofJob⟩ := linked.billed job old
      exact ⟨intent, mem_intents_select.mpr (.inr stored), ofJob⟩

end Select

theorem write_later (linked : Linked store) {write : Write} (admitted : write.Admitted store) :
    Later store (write.apply store) := by
  cases write with
  | nothing =>
      exact later_of_keeps (keepsSelections_refl rfl) (Table.Evolves.refl _ _)
  | expire requestIds now =>
      exact later_of_keeps (keepsSelections_expire requestIds now) (Table.Evolves.refl _ _)
  | resubmit proposalId dto =>
      exact later_of_keeps (keepsSelections_refl rfl)
        (Table.Evolves.update _ _ proposalId (resubmitted dto) (fun _ => rfl) fun _ => rfl)
  | submit input =>
      exact later_of_keeps (keepsSelections_refl rfl)
        (Table.Evolves.insert _ _ _ fun _ => rfl)
  | adjust input request now =>
      exact later_of_keeps (keepsSelections_adjust input request now) (Table.Evolves.refl _ _)
  | invite invitations =>
      exact later_of_keeps (keepsSelections_refl rfl) (Table.Evolves.refl _ _)
  | select input request terms others now =>
      exact later_select linked admitted.1

theorem write_linked (linked : Linked store) {write : Write} (admitted : write.Admitted store) :
    Linked (write.apply store) := by
  cases write with
  | nothing =>
      exact linked
  | expire requestIds now =>
      exact linked_of_keeps linked (keepsSelections_expire requestIds now)
  | resubmit proposalId dto =>
      exact linked_of_keeps linked (keepsSelections_refl rfl)
  | submit input =>
      exact linked_of_keeps linked (keepsSelections_refl rfl)
  | adjust input request now =>
      exact linked_of_keeps linked (keepsSelections_adjust input request now)
  | invite invitations =>
      exact linked_of_keeps linked (keepsSelections_refl rfl)
  | select input request terms others now =>
      exact linked_select linked admitted.1 admitted.2.known

end Writes

/-! ## Every run -/

/-- Jobs and selections belong together, and every call knows what it says it knows. -/
structure Sound (bidding : Bidding) : Prop where
  linked : Linked bidding.store
  calls : ∀ call ∈ bidding.calls, call.Fits bidding.store

section Steps

variable {bidding : Bidding}

theorem advance_of_found {number : Nat} {now : Time} {call : Call}
    (found : bidding.calls[number]? = some call) :
    bidding.advance number now =
      { store := (call.next bidding now).2.apply bidding.store
        calls := bidding.calls.set number (call.next bidding now).1 } := by
  simp only [Bidding.advance, found]

theorem sound_start (sound : Sound bidding) {call : Call} (fits : call.Fits bidding.store) :
    Sound (bidding.start call) where
  linked := sound.linked
  calls := by
    intro other member
    rcases List.mem_append.mp member with old | new
    · exact sound.calls other old
    · rw [List.mem_singleton.mp new]
      exact fits

theorem sound_advance (sound : Sound bidding) (number : Nat) (now : Time) :
    Sound (bidding.advance number now) := by
  cases found : bidding.calls[number]? with
  | none =>
      have same : bidding.advance number now = bidding := by
        simp only [Bidding.advance, found]
      rw [same]
      exact sound
  | some call =>
      have fits := sound.calls call (List.mem_of_getElem? found)
      have admitted : (call.next bidding now).2.Admitted bidding.store := call_write fits
      have later := write_later sound.linked admitted
      rw [advance_of_found found]
      refine ⟨write_linked sound.linked admitted, fun other member => ?_⟩
      rcases List.mem_or_eq_of_mem_set member with old | new
      · exact call_fits_later later (sound.calls other old)
      · rw [new]
        exact call_fits_later later (call_fits_next sound.linked fits)

theorem abort_fits {store : Store} {call : Call} (fits : call.Fits store) (error : ApiError) :
    (call.abort error).Fits store := by
  cases call with
  | submitProposal input progress => cases progress <;> trivial
  | selectProposal input progress => cases progress <;> trivial
  | update input progress => cases progress <;> trivial
  | expireStaleOpenRequests progress => cases progress <;> trivial

theorem mem_abort {number : Nat} {error : ApiError} {call : Call}
    (member : call ∈ (bidding.abort number error).calls) :
    call ∈ bidding.calls ∨ ∃ old ∈ bidding.calls, call = old.abort error := by
  obtain ⟨index, stored⟩ := List.mem_iff_getElem?.mp member
  rw [Bidding.abort, List.getElem?_modify, Option.map_eq_map, Option.map_eq_some_iff] at stored
  obtain ⟨old, found, made⟩ := stored
  have oldMember := List.mem_of_getElem? found
  by_cases same : number = index
  · rw [if_pos same] at made
    exact .inr ⟨old, oldMember, made.symm⟩
  · rw [if_neg same] at made
    exact .inl (made ▸ oldMember)

theorem sound_replace (sound : Sound bidding) {market : Marketplace}
    (keeps : KeepsSelections bidding.store.market market)
    (proposals : Table.Evolves pair bidding.store.market.proposals market.proposals) :
    Sound { bidding with store := { bidding.store with market := market } } where
  linked := linked_of_keeps sound.linked keeps
  calls := fun call member =>
    call_fits_later (later_of_keeps keeps proposals) (sound.calls call member)

/-- A new request, or an error. -/
theorem create_state (store : Store) (expiryHours : EnvNumber) (actorUserId : UserId)
    (dto : CreateServiceRequestDto) (now : Time) :
    (create expiryHours actorUserId dto now store).state = store ∨
      ∃ make : RequestId → ServiceRequest, ∃ keyed : ∀ id, Keyed.key (make id) = id,
        (∀ id, (make id).selectedProposalId = none ∧ (make id).status = .open) ∧
          (create expiryHours actorUserId dto now store).state =
            { store with
              market :=
                { store.market with requests := store.market.requests.insert make keyed } } := by
  unfold create
  rw [Action.consult_bind_apply]
  cases categoryGate dto.categoryId store with
  | error error =>
      exact .inl rfl
  | ok category =>
      refine .inr ⟨_, _, fun id => ⟨rfl, rfl⟩, rfl⟩

theorem sound_perform (sound : Sound bidding) (step : BiddingStep) :
    Sound (step.perform bidding) := by
  cases step with
  | submitProposal input => exact sound_start sound trivial
  | selectProposal input => exact sound_start sound trivial
  | update input => exact sound_start sound trivial
  | expireStaleOpenRequests => exact sound_start sound trivial
  | advance number now => exact sound_advance sound number now
  | abort number error =>
      refine ⟨sound.linked, fun call member => ?_⟩
      rcases mem_abort member with old | ⟨old, oldMember, made⟩
      · exact sound.calls call old
      · rw [made]
        exact abort_fits (sound.calls old oldMember) error
  | create expiryHours actorUserId dto now =>
      rcases create_state bidding.store expiryHours actorUserId dto now with
        same | ⟨make, keyed, fresh, made⟩
      · simp only [BiddingStep.perform, same]
        exact sound
      · simp only [BiddingStep.perform, made]
        exact sound_replace sound (keepsSelections_place fun id => (fresh id).1)
          (Table.Evolves.refl _ _)
  | others users categories workerProfiles =>
      exact sound_replace sound (keepsSelections_refl rfl) (Table.Evolves.refl _ _)

theorem later_perform (sound : Sound bidding) (step : BiddingStep) :
    Later bidding.store (step.perform bidding).store := by
  have same : Later bidding.store bidding.store :=
    later_of_keeps (keepsSelections_refl rfl) (Table.Evolves.refl _ _)
  cases step with
  | advance number now =>
      cases found : bidding.calls[number]? with
      | none =>
          simp only [BiddingStep.perform, Bidding.advance, found]
          exact same
      | some call =>
          simp only [BiddingStep.perform, advance_of_found found]
          exact write_later sound.linked
            (call_write (sound.calls call (List.mem_of_getElem? found)))
  | create expiryHours actorUserId dto now =>
      simp only [BiddingStep.perform]
      rcases create_state bidding.store expiryHours actorUserId dto now with
        unchanged | ⟨make, keyed, fresh, made⟩
      · rw [unchanged]
        exact same
      · rw [made]
        exact later_of_keeps (keepsSelections_place fun id => (fresh id).1)
          (Table.Evolves.refl _ _)
  | others users categories workerProfiles =>
      exact later_of_keeps (keepsSelections_refl rfl) (Table.Evolves.refl _ _)
  | _ => exact same

theorem initial_sound : Sound Bidding.initial where
  linked :=
    { request := fun job member => absurd member (Table.not_mem_empty job)
      job := fun request member => absurd member (Table.not_mem_empty request)
      billed := fun job member => absurd member (Table.not_mem_empty job) }
  calls := fun _ member => absurd member List.not_mem_nil

end Steps

end Tchuno.Requests
