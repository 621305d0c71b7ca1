import Tchuno.Requests.Snapshots

/-!
# What a selection returns

A selection which finds a job in its transaction returns that job together with the proposal
it was asked for.  The two belong together unless another proposal was selected in between.
-/

namespace Tchuno.Requests

open Tchuno.Library Tchuno.Library.Ecma Tchuno.Payments

/-! ## True replies -/

structure Truthful (store : Store) (input : Selection) (reply : SelectionReply) : Prop where
  proposal : reply.selectedProposalId = input.proposalId
  stored : ∃ request, store.market.requests.find? input.requestId = some request ∧
    request.selectedProposalId = some input.proposalId
  job : reply.job.proposalId = some input.proposalId
  intent : ∃ intent, reply.paymentIntent = some intent ∧ intent.jobId = reply.job.id

/-- Every call of `selectProposal` which has returned has told the truth. -/
def RepliesTruly (bidding : Bidding) : Prop :=
  ∀ input reply, Call.selectProposal input (.returned reply) ∈ bidding.calls →
    Truthful bidding.store input reply

/-- A call which is about to return the job it has found asked for the proposal for which
the job was made. -/
def AnswersItsOwn (bidding : Bidding) : BiddingStep → Prop
  | .advance number _ =>
      ∀ input request reply,
        bidding.calls[number]? = some (.selectProposal input (.running (.replying request reply))) →
          ∀ job ∈ bidding.store.jobs, job.requestId = some input.requestId →
            job.proposalId = some input.proposalId
  | _ => True

section Replies

variable {bidding : Bidding} {input : Selection} {reply : SelectionReply} {now : Time}

theorem truthful_later {before after : Store} (later : Later before after)
    (truthful : Truthful before input reply) : Truthful after input reply where
  proposal := truthful.proposal
  stored := by
    obtain ⟨row, found, selected⟩ := truthful.stored
    obtain ⟨next, foundNext, kept⟩ := later.requests _ row found
    exact ⟨next, foundNext, kept _ selected⟩
  job := truthful.job
  intent := truthful.intent

/-- All jobs of a request are for the same proposal. -/
theorem proposalId_of_employs {store : Store} (linked : Linked store) {requestId : RequestId}
    {job : Job} (employs : Employs store requestId job) :
    ∃ request, store.market.requests.find? requestId = some request ∧
      request.selectedProposalId = job.proposalId := by
  obtain ⟨request, found, same, _⟩ := linked.request job employs.1 requestId employs.2
  exact ⟨request, found, same⟩

theorem same_proposalId {store : Store} (linked : Linked store) {requestId : RequestId}
    {first second : Job} (one : Employs store requestId first)
    (other : Employs store requestId second) : first.proposalId = second.proposalId := by
  obtain ⟨request, found, same⟩ := proposalId_of_employs linked one
  obtain ⟨again, foundAgain, sameAgain⟩ := proposalId_of_employs linked other
  rw [found, Option.some.injEq] at foundAgain
  rw [← same, ← sameAgain, foundAgain]

/-! ## The three ways to return -/

/-- The selection was there when the call began. -/
theorem truthful_joined (linked : Linked bidding.store) {request : ServiceRequest}
    {requestJob : Option Job}
    (fits : (SelectionPhase.joined request requestJob).Fits bidding.store input)
    (decided : input.decide request requestJob
      (requestJob.bind fun job => bidding.store.newestIntent? job.id) = .returned reply) :
    Truthful bidding.store input reply := by
  obtain ⟨job, selected, found, made⟩ := decide_eq_returned decided
  obtain ⟨known, owned, employed⟩ := fits
  have employs := employed job found
  rw [owned] at employs
  obtain ⟨row, foundRow, kept⟩ := known
  rw [owned] at foundRow
  have rowSelected := kept input.proposalId selected
  obtain ⟨same, foundSame, sameProposal⟩ := proposalId_of_employs linked employs
  rw [foundRow, Option.some.injEq] at foundSame
  rw [made]
  refine ⟨rfl, ⟨row, foundRow, rowSelected⟩, ?_, ?_⟩
  · rw [← sameProposal, ← foundSame]
    exact rowSelected
  · rw [found]
    exact newestIntent?_of_linked linked employs.1

/-- The transaction has found a job. -/
theorem truthful_replying_iff (linked : Linked bidding.store) {request : ServiceRequest}
    (fits : (SelectionPhase.replying request reply).Fits bidding.store input) :
    Truthful bidding.store input reply ↔
      ∀ job ∈ bidding.store.jobs, job.requestId = some input.requestId →
        job.proposalId = some input.proposalId := by
  obtain ⟨_, named, employs, intent⟩ := fits
  constructor
  · intro truthful job stored names
    rw [same_proposalId linked ⟨stored, names⟩ employs]
    exact truthful.job
  · intro own
    have job := own reply.job employs.1 employs.2
    obtain ⟨row, found, same⟩ := proposalId_of_employs linked employs
    exact ⟨named, ⟨row, found, same.trans job⟩, job, intent⟩

/-- The call has made the selection. -/
theorem truthful_select {request : ServiceRequest} {terms : SelectionTerms}
    {others : List ProposalId} (fits : FitsTerms bidding.store input request terms others) :
    Truthful ((Write.select input request terms others now).apply bidding.store) input
      ⟨terms.proposal.id, selectedJob request terms input.actorUserId bidding.store.jobs.nextId,
        some (depositIntent input.policy request terms input.actorUserId
          bidding.store.jobs.nextId bidding.store.intents.nextId), false⟩ where
  proposal := fits.named
  stored := by
    obtain ⟨row, found, _⟩ := fits.known
    rw [find?_select, if_pos fits.owned.symm, ← fits.owned, found]
    exact ⟨_, rfl, congrArg some fits.named⟩
  job := congrArg some fits.named
  intent := ⟨_, rfl, rfl⟩

/-- A statement after which the call has returned. -/
theorem truthful_next (sound : Sound bidding) {phase : SelectionPhase}
    (fits : phase.Fits bidding.store input)
    (returns : (input.next bidding now phase).1 = .returned reply)
    (own : ∀ request, phase = .replying request reply → ∀ job ∈ bidding.store.jobs,
      job.requestId = some input.requestId → job.proposalId = some input.proposalId) :
    Truthful ((input.next bidding now phase).2.apply bidding.store) input reply := by
  have known : (Call.selectProposal input (.running phase)).Fits bidding.store := fits
  have later := write_later sound.linked (@call_write _ now _ known)
  cases phase with
  | called =>
      simp only [Selection.next] at returns
      cases gate : ownedRequestGate input.requestId input.actorUserId bidding.store <;>
        rw [gate] at returns <;> cases returns
  | joined request requestJob =>
      refine truthful_later later (truthful_joined sound.linked fits ?_)
      simp only [Selection.next] at returns
      split_ifs at returns
      exact returns
  | expiring request =>
      simp only [Selection.next, expireOrWait] at returns
      split_ifs at returns
  | selectable request =>
      simp only [Selection.next] at returns
      cases gate : offerGate request input.proposalId bidding.store <;>
        rw [gate] at returns <;> cases returns
  | offered request proposal =>
      simp only [Selection.next] at returns
      cases gate : input.termsGate proposal bidding.store <;> rw [gate] at returns <;>
        cases returns
  | agreed request terms =>
      simp only [Selection.next] at returns
      split at returns <;> cases returns
  | replying request found =>
      cases returns
      exact truthful_later later
        ((truthful_replying_iff sound.linked fits).mpr (own request rfl))
  | rejecting request terms others =>
      simp only [Selection.next] at returns
      split_ifs at returns
  | rejected request terms others =>
      simp only [Selection.next] at returns
      split_ifs at returns
  | selected request terms others =>
      simp only [Selection.next] at returns
      split_ifs at returns
  | closed request terms others =>
      simp only [Selection.next] at returns ⊢
      split_ifs at returns ⊢
      cases returns
      exact truthful_select fits
  | _ => cases returns

end Replies

/-! ## Every run -/

section Steps

variable {bidding : Bidding}

theorem next_returned {call : Call} {input : Selection} {reply : SelectionReply} {now : Time}
    (returns : (call.next bidding now).1 = .selectProposal input (.returned reply)) :
    call = .selectProposal input (.returned reply) ∨
      ∃ phase, call = .selectProposal input (.running phase) ∧
        (input.next bidding now phase).1 = .returned reply := by
  cases call with
  | submitProposal other progress => cases progress <;> cases returns
  | selectProposal other progress =>
      cases progress with
      | running phase =>
          simp only [Call.next, Call.selectProposal.injEq] at returns
          obtain ⟨same, returns⟩ := returns
          rw [same] at returns ⊢
          exact .inr ⟨phase, rfl, returns⟩
      | returned value => exact .inl returns
      | failed error => cases returns
  | update other progress => cases progress <;> cases returns
  | expireStaleOpenRequests progress => cases progress <;> cases returns

theorem repliesTruly_of_later {after : Bidding} (later : Later bidding.store after.store)
    (truly : RepliesTruly bidding)
    (same : ∀ input reply, Call.selectProposal input (.returned reply) ∈ after.calls →
      Call.selectProposal input (.returned reply) ∈ bidding.calls) : RepliesTruly after :=
  fun input reply member => truthful_later later (truly input reply (same input reply member))

theorem repliesTruly_advance (sound : Sound bidding) (truly : RepliesTruly bidding)
    {number : Nat} {now : Time} (own : AnswersItsOwn bidding (.advance number now)) :
    RepliesTruly (bidding.advance number now) := by
  have later := later_perform sound (.advance number now)
  cases found : bidding.calls[number]? with
  | none =>
      have same : bidding.advance number now = bidding := by
        simp only [Bidding.advance, found]
      rw [same]
      exact truly
  | some call =>
      have fits := sound.calls call (List.mem_of_getElem? found)
      simp only [BiddingStep.perform, advance_of_found found] at later ⊢
      intro input reply member
      rcases List.mem_or_eq_of_mem_set member with old | new
      · exact truthful_later later (truly input reply old)
      · rcases next_returned new.symm with same | ⟨phase, same, returns⟩
        · have stored := List.mem_of_getElem? found
          rw [same] at stored
          exact truthful_later later (truly input reply stored)
        · rw [same] at fits found ⊢
          refine truthful_next sound fits returns fun request replying => ?_
          rw [replying] at found
          exact own input request reply found

/-- A call which returns the job it has found tells the truth only about its own. -/
theorem answersItsOwn_of_repliesTruly (sound : Sound bidding) {number : Nat} {now : Time}
    (truly : RepliesTruly (bidding.advance number now)) :
    AnswersItsOwn bidding (.advance number now) := by
  intro input request reply found
  have fits : (SelectionPhase.replying request reply).Fits bidding.store input :=
    sound.calls _ (List.mem_of_getElem? found)
  rw [advance_of_found found] at truly
  have returned : Call.selectProposal input (.returned reply) ∈
      bidding.calls.set number (.selectProposal input (.returned reply)) := by
    obtain ⟨bound, _⟩ := List.getElem?_eq_some_iff.mp found
    exact List.mem_set bound _
  have truthful := truly input reply returned
  refine (truthful_replying_iff sound.linked fits).mp ⟨truthful.proposal, ?_, truthful.job,
    truthful.intent⟩
  exact truthful.stored

theorem mem_start {call other : Call} (member : other ∈ (bidding.start call).calls) :
    other ∈ bidding.calls ∨ other = call := by
  rcases List.mem_append.mp member with old | new
  · exact .inl old
  · exact .inr (List.mem_singleton.mp new)

theorem returned_of_abort {call : Call} {error : ApiError} {input : Selection}
    {reply : SelectionReply}
    (aborted : Call.selectProposal input (.returned reply) = call.abort error) :
    call = .selectProposal input (.returned reply) := by
  cases call with
  | submitProposal other progress => cases progress <;> cases aborted
  | selectProposal other progress =>
      cases progress with
      | running phase => cases aborted
      | returned value => exact aborted.symm
      | failed error => cases aborted
  | update other progress => cases progress <;> cases aborted
  | expireStaleOpenRequests progress => cases progress <;> cases aborted

/-- No other step than a statement makes a call return. -/
theorem returned_of_perform {step : BiddingStep}
    (other : ∀ number now, step ≠ .advance number now) {input : Selection}
    {reply : SelectionReply}
    (member : Call.selectProposal input (.returned reply) ∈ (step.perform bidding).calls) :
    Call.selectProposal input (.returned reply) ∈ bidding.calls := by
  cases step with
  | submitProposal _ => exact (mem_start member).resolve_right (by rintro ⟨⟩)
  | selectProposal _ => exact (mem_start member).resolve_right (by rintro ⟨⟩)
  | update _ => exact (mem_start member).resolve_right (by rintro ⟨⟩)
  | expireStaleOpenRequests => exact (mem_start member).resolve_right (by rintro ⟨⟩)
  | advance number now => exact absurd rfl (other number now)
  | abort number error =>
      rcases mem_abort member with old | ⟨old, oldMember, made⟩
      · exact old
      · rw [returned_of_abort made] at oldMember
        exact oldMember
  | create expiryHours actorUserId dto now => exact member
  | others users categories workerProfiles => exact member

theorem repliesTruly_perform (sound : Sound bidding) (truly : RepliesTruly bidding)
    (step : BiddingStep) :
    RepliesTruly (step.perform bidding) ↔ AnswersItsOwn bidding step := by
  by_cases statement : ∃ number now, step = .advance number now
  · obtain ⟨number, now, same⟩ := statement
    rw [same]
    exact ⟨answersItsOwn_of_repliesTruly sound, repliesTruly_advance sound truly⟩
  · have other : ∀ number now, step ≠ .advance number now :=
      fun number now same => statement ⟨number, now, same⟩
    have holds : RepliesTruly (step.perform bidding) :=
      repliesTruly_of_later (later_perform sound step) truly
        fun _ _ member => returned_of_perform other member
    refine ⟨fun _ => ?_, fun _ => holds⟩
    cases step with
    | advance number now => exact absurd rfl (other number now)
    | _ => trivial

/-- In a run every selection that returns has told the truth, after every step, exactly if no
call returns a job which was made for another proposal than its own. -/
theorem replies_true_iff (steps : List BiddingStep) :
    negotiating.Along (fun bidding step => RepliesTruly (negotiating.step bidding step))
        .initial steps ↔
      negotiating.Along AnswersItsOwn .initial steps := by
  refine @Machine.along_iff_along _ _ negotiating
    (fun bidding => Sound bidding ∧ RepliesTruly bidding) _ _ ?_ ?_ _ ?_ steps
  · exact fun bidding step both => repliesTruly_perform both.1 both.2 step
  · intro bidding step both own
    exact ⟨sound_perform both.1 step, (repliesTruly_perform both.1 both.2 step).mpr own⟩
  · exact ⟨initial_sound, fun input reply member => absurd member List.not_mem_nil⟩

end Steps

/-! ## Two selections at once -/

section Sample

/-- The workers 1 and 2 offer to do the job of client 0. -/
def sampleOffers : List BiddingStep :=
  [.others .empty sampleCategories
      (sampleMarketplace.workerProfiles.insert fun id => ⟨id, 2, true⟩),
    .create none 0 ⟨0, "Paint a wall", "One wall", none⟩ 0,
    .submitProposal ⟨0, 1, sampleOffer⟩,
    .submitProposal ⟨0, 2, sampleDearOffer⟩] ++
  List.replicate 5 (.advance 0 1) ++ List.replicate 5 (.advance 1 1)

/-- The client has two windows open and selects one worker in each. -/
def sampleSelections : List BiddingStep :=
  [.selectProposal ⟨samplePolicy, 0, 0, 0, none⟩, .selectProposal ⟨samplePolicy, 0, 1, 0, none⟩]

/-- Both calls have made their checks when the first of them makes its selection. -/
def sampleOverlap : List BiddingStep :=
  List.replicate 5 (.advance 2 2) ++ List.replicate 5 (.advance 3 2) ++
    List.replicate 6 (.advance 2 3) ++ List.replicate 3 (.advance 3 4)

/-- The proposal a selection was asked for and the proposal of the job it has returned. -/
def Call.answer? : Call → Option (ProposalId × Option ProposalId)
  | .selectProposal input (.returned reply) => some (input.proposalId, reply.job.proposalId)
  | _ => none

theorem answer?_eq_some {call : Call} {asked : ProposalId} {given : Option ProposalId}
    (answered : call.answer? = some (asked, given)) :
    ∃ input reply, call = .selectProposal input (.returned reply) ∧
      input.proposalId = asked ∧ reply.job.proposalId = given := by
  cases call with
  | selectProposal input progress =>
      cases progress with
      | returned reply =>
          cases answered
          exact ⟨input, reply, rfl, rfl, rfl⟩
      | _ => cases answered
  | _ => cases answered

theorem other_job_returned :
    ¬ RepliesTruly (negotiating.run .initial
      (sampleOffers ++ sampleSelections ++ sampleOverlap)) := by
  intro truly
  have answer : ((negotiating.run .initial
      (sampleOffers ++ sampleSelections ++ sampleOverlap)).calls[3]?.bind Call.answer?) =
        some (1, some 0) := by
    decide +kernel
  obtain ⟨call, found, answered⟩ := Option.bind_eq_some_iff.mp answer
  obtain ⟨input, reply, same, asked, given⟩ := answer?_eq_some answered
  rw [same] at found
  have truthful := truly input reply (List.mem_of_getElem? found)
  have job := truthful.job
  rw [given, asked] at job
  cases job

end Sample

end Tchuno.Requests
