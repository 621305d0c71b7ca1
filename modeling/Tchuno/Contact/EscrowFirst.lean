import Tchuno.Contact.Conversations
import Tchuno.Payments.ChargedJobs

/-!
# Escrow precedes contact

Contact is shown for two different reasons: a field of the job, which a successful report
sets, and the status of an intent, which any report may change.  Either way the customer
was charged for the job.
-/

namespace Tchuno.Contact

open Tchuno.Library Tchuno.Library.Ecma Tchuno.Payments

/-! ## Where contact is shown -/

section Shown

variable {store : Store} {inbox : Inbox}

theorem hasCharge_of_unlocked (escrowed : store.Escrowed) {job : Job} (present : job ∈ store.jobs)
    (unlocked : (job.contactUnlockedAt.isSome || (paidIntent? store job.id).isSome) = true) :
    HasCharge store.ledger job.id := by
  rcases Bool.or_eq_true_iff.mp unlocked with byJob | byIntent
  · exact escrowed.unlocked job present byJob
  · obtain ⟨intent, found⟩ := Option.isSome_iff_exists.mp byIntent
    obtain ⟨member, chosen⟩ := Table.mem_of_findFirst? _ found
    simp only [Bool.and_eq_true, decide_eq_true_eq] at chosen
    rw [← chosen.1]
    exact escrowed.paid intent member chosen.2

theorem resolveConversationAccess_eq_ok {job : Job} {userId : UserId}
    {access : AccessibleConversation}
    (resolved : resolveConversationAccess job userId store = .ok access) :
    access.job = job ∧ access.contactUnlocked =
      (job.contactUnlockedAt.isSome || (paidIntent? store job.id).isSome) := by
  simp only [resolveConversationAccess, gate_bind_eq_ok, guardThat_eq_ok, gate_pure_eq_ok]
    at resolved
  obtain ⟨_, _, _, _, rfl⟩ := resolved
  exact ⟨rfl, rfl⟩

theorem hasCharge_of_access (escrowed : store.Escrowed) {job : Job} {userId : UserId}
    {access : AccessibleConversation} (present : job ∈ store.jobs)
    (resolved : resolveConversationAccess job userId store = .ok access)
    (unlocked : access.contactUnlocked = true) :
    access.job = job ∧ HasCharge store.ledger job.id := by
  obtain ⟨sameJob, decided⟩ := resolveConversationAccess_eq_ok resolved
  rw [decided] at unlocked
  exact ⟨sameJob, hasCharge_of_unlocked escrowed present unlocked⟩

theorem getConversationOrThrow_eq_ok {jobId : JobId} {userId : UserId}
    {access : AccessibleConversation}
    (granted : getConversationOrThrow jobId userId store = .ok access) :
    ∃ job ∈ store.jobs, job.id = jobId ∧
      resolveConversationAccess job userId store = .ok access := by
  simp only [getConversationOrThrow, gate_bind_eq_ok, orThrow_eq_ok] at granted
  obtain ⟨job, found, resolved⟩ := granted
  exact ⟨job, store.jobs.mem_of_find? found, store.jobs.key_of_find? found, resolved⟩

/-- An email is in the answer only if the contact is unlocked. -/
theorem unlocked_of_email {access : AccessibleConversation}
    (shown : (conversationDto access).counterpart.email ≠ none) :
    access.contactUnlocked = true := by
  by_contra locked
  simp only [conversationDto, toParticipantDto, if_neg locked] at shown
  exact shown rfl

end Shown

/-- No party gets the contact of the other one, or a place for files, before the customer
was charged. -/
structure EscrowFirst (TrustSafety : Type) (inbox : Inbox) : Prop where
  job : ∀ jobId requesterId details, getById jobId requesterId inbox.store = .ok details →
    details.providerContact.isSome = true → HasCharge inbox.store.ledger jobId
  conversation : ∀ jobId userId (trustSafety : TrustSafety) answer,
    listByJob jobId userId trustSafety inbox = .ok answer →
    answer.conversation.counterpart.email ≠ none → HasCharge inbox.store.ledger jobId
  summary : ∀ userId updatedAt answer, listMine userId updatedAt inbox = .ok answer →
    ∀ summary ∈ answer, summary.conversation.counterpart.email ≠ none →
      HasCharge inbox.store.ledger summary.conversation.jobId
  upload : ∀ jobId userId dto storageService uuid now upload,
    createUploadPresign jobId userId dto storageService uuid now inbox = .ok upload →
    HasCharge inbox.store.ledger jobId

section Shown

variable {inbox : Inbox}

theorem hasCharge_of_getById (escrowed : inbox.store.Escrowed) {jobId : JobId}
    {requesterId : UserId} {details : JobDetails}
    (returned : getById jobId requesterId inbox.store = .ok details)
    (shown : details.providerContact.isSome = true) : HasCharge inbox.store.ledger jobId := by
  simp only [getById, gate_bind_eq_ok, orThrow_eq_ok, guardThat_eq_ok, gate_pure_eq_ok]
    at returned
  obtain ⟨job, found, _, _, _, _, rfl⟩ := returned
  have sameId : job.id = jobId := inbox.store.jobs.key_of_find? found
  have unlocked : (job.contactUnlockedAt.isSome ||
      (paidIntent? inbox.store job.id).isSome) = true := by
    by_contra locked
    rw [sameId] at locked
    simp only [if_neg locked] at shown
    cases shown
  rw [← sameId]
  exact hasCharge_of_unlocked escrowed (inbox.store.jobs.mem_of_find? found) unlocked

theorem hasCharge_of_listByJob {TrustSafety : Type} (escrowed : inbox.store.Escrowed)
    {jobId : JobId} {userId : UserId} {trustSafety : TrustSafety}
    {answer : JobConversation TrustSafety}
    (returned : listByJob jobId userId trustSafety inbox = .ok answer)
    (shown : answer.conversation.counterpart.email ≠ none) :
    HasCharge inbox.store.ledger jobId := by
  simp only [listByJob, gate_bind_eq_ok, gate_pure_eq_ok] at returned
  obtain ⟨access, granted, rfl⟩ := returned
  obtain ⟨job, present, rfl, resolved⟩ := getConversationOrThrow_eq_ok granted
  exact (hasCharge_of_access escrowed present resolved (unlocked_of_email shown)).2

theorem mem_of_mapM_eq_ok {α β ε : Type} {step : α → Except ε β} {items : List α}
    {results : List β} (mapped : items.mapM step = .ok results) {result : β}
    (member : result ∈ results) : ∃ item ∈ items, step item = .ok result := by
  induction items generalizing results with
  | nil =>
      cases mapped
      cases member
  | cons item rest inductionHypothesis =>
      rw [List.mapM_cons] at mapped
      cases first : step item with
      | error error =>
          rw [first] at mapped
          cases mapped
      | ok value =>
          cases others : rest.mapM step with
          | error error =>
              rw [first, others] at mapped
              cases mapped
          | ok values =>
              rw [first, others] at mapped
              cases mapped
              rcases List.mem_cons.mp member with rfl | later
              · exact ⟨item, List.mem_cons_self, first⟩
              · obtain ⟨source, present, made⟩ := inductionHypothesis others later
                exact ⟨source, List.mem_cons_of_mem _ present, made⟩

/-- Every summary is that of a stored job. -/
theorem mem_listMine {userId : UserId} {updatedAt : JobId → Time}
    {answer : List ConversationSummary}
    (returned : listMine userId updatedAt inbox = .ok answer)
    {summary : ConversationSummary} (member : summary ∈ answer) :
    ∃ job ∈ inbox.store.jobs, conversationSummary userId updatedAt inbox job = .ok summary := by
  simp only [listMine, gate_bind_eq_ok, gate_pure_eq_ok] at returned
  obtain ⟨summaries, mapped, rfl⟩ := returned
  obtain ⟨job, chosen, made⟩ := mem_of_mapM_eq_ok mapped (List.mem_mergeSort.mp member)
  have found := List.mem_mergeSort.mp (List.mem_of_mem_take chosen)
  exact ⟨job, List.mem_of_mem_filter found, made⟩

theorem hasCharge_of_summary (escrowed : inbox.store.Escrowed) {userId : UserId}
    {updatedAt : JobId → Time} {job : Job} (present : job ∈ inbox.store.jobs)
    {summary : ConversationSummary}
    (returned : conversationSummary userId updatedAt inbox job = .ok summary)
    (shown : summary.conversation.counterpart.email ≠ none) :
    HasCharge inbox.store.ledger summary.conversation.jobId := by
  simp only [conversationSummary, gate_bind_eq_ok, gate_pure_eq_ok] at returned
  obtain ⟨access, resolved, rfl⟩ := returned
  obtain ⟨rfl, charged⟩ := hasCharge_of_access escrowed present resolved (unlocked_of_email shown)
  exact charged

theorem hasCharge_of_upload (escrowed : inbox.store.Escrowed) {jobId : JobId}
    {userId : UserId} {dto : PresignUploadDto} {storageService : Option StorageService}
    {uuid : String} {now : Time} {upload : IssuedUpload}
    (issued : createUploadPresign jobId userId dto storageService uuid now inbox = .ok upload) :
    HasCharge inbox.store.ledger jobId := by
  unfold createUploadPresign at issued
  cases granted : getConversationOrThrow jobId userId inbox.store with
  | error error =>
      rw [granted] at issued
      cases issued
  | ok access =>
      rw [granted] at issued
      by_cases locked : access.contactUnlocked = false
      · simp [locked, Except.mapError, bind, Except.bind, throw, throwThe, MonadExceptOf.throw]
          at issued
      · obtain ⟨job, present, rfl, resolved⟩ := getConversationOrThrow_eq_ok granted
        exact (hasCharge_of_access escrowed present resolved (by simpa using locked)).2

end Shown

/-! ## Every run -/

theorem reachable_store (market : Marketplace) (operations : List InboxOperation) :
    payments.Reachable Store.IsInitial
      (conversations.run (Inbox.initial market) operations).store := by
  refine conversations.run_preserves
    (fun inbox => payments.Reachable Store.IsInitial inbox.store) ?_
    (.start ⟨market, rfl⟩) operations
  intro inbox operation reachable
  cases operation with
  | store operation =>
      exact reachable.next operation
  | send jobId userId dto moderation now =>
      simp only [conversations, InboxOperation.perform, send]
      split <;> exact reachable
  | markJobRead jobId userId now =>
      simp only [conversations, InboxOperation.perform, markJobRead]
      split <;> exact reachable

/-- In every run of operations on the store and its messages, escrow precedes contact. -/
theorem escrow_first (TrustSafety : Type) (market : Marketplace)
    (operations : List InboxOperation) :
    EscrowFirst TrustSafety (conversations.run (Inbox.initial market) operations) := by
  have escrowed := reachable_escrowed (reachable_store market operations)
  refine ⟨fun _ _ _ => hasCharge_of_getById escrowed, fun _ _ _ _ =>
    hasCharge_of_listByJob escrowed, ?_, fun _ _ _ _ _ _ _ => hasCharge_of_upload escrowed⟩
  intro userId updatedAt answer returned summary member shown
  obtain ⟨job, present, made⟩ := mem_listMine returned member
  exact hasCharge_of_summary escrowed present made shown

end Tchuno.Contact
