import Tchuno.Contact.EscrowFirst
import Tchuno.TrustSafety.ConversationState

/-!
# The protected chat

Before the contact of a job is unlocked, `send` asks `TrustSafetyService` about the text
of a message.  The attachments go past it: what is checked of them is the upload policy,
and their URL may be any.
-/

namespace Tchuno.Contact

open Tchuno.Library Tchuno.Library.Ecma Tchuno.Payments Tchuno.TrustSafety

/-! ## The call -/

/-- An inbox with the interventions in its chats. -/
structure ProtectedInbox where
  inbox : Inbox
  interventions : Table Intervention

def ConversationRole.actorRole : ConversationRole → ActorRole
  | .customer => .customer
  | .provider => .provider

/-- What `send` tells `TrustSafetyService` about the message. -/
def moderationInput (access : AccessibleConversation) (userId : UserId) (content : String) :
    EvaluateMessageInput where
  jobId := access.job.id
  requestId := access.job.requestId
  actorUserId := userId
  counterpartUserId := access.counterpart.id
  actorRole := access.role.actorRole
  contactUnlocked := access.contactUnlocked
  content := content

def verdict : MessageEvaluation → Moderation
  | .clear => .clear
  | .warning _ _ => .warning
  | .blocked _ _ => .blocked

/-- What `send` checks before it asks. -/
def sendAccess (jobId : JobId) (userId : UserId) (dto : CreateJobMessageDto) (store : Store) :
    Except ApiError AccessibleConversation := do
  guardThat (trim dto.content ≠ "") (.badRequest "content should not be empty")
  let access ← getConversationOrThrow jobId userId store
  guardThat (access.job.status ≠ .canceled)
    (.conflict "Canceled jobs are no longer open for new messages")
  pure access

inductive ProtectedReply where
  | moderated (evaluation : MessageEvaluation)
  | sent (message : JobMessage)

section Send

variable (localeString : Time → String)

def sendProtected (jobId : JobId) (userId : UserId) (dto : CreateJobMessageDto) (now : Time)
    (chat : ProtectedInbox) : Except ApiError ProtectedReply × ProtectedInbox :=
  match sendAccess jobId userId dto chat.inbox.store with
  | .error error => (.error error, chat)
  | .ok access =>
      let (evaluation, interventions) := evaluateMessageAttempt localeString
        (moderationInput access userId (trim dto.content)) now chat.interventions
      match send jobId userId dto (verdict evaluation) now chat.inbox with
      | (.error error, inbox) => (.error error, ⟨inbox, interventions⟩)
      | (.ok (.moderated _), inbox) => (.ok (.moderated evaluation), ⟨inbox, interventions⟩)
      | (.ok (.sent message), inbox) => (.ok (.sent message), ⟨inbox, interventions⟩)

end Send

theorem sendGate_eq (jobId : JobId) (userId : UserId) (dto : CreateJobMessageDto)
    (moderation : Moderation) (now : Time) (inbox : Inbox) :
    sendGate jobId userId dto moderation now inbox =
      (sendAccess jobId userId dto inbox.store >>= fun access =>
        if moderation = .clear then do
          let message ← draftMessage access userId (trim dto.content) dto now
            inbox.messages.nextId
          pure (.sent message)
        else
          pure (.moderated moderation)) := by
  unfold sendGate sendAccess
  simp only [bind_assoc, pure_bind]

/-! ## Drafts -/

theorem validate_eq_ok {reference validated : AttachmentReference} {jobId userId : String}
    (valid : validateMessageAttachmentReference reference jobId userId = .ok validated) :
    validated = reference := by
  simp only [validateMessageAttachmentReference, gate_bind_eq_ok, guardThat_eq_ok,
    gate_pure_eq_ok] at valid
  obtain ⟨_, _, _, _, _, _, _, _, _, _, rfl⟩ := valid
  rfl

/-- If each step returns its own item, the whole list is returned. -/
theorem mapM_eq_ok_self {α ε : Type} {step : α → Except ε α}
    (same : ∀ item result, step item = .ok result → result = item) {items results : List α} :
    items.mapM step = .ok results ↔
      results = items ∧ ∀ item ∈ items, step item = .ok item := by
  induction items generalizing results with
  | nil =>
      simp [pure, Except.pure, eq_comm]
  | cons item rest inductionHypothesis =>
      rw [List.mapM_cons]
      cases first : step item with
      | error error =>
          simp [bind, Except.bind, first]
      | ok value =>
          obtain rfl := same item value first
          cases others : rest.mapM step with
          | error error =>
              have failed : ¬ ∀ later ∈ rest, step later = .ok later := by
                intro passed
                have mapped := inductionHypothesis.mpr ⟨rfl, passed⟩
                rw [others] at mapped
                cases mapped
              simp [bind, Except.bind, first]
              exact fun _ => by simpa using failed
          | ok values =>
              obtain ⟨rfl, passed⟩ := inductionHypothesis.mp others
              constructor
              · intro mapped
                have same : value :: values = results := Except.ok.inj mapped
                exact ⟨same.symm, List.forall_mem_cons.mpr ⟨first, passed⟩⟩
              · intro returned
                rw [returned.1]
                rfl

/-- The attachments of a request which are looked at. -/
def CreateJobMessageDto.references (dto : CreateJobMessageDto) : List AttachmentReference :=
  dto.attachments.take 6

def ValidAttachments (jobId : JobId) (userId : UserId) (dto : CreateJobMessageDto) : Prop :=
  ∀ reference ∈ dto.references,
    validateMessageAttachmentReference reference (renderId jobId) (renderId userId) =
      .ok reference

instance (jobId : JobId) (userId : UserId) (dto : CreateJobMessageDto) :
    Decidable (ValidAttachments jobId userId dto) :=
  inferInstanceAs (Decidable (∀ reference ∈ dto.references, _))

theorem draftMessage_eq_ok {access : AccessibleConversation} {userId : UserId}
    {content : String} {dto : CreateJobMessageDto} {now : Time} {id : Nat}
    {message : JobMessage} :
    draftMessage access userId content dto now id = .ok message ↔
      ValidAttachments access.job.id userId dto ∧
        message =
          { id := id
            jobId := access.job.id
            senderUserId := userId
            recipientUserId := access.counterpart.id
            content := content
            createdAt := now
            readAt := none
            attachments := dto.references.map fun reference => ⟨reference, userId⟩ } := by
  simp only [draftMessage, gate_bind_eq_ok, gate_pure_eq_ok]
  rw [show dto.attachments.take 6 = dto.references from rfl]
  simp only [mapM_eq_ok_self fun _ _ => validate_eq_ok]
  constructor
  · rintro ⟨references, ⟨rfl, valid⟩, made⟩
    exact ⟨valid, made.symm⟩
  · rintro ⟨valid, rfl⟩
    exact ⟨dto.references, ⟨rfl, valid⟩, rfl⟩

/-! ## What is stored -/

/-- The text passes the checks of `send` and the moderation of a locked chat. -/
structure PassesModeration (jobId : JobId) (userId : UserId) (dto : CreateJobMessageDto)
    (now : Time) (chat : ProtectedInbox) : Prop where
  access : ∃ access, sendAccess jobId userId dto chat.inbox.store = .ok access
  unflagged : contactSignals (trim dto.content) = []
  unrestricted : ∀ intervention ∈ chat.interventions,
    intervention.restricts jobId userId now = false

/-- Whatever message is new has an unflagged text, no attachment and a sender who is not
restricted. -/
def IsProtected (jobId : JobId) (userId : UserId) (now : Time)
    (before after : ProtectedInbox) : Prop :=
  ∀ message ∈ after.inbox.messages, message ∉ before.inbox.messages →
    contactSignals message.content = [] ∧ message.attachments = [] ∧
      ∀ intervention ∈ before.interventions, intervention.restricts jobId userId now = false

/-- The chat of the job is locked: nothing was paid, and the job was not unlocked. -/
def IsLocked (jobId : JobId) (store : Store) : Prop :=
  ∃ job, store.jobs.find? jobId = some job ∧ job.contactUnlockedAt = none ∧
    paidIntent? store jobId = none

section Stored

variable {localeString : Time → String} {jobId : JobId} {userId : UserId}
  {dto : CreateJobMessageDto} {now : Time} {chat : ProtectedInbox}

theorem sendAccess_eq_ok {store : Store} {access : AccessibleConversation}
    (locked : IsLocked jobId store) (granted : sendAccess jobId userId dto store = .ok access) :
    access.job.id = jobId ∧ access.contactUnlocked = false := by
  obtain ⟨job, found, noUnlock, unpaid⟩ := locked
  have sameId : job.id = jobId := store.jobs.key_of_find? found
  simp only [sendAccess, getConversationOrThrow, gate_bind_eq_ok, orThrow_eq_ok,
    guardThat_eq_ok, gate_pure_eq_ok] at granted
  obtain ⟨_, _, other, ⟨stored, foundStored, resolved⟩, _, _, rfl⟩ := granted
  rw [found] at foundStored
  cases foundStored
  obtain ⟨rfl, decided⟩ := resolveConversationAccess_eq_ok resolved
  refine ⟨sameId, ?_⟩
  rw [decided, noUnlock, sameId, unpaid]
  rfl

theorem draft_id {access : AccessibleConversation} {content : String} {id : Nat}
    {message : JobMessage} (drafted : draftMessage access userId content dto now id = .ok message) :
    message.id = id := by
  rw [(draftMessage_eq_ok.mp drafted).2]

/-- What `send` does when access is granted. -/
theorem send_messages {access : AccessibleConversation} {moderation : Moderation}
    {inbox : Inbox} (granted : sendAccess jobId userId dto inbox.store = .ok access)
    (message : JobMessage) :
    message ∈ (send jobId userId dto moderation now inbox).2.messages ∧
        message ∉ inbox.messages ↔
      moderation = .clear ∧ draftMessage access userId (trim dto.content) dto now
        inbox.messages.nextId = .ok message := by
  have gate := sendGate_eq jobId userId dto moderation now inbox
  rw [granted] at gate
  by_cases clear : moderation = .clear
  · cases drafted : draftMessage access userId (trim dto.content) dto now
      inbox.messages.nextId with
    | error error =>
        have failed : sendGate jobId userId dto moderation now inbox = .error error := by
          rw [gate]
          simp [bind, Except.bind, clear, drafted]
        simp [send, failed]
    | ok draft =>
        have sent : sendGate jobId userId dto moderation now inbox = .ok (.sent draft) := by
          rw [gate]
          simp [bind, Except.bind, pure, Except.pure, clear, drafted]
        have unused : inbox.messages.find? (Keyed.key draft) = none := by
          change inbox.messages.find? draft.id = none
          rw [draft_id drafted]
          exact inbox.messages.find?_nextId
        have absent : draft ∉ inbox.messages := fun member =>
          Table.find?_eq_none_iff _ |>.mp unused draft member rfl
        have stored : (send jobId userId dto moderation now inbox).2.messages =
            inbox.messages.place draft := by
          simp only [send, sent]
        rw [stored, Table.mem_place_of_unused unused]
        simp only [clear, true_and, Except.ok.injEq]
        constructor
        · intro placed
          exact (placed.1.resolve_right placed.2).symm
        · intro same
          rw [← same]
          exact ⟨.inl rfl, absent⟩
  · have refused : sendGate jobId userId dto moderation now inbox =
        .ok (.moderated moderation) := by
      rw [gate]
      simp [bind, Except.bind, pure, Except.pure, clear]
    simp [send, refused, clear]

theorem verdict_eq_clear {evaluation : MessageEvaluation} :
    verdict evaluation = .clear ↔ evaluation = .clear := by
  cases evaluation <;> simp [verdict]

/-- A message is stored exactly if its text passes the moderation and its attachments the
upload policy. -/
theorem sendProtected_stores (locked : IsLocked jobId chat.inbox.store) (message : JobMessage) :
    message ∈ (sendProtected localeString jobId userId dto now chat).2.inbox.messages ∧
        message ∉ chat.inbox.messages ↔
      PassesModeration jobId userId dto now chat ∧
        ∃ access, sendAccess jobId userId dto chat.inbox.store = .ok access ∧
          draftMessage access userId (trim dto.content) dto now
            chat.inbox.messages.nextId = .ok message := by
  cases granted : sendAccess jobId userId dto chat.inbox.store with
  | error error =>
      simp [sendProtected, granted]
  | ok access =>
      obtain ⟨sameJob, lockedAccess⟩ := sendAccess_eq_ok locked granted
      have sends := @send_messages jobId userId dto now access (verdict
        (evaluateMessageAttempt localeString (moderationInput access userId (trim dto.content))
          now chat.interventions).1) chat.inbox granted message
      have passes : PassesModeration jobId userId dto now chat ↔
          (evaluateMessageAttempt localeString
            (moderationInput access userId (trim dto.content)) now
              chat.interventions).1 = .clear := by
        rw [evaluate_eq_clear lockedAccess, detectContactSharing_eq_none]
        simp only [moderationInput, sameJob]
        exact ⟨fun passed => ⟨passed.unrestricted, passed.unflagged⟩,
          fun clear => ⟨⟨access, granted⟩, clear.2, clear.1⟩⟩
      rw [verdict_eq_clear, ← passes] at sends
      have same : (sendProtected localeString jobId userId dto now chat).2.inbox =
          (send jobId userId dto (verdict (evaluateMessageAttempt localeString
            (moderationInput access userId (trim dto.content)) now
              chat.interventions).1) now chat.inbox).2 := by
        simp only [sendProtected, granted]
        split <;> simp_all
      rw [same, sends]
      simp

theorem draft_of_stored (locked : IsLocked jobId chat.inbox.store) {message : JobMessage}
    (stored : message ∈ (sendProtected localeString jobId userId dto now chat).2.inbox.messages)
    (new : message ∉ chat.inbox.messages) :
    PassesModeration jobId userId dto now chat ∧ ValidAttachments jobId userId dto ∧
      message.content = trim dto.content ∧
      message.attachments = dto.references.map fun reference => ⟨reference, userId⟩ := by
  obtain ⟨passed, access, granted, drafted⟩ :=
    (sendProtected_stores locked message).mp ⟨stored, new⟩
  have sameJob := (sendAccess_eq_ok locked granted).1
  obtain ⟨valid, made⟩ := draftMessage_eq_ok.mp drafted
  rw [sameJob] at valid
  rw [made]
  exact ⟨passed, valid, rfl, rfl⟩

theorem stores_of_passed (locked : IsLocked jobId chat.inbox.store)
    (passed : PassesModeration jobId userId dto now chat)
    (valid : ValidAttachments jobId userId dto) :
    ∃ message ∈ (sendProtected localeString jobId userId dto now chat).2.inbox.messages,
      message ∉ chat.inbox.messages ∧
        message.attachments = dto.references.map fun reference => ⟨reference, userId⟩ := by
  obtain ⟨access, granted⟩ := passed.access
  have sameJob := (sendAccess_eq_ok locked granted).1
  rw [← sameJob] at valid
  have drafted := (@draftMessage_eq_ok access userId (trim dto.content) dto now
    chat.inbox.messages.nextId _).mpr ⟨valid, rfl⟩
  have stored := (@sendProtected_stores localeString _ _ _ _ _ locked _).mpr
    ⟨passed, access, granted, drafted⟩
  exact ⟨_, stored.1, stored.2, rfl⟩

theorem references_eq_nil : dto.references = [] ↔ dto.attachments = [] := by
  cases attachments : dto.attachments <;> simp [CreateJobMessageDto.references, attachments]

/-- The chat of a locked job is protected exactly if no attachments come with a text that
passes: they are moderated by nobody. -/
theorem protected_iff (locked : IsLocked jobId chat.inbox.store) :
    IsProtected jobId userId now chat
        (sendProtected localeString jobId userId dto now chat).2 ↔
      ¬ (dto.attachments ≠ [] ∧ ValidAttachments jobId userId dto ∧
        PassesModeration jobId userId dto now chat) := by
  constructor
  · intro guarded attached
    have some := attached.1
    obtain ⟨message, stored, new, carried⟩ :=
      @stores_of_passed localeString _ _ _ _ _ locked attached.2.2 attached.2.1
    have none := (guarded message stored new).2.1
    rw [carried, List.map_eq_nil_iff, references_eq_nil] at none
    exact some none
  · intro unattached message stored new
    obtain ⟨passed, valid, content, carried⟩ := draft_of_stored locked stored new
    have none : dto.attachments = [] := by
      by_contra some
      exact unattached ⟨some, valid, passed⟩
    refine ⟨?_, ?_, passed.unrestricted⟩
    · rw [content]
      exact passed.unflagged
    · rw [carried, references_eq_nil.mpr none]
      rfl

end Stored

/-! ## A locked job -/

/-- A chat of a job whose proposal was selected and nothing paid. -/
def lockedChat : ProtectedInbox where
  inbox := conversations.run (.initial sampleMarketplace) [.store sampleSelection]
  interventions := .empty

theorem lockedChat_isLocked : IsLocked 0 lockedChat.inbox.store := by
  have found : lockedChat.inbox.store.jobs.find? 0 ≠ none := by decide +kernel
  obtain ⟨job, stored⟩ := Option.ne_none_iff_exists'.mp found
  have unlocked : (lockedChat.inbox.store.jobs.find? 0).bind Job.contactUnlockedAt = none := by
    decide +kernel
  have unpaid : (paidIntent? lockedChat.inbox.store 0).isNone = true := by decide +kernel
  rw [stored] at unlocked
  exact ⟨job, stored, unlocked, Option.isNone_iff_eq_none.mp unpaid⟩

theorem text_protected :
    IsProtected 0 0 2 lockedChat
      (sendProtected (fun _ => "") 0 0 ⟨"Good morning", []⟩ 2 lockedChat).2 :=
  (protected_iff lockedChat_isLocked).mpr fun attached => attached.1 rfl

/-- The URL of the image is a way to reach the client. -/
def contactImage : AttachmentReference where
  key := attachmentPrefix (renderId 0) (renderId 0) ++ "contact.jpg"
  url := "https://wa.me/258840000000"
  contentType := "image/jpeg"
  size := 1

/-- The image is stored, for the provider to see. -/
theorem contact_attached :
    IsLocked 0 lockedChat.inbox.store ∧
      ¬ IsProtected 0 0 2 lockedChat
        (sendProtected (fun _ => "") 0 0 ⟨"Good morning", [contactImage]⟩ 2 lockedChat).2 := by
  have granted : (sendAccess 0 0 ⟨"Good morning", [contactImage]⟩
      lockedChat.inbox.store).toBool = true := by
    decide +kernel
  have passed : PassesModeration 0 0 ⟨"Good morning", [contactImage]⟩ 2 lockedChat := by
    refine ⟨?_, ?_, ?_⟩
    · cases access : sendAccess 0 0 ⟨"Good morning", [contactImage]⟩ lockedChat.inbox.store with
      | ok value =>
          exact ⟨value, rfl⟩
      | error error =>
          rw [access] at granted
          cases granted
    · decide +kernel
    · intro intervention member
      cases member
  have valid : ValidAttachments 0 0 ⟨"Good morning", [contactImage]⟩ := by decide +kernel
  obtain ⟨message, stored, new, carried⟩ :=
    @stores_of_passed (fun _ => "") _ _ _ _ _ lockedChat_isLocked passed valid
  refine ⟨lockedChat_isLocked, fun guarded => ?_⟩
  have bare := (guarded message stored new).2.1
  rw [carried] at bare
  cases bare

end Tchuno.Contact
