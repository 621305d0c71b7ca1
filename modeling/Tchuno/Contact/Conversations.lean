import Tchuno.Contact.UploadPolicy
import Tchuno.Payments.Operation

/-!
# Contact between the parties of a job

`getById` of the job service and the message service.  Both decide by themselves whether
the contact of the other party may be shown.
-/

namespace Tchuno.Contact

open Tchuno.Library Tchuno.Library.Ecma Tchuno.Payments

/-! ## The parties of a job -/

/-- The rows a query of a job includes.  The client, the worker profile and its user are
required relations. -/
structure JobParties where
  client : User
  customer : Option User
  provider : Option User
  workerProfile : WorkerProfile
  workerUser : User

/-- `PrismaClientUnknownRequestError`: a required relation is missing. -/
def missingRelation : ApiError := .database "P2025"

def jobParties (job : Job) (market : Marketplace) : Except ApiError JobParties := do
  let client ← orThrow (market.users.find? job.clientId) missingRelation
  let workerProfile ← orThrow (market.workerProfiles.find? job.workerProfileId) missingRelation
  let workerUser ← orThrow (market.users.find? workerProfile.userId) missingRelation
  pure
    { client := client
      customer := job.customerId.bind market.users.find?
      provider := job.providerId.bind market.users.find?
      workerProfile := workerProfile
      workerUser := workerUser }

/-! ## Jobs -/

structure ProviderContact where
  email : String
  name : Option String

structure JobDetails where
  job : Job
  contactUnlocked : Bool
  providerContact : Option ProviderContact
  paymentRequired : Bool
  paymentStatus : PaymentIntentStatus

/-- The newest intent of the job which is paid. -/
def paidIntent? (store : Store) (jobId : JobId) : Option PaymentIntent :=
  store.intents.findFirst? fun intent => intent.jobId = jobId && intent.status.isPaid

def getById (jobId : JobId) (requesterId : UserId) (store : Store) :
    Except ApiError JobDetails := do
  let job ← orThrow (store.jobs.find? jobId) (.notFound "Job not found")
  let parties ← jobParties job store.market
  let jobProviderId := job.providerId.getD parties.workerProfile.userId
  guardThat (job.clientId = requesterId ∨ jobProviderId = requesterId)
    (.forbidden "You are not allowed to access this job")
  let paidIntent := paidIntent? store jobId
  let contactUnlocked := job.contactUnlockedAt.isSome || paidIntent.isSome
  let providerContact : ProviderContact :=
    { email := (parties.provider.map User.email).getD parties.workerUser.email
      name := (parties.provider.bind User.name).or parties.workerUser.name }
  pure
    { job := job
      contactUnlocked := contactUnlocked
      providerContact := if contactUnlocked then some providerContact else none
      paymentRequired := !contactUnlocked
      paymentStatus := if paidIntent.isSome then .paidPartial else .awaitingPayment }

/-! ## Conversations -/

structure MessageAttachment where
  reference : AttachmentReference
  uploadedByUserId : UserId

structure JobMessage where
  id : Nat
  jobId : JobId
  senderUserId : UserId
  recipientUserId : UserId
  content : String
  createdAt : Time
  readAt : Option Time
  attachments : List MessageAttachment

instance : Keyed JobMessage := ⟨JobMessage.id⟩

/-- In the order of `createdAt`, then of `id`. -/
def JobMessage.isInOrder (left right : JobMessage) : Bool :=
  left.createdAt < right.createdAt ||
    (left.createdAt = right.createdAt && left.id ≤ right.id)

inductive ConversationRole where
  | customer | provider
  deriving DecidableEq, Repr

structure AccessibleConversation where
  job : Job
  role : ConversationRole
  customer : User
  provider : User
  counterpart : User
  contactUnlocked : Bool

/-- The client of a job is required, so there is always a customer and a provider. -/
def resolveConversationAccess (job : Job) (userId : UserId) (store : Store) :
    Except ApiError AccessibleConversation := do
  let parties ← jobParties job store.market
  let provider := parties.provider.getD parties.workerUser
  let customer := parties.customer.getD parties.client
  let isCustomer := job.clientId = userId ∨ job.customerId = some userId
  guardThat (isCustomer ∨ provider.id = userId)
    (.forbidden "You are not allowed to access this job")
  pure
    { job := job
      role := if isCustomer then .customer else .provider
      customer := customer
      provider := provider
      counterpart := if isCustomer then provider else customer
      contactUnlocked :=
        job.contactUnlockedAt.isSome || (paidIntent? store job.id).isSome }

def getConversationOrThrow (jobId : JobId) (userId : UserId) (store : Store) :
    Except ApiError AccessibleConversation := do
  let job ← orThrow (store.jobs.find? jobId) (.notFound "Job not found")
  resolveConversationAccess job userId store

structure ParticipantDto where
  id : UserId
  name : Option String
  email : Option String

def toParticipantDto (user : User) (contactUnlocked : Bool) : ParticipantDto where
  id := user.id
  name := user.name
  email := if contactUnlocked then some user.email else none

structure ConversationDto where
  jobId : JobId
  requestId : Option RequestId
  title : String
  status : JobStatus
  contactUnlocked : Bool
  counterpart : ParticipantDto

def conversationDto (access : AccessibleConversation) : ConversationDto where
  jobId := access.job.id
  requestId := access.job.requestId
  title := access.job.title
  status := access.job.status
  contactUnlocked := access.contactUnlocked
  counterpart := toParticipantDto access.counterpart access.contactUnlocked

/-- A store with the messages of its jobs. -/
structure Inbox where
  store : Store
  messages : Table JobMessage

/-- `TrustSafetyService` answers with what it knows of the conversation. -/
structure JobConversation (TrustSafety : Type) where
  conversation : ConversationDto
  trustSafety : TrustSafety
  items : List JobMessage

def listByJob {TrustSafety : Type} (jobId : JobId) (userId : UserId)
    (trustSafety : TrustSafety) (inbox : Inbox) :
    Except ApiError (JobConversation TrustSafety) := do
  let access ← getConversationOrThrow jobId userId inbox.store
  pure
    { conversation := conversationDto access
      trustSafety := trustSafety
      items := (inbox.messages.findMany fun message => message.jobId = jobId).mergeSort
        JobMessage.isInOrder }

structure ConversationSummary where
  conversation : ConversationDto
  unreadCount : Nat
  latestMessage : Option JobMessage
  lastActivityAt : Time

/-- The jobs `listMine` looks at. -/
def isPartyOf (userId : UserId) (market : Marketplace) (job : Job) : Bool :=
  job.clientId = userId || job.customerId = some userId || job.providerId = some userId ||
    (market.workerProfiles.find? job.workerProfileId).any fun profile => profile.userId = userId

def conversationSummary (userId : UserId) (updatedAt : JobId → Time) (inbox : Inbox)
    (job : Job) : Except ApiError ConversationSummary := do
  let access ← resolveConversationAccess job userId inbox.store
  let ofJob := (inbox.messages.findMany fun message => message.jobId = job.id).mergeSort
    fun left right => right.isInOrder left
  let unread := ofJob.filter fun message =>
    message.recipientUserId = userId && message.readAt.isNone
  pure
    { conversation := conversationDto access
      unreadCount := unread.length
      latestMessage := ofJob.head?
      lastActivityAt := (ofJob.head?.map JobMessage.createdAt).getD (updatedAt job.id) }

/-- `updatedAt` is when the database has last changed the row of a job. -/
def listMine (userId : UserId) (updatedAt : JobId → Time) (inbox : Inbox) :
    Except ApiError (List ConversationSummary) := do
  let jobs := ((inbox.store.jobs.findMany (isPartyOf userId inbox.store.market)).mergeSort
    fun left right => updatedAt right.id ≤ updatedAt left.id).take 50
  let summaries ← jobs.mapM (conversationSummary userId updatedAt inbox)
  pure (summaries.mergeSort fun left right => right.lastActivityAt ≤ left.lastActivityAt)

/-! ## Uploads -/

inductive UploadError where
  | api (error : ApiError)
  /-- an `Error` which is no exception of the framework -/
  | internal (message : String)
  deriving DecidableEq, Repr

/-- `StorageService`: the URL it signs for a key, a content type and a lifetime, once it is
configured. -/
abbrev StorageService := Option (String → String → Int → String)

structure IssuedUpload where
  url : String
  key : String
  expiresAt : Time
  contentType : String
  sizeBytes : Int
  maxSizeBytes : Int

def createUploadPresign (jobId : JobId) (userId : UserId) (dto : PresignUploadDto)
    (storageService : Option StorageService) (uuid : String) (now : Time) (inbox : Inbox) :
    Except UploadError IssuedUpload := do
  let access ← (getConversationOrThrow jobId userId inbox.store).mapError .api
  if access.contactUnlocked = false then
    throw (.api (.forbidden "Contact not unlocked for uploads"))
  if access.job.status = .canceled then
    throw (.api (.conflict "Canceled jobs are no longer open for uploads"))
  match storageService with
  | none => throw (.internal "Storage service not available")
  | some storage =>
      let upload ← (buildMessageAttachmentUpload dto (renderId jobId) (renderId userId)
        uuid).mapError .api
      match storage with
      | none => throw (.internal "Storage not configured")
      | some getSignedUrl =>
          pure
            { url := getSignedUrl upload.key upload.contentType upload.expiresIn
              key := upload.key
              expiresAt := now + upload.expiresIn * 1000
              contentType := upload.contentType
              sizeBytes := upload.sizeBytes
              maxSizeBytes := upload.maxSizeBytes }

/-! ## Messages -/

inductive Moderation where
  | clear | warning | blocked
  deriving DecidableEq, Repr

structure CreateJobMessageDto where
  content : String
  attachments : List AttachmentReference

inductive SendReply where
  | moderated (moderation : Moderation)
  | sent (message : JobMessage)

/-- The message with its attachments, all of which are validated. -/
def draftMessage (access : AccessibleConversation) (userId : UserId) (content : String)
    (dto : CreateJobMessageDto) (now : Time) (id : Nat) : Except ApiError JobMessage := do
  let references ← (dto.attachments.take 6).mapM fun attachment =>
    validateMessageAttachmentReference attachment (renderId access.job.id) (renderId userId)
  pure
    { id := id
      jobId := access.job.id
      senderUserId := userId
      recipientUserId := access.counterpart.id
      content := content
      createdAt := now
      readAt := none
      attachments := references.map fun reference => ⟨reference, userId⟩ }

/-- What `send` does if it does not throw; `moderation` is what `TrustSafetyService` makes
of the message. -/
def sendGate (jobId : JobId) (userId : UserId) (dto : CreateJobMessageDto)
    (moderation : Moderation) (now : Time) (inbox : Inbox) : Except ApiError SendReply := do
  let content := trim dto.content
  guardThat (content ≠ "") (.badRequest "content should not be empty")
  let access ← getConversationOrThrow jobId userId inbox.store
  guardThat (access.job.status ≠ .canceled)
    (.conflict "Canceled jobs are no longer open for new messages")
  if moderation = .clear then
    let message ← draftMessage access userId content dto now inbox.messages.nextId
    pure (.sent message)
  else
    pure (.moderated moderation)

def send (jobId : JobId) (userId : UserId) (dto : CreateJobMessageDto)
    (moderation : Moderation) (now : Time) (inbox : Inbox) :
    Except ApiError SendReply × Inbox :=
  match sendGate jobId userId dto moderation now inbox with
  | .ok (.sent message) =>
      (.ok (.sent message), { inbox with messages := inbox.messages.place message })
  | reply => (reply, inbox)

def readMessage (now : Time) (message : JobMessage) : JobMessage :=
  { message with readAt := some now }

def markJobRead (jobId : JobId) (userId : UserId) (now : Time) (inbox : Inbox) :
    Except ApiError Nat × Inbox :=
  match getConversationOrThrow jobId userId inbox.store with
  | .error error => (.error error, inbox)
  | .ok _ =>
      let unread := fun message : JobMessage =>
        message.jobId = jobId && message.recipientUserId = userId && message.readAt.isNone
      (.ok (inbox.messages.findMany unread).length,
        { inbox with
          messages := inbox.messages.updateMany unread (readMessage now) fun _ => rfl })

/-! ## Operations -/

/-- An operation on the store or on its messages. -/
inductive InboxOperation where
  | store (operation : Operation)
  | send (jobId : JobId) (userId : UserId) (dto : CreateJobMessageDto)
      (moderation : Moderation) (now : Time)
  | markJobRead (jobId : JobId) (userId : UserId) (now : Time)

def InboxOperation.perform (inbox : Inbox) : InboxOperation → Inbox
  | .store operation => { inbox with store := operation.perform inbox.store }
  | .send jobId userId dto moderation now =>
      (Contact.send jobId userId dto moderation now inbox).2
  | .markJobRead jobId userId now => (Contact.markJobRead jobId userId now inbox).2

/-- The inbox as a machine over its operations. -/
def conversations : Machine Inbox InboxOperation where
  step := InboxOperation.perform

/-- Before the first selection there are no jobs and no messages. -/
def Inbox.initial (market : Marketplace) : Inbox where
  store := .initial market
  messages := .empty

end Tchuno.Contact
