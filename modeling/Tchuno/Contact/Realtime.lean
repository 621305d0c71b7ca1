import Tchuno.Contact.ProtectedChat
import Tchuno.Library.Broker
import Tchuno.Library.Json
import Tchuno.Requests.Parties

/-!
# The realtime gateway

A socket which shows the token of a user is put into the room of that user.  Every message
which is stored is emitted to the rooms of its two parties.
-/

namespace Tchuno.Contact

open Tchuno.Library Tchuno.Library.Action Tchuno.Library.Ecma Tchuno.Payments Tchuno.Requests
  Tchuno.TrustSafety

/-! ## Connections -/

/-- The part of a handshake which the gateway reads. -/
structure Handshake where
  auth : Json
  authorization : Option String

def extractAuthHeader (handshake : Handshake) : Option String :=
  handshake.authorization.bind fun header =>
    if "Bearer ".toList <+: header.toList then
      ((header.toList.splitOn ' ')[1]?).map String.ofList
    else
      some header

def extractSocketToken (handshake : Handshake) : Option String :=
  match handshake.auth.member? "token" with
  | some (.string token) =>
      if trim token ≠ "" then some token else extractAuthHeader handshake
  | _ => extractAuthHeader handshake

def extractUserId (payload : Json) : Option String :=
  match payload.member? "sub" with
  | some (.string subject) => if trim subject = "" then none else some subject
  | _ => none

def roomForUser (userId : String) : String :=
  "user:" ++ userId

/-- The user a socket is let in as; every other socket is disconnected.  An empty token is
none. -/
def handleConnection (verify : String → Time → Except String Json) (handshake : Handshake)
    (now : Time) : Option String :=
  ((extractSocketToken handshake).filter fun token => token ≠ "").bind fun token =>
    match verify token now with
    | .ok payload => extractUserId payload
    | .error _ => none

abbrev MessageSignal := Broker.Signal String JobMessage

/-- `message.created` is the only event there is. -/
def emitToUsers (payload : JobMessage) (userIds : List UserId) : List MessageSignal :=
  userIds.map fun userId => .emit (roomForUser (renderId userId)) payload

/-! ## Chats with sockets -/

structure LiveChat where
  chat : ProtectedInbox
  sockets : Broker String JobMessage

def LiveChat.messages (live : LiveChat) : Table JobMessage :=
  live.chat.inbox.messages

def LiveChat.store (live : LiveChat) : Store :=
  live.chat.inbox.store

inductive ChatEvent where
  | market (operation : MarketOperation)
  | send (jobId : JobId) (userId : UserId) (dto : CreateJobMessageDto) (now : Time)
  | markJobRead (jobId : JobId) (userId : UserId) (now : Time)
  | connect (handshake : Handshake) (now : Time)
  | disconnect (socket : Nat)

section Chat

variable (verify : String → Time → Except String Json) (localeString : Time → String)

def ChatEvent.perform (chat : ProtectedInbox) : ChatEvent → ProtectedInbox
  | .market operation =>
      { chat with
        inbox := { chat.inbox with store := operation.perform chat.inbox.store } }
  | .send jobId userId dto now => (sendProtected localeString jobId userId dto now chat).2
  | .markJobRead jobId userId now =>
      { chat with inbox := (Contact.markJobRead jobId userId now chat.inbox).2 }
  | .connect .. | .disconnect _ => chat

/-- What an event tells the sockets. -/
def ChatEvent.signals (live : LiveChat) : ChatEvent → List MessageSignal
  | .market _ | .markJobRead .. => []
  | .send jobId userId dto now =>
      match (sendProtected localeString jobId userId dto now live.chat).1 with
      | .ok (.sent message) =>
          emitToUsers message [message.recipientUserId, message.senderUserId]
      | _ => []
  | .connect handshake now =>
      match handleConnection verify handshake now with
      | some userId => [.connect, .join live.sockets.next (roomForUser userId)]
      | none => [.connect, .disconnect live.sockets.next]
  | .disconnect socket => [.disconnect socket]

def liveChat : Machine LiveChat ChatEvent where
  step live event :=
    { chat := event.perform localeString live.chat
      sockets := Broker.machine.run live.sockets (event.signals verify localeString live) }

end Chat

/-- No job, no message and no socket. -/
def LiveChat.initial : LiveChat where
  chat := ⟨⟨emptyStore, .empty⟩, .empty⟩
  sockets := .initial

/-! ## What is sent -/

section Sent

variable {localeString : Time → String} {jobId : JobId} {userId : UserId}
  {dto : CreateJobMessageDto} {now : Time} {chat : ProtectedInbox}

theorem sendGate_sent {moderation : Moderation} {inbox : Inbox} {message : JobMessage}
    (passed : sendGate jobId userId dto moderation now inbox = .ok (.sent message)) :
    ∃ access, sendAccess jobId userId dto inbox.store = .ok access ∧
      draftMessage access userId (trim dto.content) dto now inbox.messages.nextId =
        .ok message := by
  rw [sendGate_eq, gate_bind_eq_ok] at passed
  obtain ⟨access, granted, written⟩ := passed
  refine ⟨access, granted, ?_⟩
  split_ifs at written with clear
  · rw [gate_bind_eq_ok] at written
    obtain ⟨draft, drafted, same⟩ := written
    rw [gate_pure_eq_ok, SendReply.sent.injEq] at same
    rw [drafted, same]
  · rw [gate_pure_eq_ok] at written
    cases written

/-- A message is stored as it is answered, or nothing is. -/
theorem sendProtected_cases :
    (∃ access message, sendAccess jobId userId dto chat.inbox.store = .ok access ∧
      draftMessage access userId (trim dto.content) dto now chat.inbox.messages.nextId =
        .ok message ∧
      (sendProtected localeString jobId userId dto now chat).1 = .ok (.sent message) ∧
      (sendProtected localeString jobId userId dto now chat).2.inbox =
        { chat.inbox with messages := chat.inbox.messages.place message }) ∨
    ((∀ message, (sendProtected localeString jobId userId dto now chat).1 ≠
        .ok (.sent message)) ∧
      (sendProtected localeString jobId userId dto now chat).2.inbox = chat.inbox) := by
  cases granted : sendAccess jobId userId dto chat.inbox.store with
  | error error =>
      right
      simp [sendProtected, granted]
  | ok access =>
      unfold sendProtected send
      simp only [granted]
      generalize verdict (evaluateMessageAttempt localeString
        (moderationInput access userId (trim dto.content)) now chat.interventions).1 = moderation
      cases reply : sendGate jobId userId dto moderation now chat.inbox with
      | error error =>
          right
          simp
      | ok answer =>
          cases answer with
          | moderated moderation =>
              right
              simp
          | sent message =>
              left
              obtain ⟨same, granted', drafted⟩ := sendGate_sent reply
              rw [granted] at granted'
              cases granted'
              exact ⟨access, message, rfl, drafted, rfl, rfl⟩

end Sent

/-! ## The two parties -/

/-- No call of the marketplace takes a job away or changes its parties. -/
theorem jobs_evolve_perform {store : Store} (parties : Parties store)
    (operation : MarketOperation) :
    Table.Evolves Job.fixed store.jobs (operation.perform store).jobs := by
  have lasting : IsLasting fun later => later.jobs = store.jobs := fun _ _ _ same => same
  have kept : ∀ {jobs : Table Job}, jobs = store.jobs →
      Table.Evolves Job.fixed store.jobs jobs := by
    intro jobs same
    rw [same]
    exact Table.Evolves.refl _ _
  have booked : ∀ operation : Operation,
      Table.Evolves Job.fixed store.jobs (operation.perform store).jobs := by
    intro operation
    have runs := perform_books parties.1.toForeignKeys operation
    have evolved : Table.Evolves Job.fixed store.toBooks.jobs
        (bookkeeping.run store.toBooks (operation.movements store)).jobs :=
      bookkeeping.run_preserves (fun books => Table.Evolves Job.fixed store.toBooks.jobs books.jobs)
        (fun books movement evolved => evolved.trans (movement.jobs_evolve books))
        (Table.Evolves.refl _ _) _
    rw [← runs] at evolved
    exact evolved
  cases operation with
  | create expiryHours actorUserId dto now =>
      exact kept (create_preserves lasting _ _ _ _ store rfl)
  | recreate expiryHours actorUserId requestId dto now =>
      exact kept (recreate_preserves lasting _ _ _ _ _ store rfl)
  | update actorUserId requestId dto now =>
      exact kept (update_preserves lasting _ _ _ _ store rfl)
  | getMineById actorUserId requestId now =>
      exact kept (getMineById_preserves lasting _ _ _ store rfl)
  | listRequestInvitations requestId actorUserId now =>
      exact kept (listRequestInvitations_preserves lasting _ _ _ store rfl)
  | createInvitation requestId actorUserId providerUserId now =>
      exact kept (createInvitation_preserves lasting _ _ _ _ store rfl)
  | listMineInvitations actorUserId now =>
      exact kept (listMineInvitations_preserves lasting _ _ store rfl)
  | declineInvitation invitationId actorUserId now =>
      exact kept (declineInvitation_preserves lasting _ _ _ store rfl)
  | submitProposal requestId actorUserId dto now =>
      exact kept (submitProposal_preserves lasting _ _ _ _ store rfl)
  | expireStaleOpenRequests now =>
      exact kept (expireStaleOpenRequests_preserves lasting _ store rfl)
  | selectProposal policy requestId proposalId actorUserId depositPercent now =>
      exact booked (.selectProposal policy requestId proposalId actorUserId depositPercent now)
  | upsertMe userId isAvailable =>
      exact Table.Evolves.refl _ _
  | payment operation call =>
      exact booked operation
  | others users categories =>
      exact Table.Evolves.refl _ _

/-- The message is from one party of the job to the other one. -/
def Between (message : JobMessage) (job : Job) : Prop :=
  (message.senderUserId = job.clientId ∧ job.providerId = some message.recipientUserId) ∨
    (job.providerId = some message.senderUserId ∧ message.recipientUserId = job.clientId)

section Access

variable {store : Store} {job : Job} {userId : UserId} {access : AccessibleConversation}

/-- Access is for the client, who writes to the provider, or the other way round. -/
theorem access_parties (parties : Requests.JobParties store.market job)
    (resolved : resolveConversationAccess job userId store = .ok access) :
    access.job = job ∧
      ((userId = job.clientId ∧ job.providerId = some access.counterpart.id) ∨
        (job.providerId = some userId ∧ access.counterpart.id = job.clientId)) := by
  obtain ⟨profile, foundProfile, provides⟩ := parties.profile
  simp only [resolveConversationAccess, jobParties, gate_bind_eq_ok, orThrow_eq_ok,
    guardThat_eq_ok, gate_pure_eq_ok] at resolved
  obtain ⟨_, ⟨client, foundClient, _, foundSame, user, foundUser, rfl⟩, _, permitted, rfl⟩ :=
    resolved
  rw [foundProfile, Option.some.injEq] at foundSame
  subst foundSame
  have clientKey : client.id = job.clientId := store.market.users.key_of_find? foundClient
  have userKey : user.id = profile.userId := store.market.users.key_of_find? foundUser
  have provider : ((job.providerId.bind store.market.users.find?).getD user).id =
      profile.userId := by
    rw [provides, Option.bind_some, foundUser]
    exact userKey
  have customer : ((job.customerId.bind store.market.users.find?).getD client).id =
      job.clientId := by
    rw [parties.customer, Option.bind_some, foundClient]
    exact clientKey
  refine ⟨rfl, ?_⟩
  rw [parties.customer, Option.some.injEq, or_self, provider] at permitted
  have asks : (job.clientId = userId ∨ job.customerId = some userId) ↔ job.clientId = userId := by
    rw [parties.customer, Option.some.injEq, or_self]
  by_cases isCustomer : job.clientId = userId
  · left
    simp only [asks, if_pos isCustomer]
    exact ⟨isCustomer.symm, provides.trans (congrArg some provider.symm)⟩
  · right
    simp only [asks, if_neg isCustomer]
    exact ⟨provides.trans (congrArg some (permitted.resolve_left isCustomer)), customer⟩

end Access

section Steps

variable (verify : String → Time → Except String Json) (localeString : Time → String)
  (live : LiveChat) (jobId : JobId) (userId : UserId) (now : Time)

theorem inbox_send (dto : CreateJobMessageDto) :
    ((liveChat verify localeString).step live (.send jobId userId dto now)).chat.inbox =
      (sendProtected localeString jobId userId dto now live.chat).2.inbox := rfl

theorem inbox_markJobRead :
    ((liveChat verify localeString).step live (.markJobRead jobId userId now)).chat.inbox =
      (markJobRead jobId userId now live.chat.inbox).2 := rfl

theorem sockets_step (event : ChatEvent) :
    ((liveChat verify localeString).step live event).sockets =
      Broker.machine.run live.sockets (event.signals verify localeString live) := rfl

end Steps

/-- What holds of the chats and the sockets at any time. -/
structure LiveChat.Sound (live : LiveChat) : Prop where
  parties : Parties live.store
  messages : ∀ message ∈ live.messages, ∃ job,
    live.store.jobs.find? message.jobId = some job ∧ Between message job
  numbered : live.sockets.Numbered

section Sound

variable {verify : String → Time → Except String Json} {localeString : Time → String}

theorem between_congr {message : JobMessage} {job old : Job} (same : job.fixed = old.fixed)
    (between : Between message old) : Between message job := by
  have client := field_eq same Job.clientId fun _ => rfl
  have provider := field_eq same Job.providerId fun _ => rfl
  unfold Between
  rw [client, provider]
  exact between

/-- The draft of a message goes from one party to the other. -/
theorem draft_between {store : Store} (parties : Parties store) {jobId : JobId} {userId : UserId}
    {dto : CreateJobMessageDto} {access : AccessibleConversation} {now : Time} {number : Nat}
    {message : JobMessage} (granted : sendAccess jobId userId dto store = .ok access)
    (drafted : draftMessage access userId (trim dto.content) dto now number = .ok message) :
    ∃ job, store.jobs.find? message.jobId = some job ∧ Between message job := by
  simp only [sendAccess, getConversationOrThrow, gate_bind_eq_ok, orThrow_eq_ok,
    guardThat_eq_ok, gate_pure_eq_ok] at granted
  obtain ⟨_, _, opened, ⟨job, found, resolved⟩, _, _, rfl⟩ := granted
  obtain ⟨sameJob, sides⟩ :=
    access_parties (parties.2.jobs job (store.jobs.mem_of_find? found)) resolved
  rw [(draftMessage_eq_ok.mp drafted).2]
  refine ⟨job, ?_, sides⟩
  change store.jobs.find? opened.job.id = some job
  rw [sameJob]
  exact store.jobs.find?_key found

theorem signals_known (live : LiveChat) (event : ChatEvent) :
    Broker.machine.Along (fun broker signal => signal.Known broker) live.sockets
      (event.signals verify localeString live) := by
  cases event with
  | market operation =>
      trivial
  | markJobRead jobId userId now =>
      trivial
  | send jobId userId dto now =>
      simp only [ChatEvent.signals]
      split
      · exact ⟨trivial, trivial, trivial⟩
      · trivial
  | connect handshake now =>
      simp only [ChatEvent.signals]
      split
      · exact ⟨trivial, Nat.lt_succ_self _, trivial⟩
      · exact ⟨trivial, trivial, trivial⟩
  | disconnect socket =>
      exact ⟨trivial, trivial⟩

theorem LiveChat.Sound.step {live : LiveChat} (sound : live.Sound) (event : ChatEvent) :
    ((liveChat verify localeString).step live event).Sound where
  parties := by
    cases event with
    | market operation =>
        exact parties_perform sound.parties operation
    | send jobId userId dto now =>
        rw [LiveChat.store, inbox_send]
        rcases @sendProtected_cases localeString jobId userId dto now live.chat with
          ⟨_, _, _, _, _, stored⟩ | ⟨_, stored⟩ <;> rw [stored] <;> exact sound.parties
    | markJobRead jobId userId now =>
        rw [LiveChat.store, inbox_markJobRead]
        unfold markJobRead
        split <;> exact sound.parties
    | connect handshake now =>
        exact sound.parties
    | disconnect socket =>
        exact sound.parties
  messages := by
    cases event with
    | market operation =>
        intro message member
        obtain ⟨old, found, between⟩ := sound.messages message member
        obtain ⟨job, foundJob, same⟩ := jobs_evolve_perform sound.parties operation _ old found
        exact ⟨job, foundJob, between_congr same between⟩
    | send jobId userId dto now =>
        simp only [LiveChat.messages, LiveChat.store, inbox_send]
        rcases @sendProtected_cases localeString jobId userId dto now live.chat with
          ⟨access, message, granted, drafted, _, stored⟩ | ⟨_, stored⟩
        · rw [stored]
          intro other member
          rcases Table.eq_or_mem_of_place member with rfl | old
          · exact draft_between sound.parties granted drafted
          · exact sound.messages other old
        · rw [stored]
          exact sound.messages
    | markJobRead jobId userId now =>
        simp only [LiveChat.messages, LiveChat.store, inbox_markJobRead]
        unfold markJobRead
        split
        · exact sound.messages
        · intro message member
          obtain ⟨old, oldMember, rfl⟩ :=
            (Table.mem_updateMany _ _ (readMessage now) fun _ => rfl).mp member
          obtain ⟨job, found, between⟩ := sound.messages old oldMember
          split_ifs
          · exact ⟨job, found, between⟩
          · exact ⟨job, found, between⟩
    | connect handshake now =>
        exact sound.messages
    | disconnect socket =>
        exact sound.messages
  numbered := sound.numbered.run (signals_known live event)

theorem LiveChat.sound_initial : LiveChat.initial.Sound where
  parties := emptyStore_parties
  messages := fun message member => absurd member (Table.not_mem_empty message)
  numbered := Broker.numbered_initial

theorem LiveChat.sound_run (events : List ChatEvent) :
    ((liveChat verify localeString).run .initial events).Sound :=
  (liveChat verify localeString).run_preserves LiveChat.Sound
    (fun _ event sound => sound.step event) sound_initial events

end Sound

/-! ## The feed of a socket -/

/-- The message as it was when it was sent. -/
def JobMessage.asSent (message : JobMessage) : JobMessage :=
  { message with readAt := none }

/-- One of the two parties is the user of this room. -/
def JobMessage.concerns (room : String) (message : JobMessage) : Bool :=
  room = roomForUser (renderId message.recipientUserId) ||
    room = roomForUser (renderId message.senderUserId)

theorem roomForUser_inj {left right : UserId} :
    roomForUser (renderId left) = roomForUser (renderId right) ↔ left = right := by
  refine ⟨fun same => Nat.repr_inj.mp ((String.append_right_inj _).mp same), fun same => ?_⟩
  rw [same]

/-- The messages of the room which are stored from this number on, oldest first. -/
def storedSince (start : Nat) (room : String) (messages : Table JobMessage) : List JobMessage :=
  (messages.findMany fun message => start ≤ message.id && message.concerns room).reverse

/-- The socket is in this room, and has received what was stored since it came. -/
structure LiveChat.Follows (start socket : Nat) (room : String) (live : LiveChat) : Prop where
  rooms : live.sockets.rooms socket = [room]
  started : start ≤ live.messages.nextId
  feed : (live.sockets.received socket).map JobMessage.asSent =
    (storedSince start room live.messages).map JobMessage.asSent

section Feed

variable {verify : String → Time → Except String Json} {localeString : Time → String}
  {start socket : Nat} {room : String} {live : LiveChat}

/-- A message is heard once by whom it concerns. -/
theorem heard_message {message : JobMessage}
    (apart : message.recipientUserId ≠ message.senderUserId) :
    Broker.heard [room]
        (emitToUsers message [message.recipientUserId, message.senderUserId]) =
      if message.concerns room then [message] else [] := by
  have rooms : roomForUser (renderId message.recipientUserId) ≠
      roomForUser (renderId message.senderUserId) := fun same => apart (roomForUser_inj.mp same)
  simp only [emitToUsers, List.map_cons, List.map_nil]
  by_cases recipient : room = roomForUser (renderId message.recipientUserId)
  · rw [Broker.heard_emit_of_mem (by simp [recipient]),
      Broker.heard_emit_of_notMem (by simpa [recipient] using rooms.symm)]
    simp [JobMessage.concerns, recipient]
  · rw [Broker.heard_emit_of_notMem (by simpa using Ne.symm recipient)]
    by_cases sender : room = roomForUser (renderId message.senderUserId)
    · rw [Broker.heard_emit_of_mem (by simp [sender])]
      simp [JobMessage.concerns, sender]
    · rw [Broker.heard_emit_of_notMem (by simpa using Ne.symm sender)]
      simp [JobMessage.concerns, recipient, sender]

theorem between_apart {market : Marketplace} {message : JobMessage} {job : Job}
    (parties : Requests.JobParties market job) (between : Between message job) :
    message.recipientUserId ≠ message.senderUserId := by
  intro same
  rcases between with ⟨sender, recipient⟩ | ⟨sender, recipient⟩
  · rw [same, sender] at recipient
    exact parties.different recipient
  · rw [← same, recipient] at sender
    exact parties.different sender

/-- No signal moves a socket which stays. -/
theorem signals_still (sound : live.Sound) (follows : live.Follows start socket room)
    {event : ChatEvent} (stays : event ≠ .disconnect socket) :
    ∀ signal ∈ event.signals verify localeString live, ¬ signal.Moves socket := by
  have known : socket < live.sockets.next := by
    by_contra absent
    have noRooms := (sound.numbered socket (Nat.le_of_not_lt absent)).1
    rw [follows.rooms] at noRooms
    cases noRooms
  have older : live.sockets.next ≠ socket := Nat.ne_of_gt known
  intro signal member
  cases event with
  | market operation =>
      cases member
  | markJobRead jobId userId now =>
      cases member
  | send jobId userId dto now =>
      simp only [ChatEvent.signals] at member
      split at member
      · obtain ⟨_, _, rfl⟩ := List.mem_map.mp member
        exact id
      · cases member
  | connect handshake now =>
      simp only [ChatEvent.signals] at member
      split at member <;> simp only [List.mem_cons, List.not_mem_nil, or_false] at member <;>
        rcases member with rfl | rfl
      · exact id
      · exact older
      · exact id
      · exact older
  | disconnect other =>
      rw [List.mem_singleton.mp member]
      intro same
      exact stays (congrArg ChatEvent.disconnect same)

/-- Reading messages changes nothing of what was sent. -/
theorem storedSince_read (messages : Table JobMessage) (accept : JobMessage → Bool)
    (now : Time) :
    (storedSince start room (messages.updateMany accept (readMessage now) fun _ => rfl)).map
        JobMessage.asSent =
      (storedSince start room messages).map JobMessage.asSent := by
  have sameSent : ∀ message : JobMessage,
      (if accept message then readMessage now message else message).asSent = message.asSent := by
    intro message
    split_ifs <;> rfl
  have sameChosen : ∀ message : JobMessage,
      (decide (start ≤ (if accept message then readMessage now message else message).id) &&
        (if accept message then readMessage now message else message).concerns room) =
      (decide (start ≤ message.id) && message.concerns room) := by
    intro message
    split_ifs <;> rfl
  simp only [storedSince, Table.findMany, Table.updateMany, List.filter_map, List.map_reverse,
    List.map_map, Function.comp_def, sameSent, sameChosen]

theorem rows_place {messages : Table JobMessage} {message : JobMessage}
    (next : message.id = messages.nextId) :
    (messages.place message).rows = message :: messages.rows := by
  have unused : messages.find? (Keyed.key message) = none := by
    change messages.find? message.id = none
    rw [next]
    exact messages.find?_nextId
  rw [Table.place, dif_pos unused]

/-- A message which is sent is the last one of its rooms. -/
theorem storedSince_place {messages : Table JobMessage} {message : JobMessage}
    (next : message.id = messages.nextId) (started : start ≤ messages.nextId) :
    storedSince start room (messages.place message) =
      storedSince start room messages ++ if message.concerns room then [message] else [] := by
  have late : start ≤ message.id := next ▸ started
  simp only [storedSince, Table.findMany, rows_place next]
  by_cases chosen : message.concerns room
  · rw [List.filter_cons_of_pos (by simp [late, chosen]), List.reverse_cons, if_pos chosen]
  · rw [List.filter_cons_of_neg (by simp [chosen]), if_neg chosen, List.append_nil]

/-- What an event lets a socket hear is what it stores for its room. -/
theorem heard_stored (sound : live.Sound) (started : start ≤ live.messages.nextId)
    (event : ChatEvent) :
    (storedSince start room ((liveChat verify localeString).step live event).messages).map
        JobMessage.asSent =
      (storedSince start room live.messages ++
        Broker.heard [room] (event.signals verify localeString live)).map JobMessage.asSent := by
  cases event with
  | market operation =>
      exact congrArg (List.map JobMessage.asSent) (List.append_nil _).symm
  | send jobId userId dto now =>
      simp only [LiveChat.messages, inbox_send, ChatEvent.signals]
      rcases @sendProtected_cases localeString jobId userId dto now live.chat with
        ⟨access, message, granted, drafted, answered, stored⟩ | ⟨nothing, stored⟩
      · obtain ⟨job, found, between⟩ := draft_between sound.parties granted drafted
        have parties := sound.parties.2.jobs job (live.store.jobs.mem_of_find? found)
        rw [stored, answered, heard_message (between_apart parties between)]
        exact congrArg _ (storedSince_place (draft_id drafted) started)
      · rw [stored]
        split
        · exact absurd ‹_› (nothing _)
        · exact congrArg (List.map JobMessage.asSent) (List.append_nil _).symm
  | markJobRead jobId userId now =>
      simp only [LiveChat.messages, inbox_markJobRead, ChatEvent.signals, Broker.heard_nil,
        List.append_nil]
      unfold markJobRead
      split
      · rfl
      · exact storedSince_read _ _ now
  | connect handshake now =>
      simp only [ChatEvent.signals]
      split <;> exact congrArg (List.map JobMessage.asSent) (List.append_nil _).symm
  | disconnect other =>
      exact congrArg (List.map JobMessage.asSent) (List.append_nil _).symm

theorem LiveChat.started_step (started : start ≤ live.messages.nextId) (event : ChatEvent) :
    start ≤ ((liveChat verify localeString).step live event).messages.nextId := by
  cases event with
  | send jobId userId dto now =>
      rw [LiveChat.messages, inbox_send]
      rcases @sendProtected_cases localeString jobId userId dto now live.chat with
        ⟨access, message, granted, drafted, answered, stored⟩ | ⟨nothing, stored⟩
      · rw [stored]
        refine started.trans ?_
        change live.messages.nextId ≤ (live.messages.place message).nextId
        unfold Table.place
        split_ifs
        · exact Nat.le_max_left _ _
        · exact Nat.le_refl _
      · rw [stored]
        exact started
  | markJobRead jobId userId now =>
      rw [LiveChat.messages, inbox_markJobRead]
      unfold markJobRead
      split <;> exact started
  | _ =>
      exact started

theorem LiveChat.Follows.step (sound : live.Sound) (follows : live.Follows start socket room)
    {event : ChatEvent} (stays : event ≠ .disconnect socket) :
    ((liveChat verify localeString).step live event).Follows start socket room := by
  obtain ⟨rooms, received⟩ := Broker.run_of_still
    (@signals_still verify localeString _ _ _ _ sound follows _ stays)
  refine ⟨rooms.trans follows.rooms, LiveChat.started_step follows.started event, ?_⟩
  rw [sockets_step, received, follows.rooms, List.map_append, follows.feed,
    heard_stored sound follows.started, List.map_append]

theorem LiveChat.Follows.run (sound : live.Sound) (follows : live.Follows start socket room)
    {events : List ChatEvent} (stays : ∀ event ∈ events, event ≠ .disconnect socket) :
    ((liveChat verify localeString).run live events).Follows start socket room := by
  induction events generalizing live with
  | nil =>
      exact follows
  | cons event rest inductionHypothesis =>
      obtain ⟨first, later⟩ := List.forall_mem_cons.mp stays
      exact inductionHypothesis (sound.step event) (follows.step sound first) later

/-- A socket which is let in follows its room from then on. -/
theorem LiveChat.follows_connect (sound : live.Sound) {handshake : Handshake} {now : Time}
    {user : String} (admitted : handleConnection verify handshake now = some user) :
    ((liveChat verify localeString).step live (.connect handshake now)).Follows
      live.messages.nextId live.sockets.next (roomForUser user) := by
  obtain ⟨noRooms, nothing⟩ := sound.numbered live.sockets.next (Nat.le_refl _)
  have told : ChatEvent.signals verify localeString live (.connect handshake now) =
      [.connect, .join live.sockets.next (roomForUser user)] := by
    simp only [ChatEvent.signals, admitted]
  have none : storedSince live.messages.nextId (roomForUser user) live.messages = [] := by
    rw [storedSince, List.reverse_eq_nil_iff, Table.findMany, List.filter_eq_nil_iff]
    intro message member chosen
    have older := live.messages.key_lt_nextId member
    have newer := of_decide_eq_true (Bool.and_eq_true_iff.mp chosen).1
    exact absurd older (Nat.not_lt.mpr newer)
  refine ⟨?_, Nat.le_refl _, ?_⟩
  · rw [sockets_step, told]
    change Function.update live.sockets.rooms live.sockets.next
      (roomForUser user :: live.sockets.rooms live.sockets.next) live.sockets.next = _
    rw [Function.update_self, noRooms]
  · rw [sockets_step, told]
    change (live.sockets.received live.sockets.next).map _ =
      (storedSince live.messages.nextId (roomForUser user) live.messages).map _
    rw [none, nothing]

end Feed

/-! ## The order of messages -/

def ChatEvent.sentAt? : ChatEvent → Option Time
  | .send _ _ _ now => some now
  | _ => none

/-- The clock does not run backwards from one call of `send` to the next. -/
def ClockRuns (events : List ChatEvent) : Prop :=
  (events.filterMap ChatEvent.sentAt?).Pairwise (· ≤ ·)

/-- The newest messages are in front, and each has the time of a call. -/
structure Chronological (times : List Time) (messages : Table JobMessage) : Prop where
  ordered : messages.rows.Pairwise fun later earlier => earlier.isInOrder later = true
  dated : ∀ message ∈ messages, message.createdAt ∈ times

section Order

variable {verify : String → Time → Except String Json} {localeString : Time → String}
  {times : List Time} {messages : Table JobMessage}

theorem isInOrder_iff {left right : JobMessage} :
    left.isInOrder right = true ↔ left.createdAt < right.createdAt ∨
      left.createdAt = right.createdAt ∧ left.id ≤ right.id := by
  simp [JobMessage.isInOrder]

theorem isInOrder_trans (first second third : JobMessage)
    (before : first.isInOrder second = true) (after : second.isInOrder third = true) :
    first.isInOrder third = true := by
  simp only [isInOrder_iff, Time] at before after ⊢
  omega

theorem isInOrder_total (left right : JobMessage) :
    (left.isInOrder right || right.isInOrder left) = true := by
  simp only [Bool.or_eq_true, isInOrder_iff, Time]
  omega

/-- The listing shows the stored messages from the back to the front. -/
theorem Chronological.sorted (chronological : Chronological times messages)
    (accept : JobMessage → Bool) :
    (messages.findMany accept).mergeSort JobMessage.isInOrder =
      (messages.findMany accept).reverse := by
  refine List.Perm.eq_of_pairwise ?_
    (List.pairwise_mergeSort isInOrder_trans isInOrder_total _)
    (List.pairwise_reverse.mpr (chronological.ordered.filter _))
    ((List.mergeSort_perm _ _).trans (List.reverse_perm _).symm)
  intro left right isLeft isRight before after
  simp only [isInOrder_iff, Time] at before after
  have leftStored := List.mem_of_mem_filter (List.mem_mergeSort.mp isLeft)
  have rightStored := List.mem_of_mem_filter (List.mem_reverse.mp isRight)
  exact messages.eq_of_key_eq leftStored rightStored (show left.id = right.id by omega)

theorem Chronological.place (chronological : Chronological times messages)
    {message : JobMessage} (next : message.id = messages.nextId)
    (latest : ∀ time ∈ times, time ≤ message.createdAt) :
    Chronological (times ++ [message.createdAt]) (messages.place message) where
  ordered := by
    rw [rows_place next]
    refine List.pairwise_cons.mpr ⟨?_, chronological.ordered⟩
    intro old stored
    have notLater := latest _ (chronological.dated old stored)
    have older : old.id < messages.nextId := messages.key_lt_nextId stored
    simp only [isInOrder_iff, Time] at notLater ⊢
    omega
  dated := by
    intro other member
    rcases Table.eq_or_mem_of_place member with rfl | old
    · exact List.mem_append_right _ List.mem_cons_self
    · exact List.mem_append_left _ (chronological.dated other old)

theorem Chronological.read (chronological : Chronological times messages)
    (accept : JobMessage → Bool) (now : Time) :
    Chronological times (messages.updateMany accept (readMessage now) fun _ => rfl) where
  ordered := by
    refine List.pairwise_map.mpr (chronological.ordered.imp fun {later earlier} before => ?_)
    have same : (if accept earlier then readMessage now earlier else earlier).isInOrder
        (if accept later then readMessage now later else later) = earlier.isInOrder later := by
      split_ifs <;> rfl
    exact same.trans before
  dated := by
    intro message member
    obtain ⟨old, stored, rfl⟩ := (Table.mem_updateMany _ _ (readMessage now) fun _ => rfl).mp member
    have dated := chronological.dated old stored
    split_ifs <;> exact dated

theorem Chronological.mono {later : List Time} (chronological : Chronological times messages)
    (among : times ⊆ later) : Chronological later messages :=
  ⟨chronological.ordered, fun message member => among (chronological.dated message member)⟩

theorem chronological_run {events : List ChatEvent} (runs : ClockRuns events) :
    Chronological (events.filterMap ChatEvent.sentAt?)
      ((liveChat verify localeString).run .initial events).messages := by
  induction events using List.reverseRecOn with
  | nil =>
      exact ⟨.nil, fun message member => absurd member (Table.not_mem_empty message)⟩
  | append_singleton events event inductionHypothesis =>
      rw [ClockRuns, List.filterMap_append] at runs
      obtain ⟨before, _, forwards⟩ := List.pairwise_append.mp runs
      have chronological := inductionHypothesis before
      rw [Machine.run_append, List.filterMap_append]
      generalize (liveChat verify localeString).run .initial events = live at chronological ⊢
      change Chronological _ ((liveChat verify localeString).step live event).messages
      have kept := chronological.mono
        (List.subset_append_left _ ([event].filterMap ChatEvent.sentAt?))
      cases event with
      | send jobId userId dto now =>
          rw [LiveChat.messages, inbox_send]
          rcases @sendProtected_cases localeString jobId userId dto now live.chat with
            ⟨access, message, granted, drafted, _, stored⟩ | ⟨_, stored⟩
          · have sentNow : message.createdAt = now := by
              rw [(draftMessage_eq_ok.mp drafted).2]
            subst sentNow
            rw [stored]
            exact chronological.place (draft_id drafted) fun time old =>
              forwards time old _ List.mem_cons_self
          · rw [stored]
            exact kept
      | markJobRead jobId userId now =>
          rw [LiveChat.messages, inbox_markJobRead]
          unfold markJobRead
          split
          · exact kept
          · exact kept.read _ now
      | _ =>
          exact kept

end Order

/-! ## Feed and listing -/

section Listing

variable {userId : UserId} {jobId : JobId} {live : LiveChat}

theorem concerns_of_between {message : JobMessage} {job : Job} (between : Between message job)
    (party : job.clientId = userId ∨ job.providerId = some userId) :
    message.concerns (roomForUser (renderId userId)) = true := by
  simp only [JobMessage.concerns, roomForUser_inj, Bool.or_eq_true, decide_eq_true_eq]
  rcases between with ⟨sender, recipient⟩ | ⟨sender, recipient⟩
  · rcases party with client | provider
    · exact .inr (client.symm.trans sender.symm)
    · rw [provider, Option.some.injEq] at recipient
      exact .inl recipient
  · rcases party with client | provider
    · exact .inl (client.symm.trans recipient.symm)
    · rw [provider, Option.some.injEq] at sender
      exact .inr sender

theorem party_of_concerns {message : JobMessage} {job : Job} (between : Between message job)
    (concerned : message.concerns (roomForUser (renderId userId)) = true) :
    job.clientId = userId ∨ job.providerId = some userId := by
  simp only [JobMessage.concerns, roomForUser_inj, Bool.or_eq_true, decide_eq_true_eq]
    at concerned
  rcases between with ⟨sender, recipient⟩ | ⟨sender, recipient⟩ <;>
    rcases concerned with same | same
  · exact .inr (recipient.trans (congrArg some same.symm))
  · exact .inl (sender.symm.trans same.symm)
  · exact .inl (recipient.symm.trans same.symm)
  · exact .inr (sender.trans (congrArg some same.symm))

/-- Of a job which a user may list, the stored messages of the user's room are the listed
ones. -/
theorem storedSince_listed (sound : live.Sound) {times : List Time}
    (chronological : Chronological times live.messages) {TrustSafety : Type}
    {trustSafety : TrustSafety}
    {answer : JobConversation TrustSafety}
    (listed : listByJob jobId userId trustSafety live.chat.inbox = .ok answer) (start : Nat) :
    (storedSince start (roomForUser (renderId userId)) live.messages).filter
        (fun message => message.jobId = jobId) =
      answer.items.filter fun message => start ≤ message.id := by
  simp only [listByJob, gate_bind_eq_ok, gate_pure_eq_ok] at listed
  obtain ⟨access, granted, rfl⟩ := listed
  obtain ⟨job, present, sameId, resolved⟩ := getConversationOrThrow_eq_ok granted
  have sides := (access_parties (sound.parties.2.jobs job present) resolved).2
  have party : job.clientId = userId ∨ job.providerId = some userId := by
    rcases sides with client | provider
    · exact .inl client.1.symm
    · exact .inr provider.1
  change _ = ((live.messages.findMany fun message => message.jobId = jobId).mergeSort
    JobMessage.isInOrder).filter _
  rw [chronological.sorted]
  simp only [storedSince, Table.findMany, List.filter_reverse, List.filter_filter]
  refine congrArg List.reverse (List.filter_congr fun message member => ?_)
  by_cases ofJob : message.jobId = jobId
  · obtain ⟨same, found, between⟩ := sound.messages message member
    have foundJob : live.store.jobs.find? job.id = some job :=
      live.store.jobs.find?_eq_some_iff.mpr ⟨present, rfl⟩
    rw [ofJob, ← sameId, foundJob, Option.some.injEq] at found
    rw [concerns_of_between between (found ▸ party)]
    simp [ofJob]
  · simp [ofJob]

end Listing

/-- What a socket receives while it is connected as a user is, for each of the user's jobs,
what the listing of the job shows of the messages since it came, in the same order and each
once; and it receives nothing about other jobs. -/
theorem feed_is_listing (verify : String → Time → Except String Json)
    (localeString : Time → String) (TrustSafety : Type) (past during : List ChatEvent)
    (handshake : Handshake) (now : Time) (userId : UserId)
    (admitted : handleConnection verify handshake now = some (renderId userId))
    (stays : ∀ event ∈ during, event ≠
      .disconnect ((liveChat verify localeString).run .initial past).sockets.next)
    (runs : ClockRuns (past ++ .connect handshake now :: during)) :
    let joined := (liveChat verify localeString).run .initial past
    let live := (liveChat verify localeString).run .initial
      (past ++ .connect handshake now :: during)
    let feed := live.sockets.received joined.sockets.next
    (∀ jobId (trustSafety : TrustSafety) answer,
      listByJob jobId userId trustSafety live.chat.inbox = .ok answer →
      (feed.filter fun message => message.jobId = jobId).map JobMessage.asSent =
        (answer.items.filter fun message => joined.messages.nextId ≤ message.id).map
          JobMessage.asSent) ∧
    ∀ message ∈ feed, ∃ job, live.store.jobs.find? message.jobId = some job ∧
      (job.clientId = userId ∨ job.providerId = some userId) := by
  intro joined live feed
  have sound : joined.Sound := LiveChat.sound_run past
  have follows : live.Follows joined.messages.nextId joined.sockets.next
      (roomForUser (renderId userId)) := by
    have connected := @LiveChat.follows_connect verify localeString _ sound _ _ _ admitted
    have later := @LiveChat.Follows.run verify localeString _ _ _ _ (sound.step _) connected
      during stays
    rwa [← Machine.run_cons, ← Machine.run_append] at later
  have soundNow : live.Sound := LiveChat.sound_run _
  constructor
  · intro jobId trustSafety answer listed
    have ofJob : ∀ messages : List JobMessage,
        (messages.filter fun message => message.jobId = jobId).map JobMessage.asSent =
          (messages.map JobMessage.asSent).filter fun message => message.jobId = jobId := by
      intro messages
      rw [List.filter_map]
      rfl
    rw [ofJob, follows.feed, ← ofJob, storedSince_listed soundNow (chronological_run runs) listed]
  · intro message member
    have sent : message.asSent ∈ (storedSince joined.messages.nextId
        (roomForUser (renderId userId)) live.messages).map JobMessage.asSent := by
      rw [← follows.feed]
      exact List.mem_map_of_mem member
    obtain ⟨stored, storedMember, same⟩ := List.mem_map.mp sent
    have row := List.mem_filter.mp (List.mem_reverse.mp storedMember)
    obtain ⟨job, found, between⟩ := soundNow.messages stored row.1
    have sameJob : stored.asSent.jobId = message.asSent.jobId := congrArg JobMessage.jobId same
    change stored.jobId = message.jobId at sameJob
    rw [sameJob] at found
    exact ⟨job, found, party_of_concerns between (Bool.and_eq_true_iff.mp row.2).2⟩

section Sample

/-- Only one token is valid, which is of user 1. -/
def sampleVerify (token : String) (_ : Time) : Except String Json :=
  if token = "worker" then .ok (.object [("sub", .string "1")]) else .error "invalid token"

def sampleHandshake : Handshake where
  auth := .null
  authorization := some "Bearer worker"

/-- The worker hears of the greeting, reads it and answers. -/
def sampleTalk : List ChatEvent :=
  [.send 0 0 ⟨"Good morning", []⟩ 6, .markJobRead 0 1 7, .send 0 1 ⟨"Good morning to you", []⟩ 8]

theorem sampleTalk_listed :
    let joined := (liveChat sampleVerify fun _ => "").run .initial
      (sampleOperations.map ChatEvent.market)
    let live := (liveChat sampleVerify fun _ => "").run .initial
      (sampleOperations.map ChatEvent.market ++ .connect sampleHandshake 5 :: sampleTalk)
    let feed := live.sockets.received joined.sockets.next
    feed.map JobMessage.content = ["Good morning", "Good morning to you"] ∧
    (∀ jobId (trustSafety : Unit) answer,
      listByJob jobId 1 trustSafety live.chat.inbox = .ok answer →
      (feed.filter fun message => message.jobId = jobId).map JobMessage.asSent =
        (answer.items.filter fun message => joined.messages.nextId ≤ message.id).map
          JobMessage.asSent) ∧
    ∀ message ∈ feed, ∃ job, live.store.jobs.find? message.jobId = some job ∧
      (job.clientId = 1 ∨ job.providerId = some 1) :=
  ⟨by decide +kernel,
    feed_is_listing sampleVerify (fun _ => "") Unit (sampleOperations.map ChatEvent.market)
      sampleTalk sampleHandshake 5 1 (by decide +kernel) (by simp [sampleTalk])
      (by unfold ClockRuns; decide +kernel)⟩

end Sample

/-! ## Who receives anything -/

/-- The socket was let in as this user, and has not been disconnected since. -/
structure LetIn (verify : String → Time → Except String Json) (localeString : Time → String)
    (events : List ChatEvent) (socket : Nat) (user : String) (past during : List ChatEvent)
    (handshake : Handshake) (now : Time) : Prop where
  split : events = past ++ .connect handshake now :: during
  number : ((liveChat verify localeString).run .initial past).sockets.next = socket
  admitted : handleConnection verify handshake now = some user
  stays : ∀ event ∈ during, event ≠ .disconnect socket

section Receivers

variable {verify : String → Time → Except String Json} {localeString : Time → String}
  {events : List ChatEvent} {socket : Nat}

theorem LetIn.extend {user : String} {past during : List ChatEvent} {handshake : Handshake}
    {now : Time} (letIn : LetIn verify localeString events socket user past during handshake now)
    {event : ChatEvent} (stays : event ≠ .disconnect socket) :
    LetIn verify localeString (events ++ [event]) socket user past (during ++ [event]) handshake
      now where
  split := by
    rw [letIn.split, List.append_assoc, List.cons_append]
  number := letIn.number
  admitted := letIn.admitted
  stays := by
    intro other member
    rcases List.mem_append.mp member with earlier | latest
    · exact letIn.stays other earlier
    · rw [List.mem_singleton.mp latest]
      exact stays

theorem messages_nextId_le (live : LiveChat) (events : List ChatEvent) :
    live.messages.nextId ≤ ((liveChat verify localeString).run live events).messages.nextId :=
  (liveChat verify localeString).run_preserves
    (fun later => live.messages.nextId ≤ later.messages.nextId)
    (fun _ event started => LiveChat.started_step started event) (Nat.le_refl _) events

/-- Who is in a room was let in as the user of that room. -/
theorem letIn_of_room {room : String}
    (inside : room ∈ ((liveChat verify localeString).run .initial events).sockets.rooms socket) :
    ∃ user past during handshake now, room = roomForUser user ∧
      LetIn verify localeString events socket user past during handshake now := by
  induction events using List.reverseRecOn with
  | nil =>
      cases inside
  | append_singleton events event inductionHypothesis =>
      have sound := @LiveChat.sound_run verify localeString events
      have stayed : event ≠ .disconnect socket →
          room ∈ ((liveChat verify localeString).run .initial events).sockets.rooms socket →
          ∃ user past during handshake now, room = roomForUser user ∧
            LetIn verify localeString (events ++ [event]) socket user past during handshake
              now := by
        intro stays before
        obtain ⟨user, past, during, handshake, now, same, letIn⟩ := inductionHypothesis before
        exact ⟨user, past, during ++ [event], handshake, now, same, letIn.extend stays⟩
      rw [Machine.run_append] at inside
      generalize joined : (liveChat verify localeString).run .initial events = live
        at inside sound stayed
      change room ∈ (Broker.machine.run live.sockets
        (event.signals verify localeString live)).rooms socket at inside
      cases event with
      | market operation =>
          exact stayed (by simp) inside
      | markJobRead jobId userId now =>
          exact stayed (by simp) inside
      | send jobId userId dto now =>
          simp only [ChatEvent.signals] at inside
          split at inside
          · exact stayed (by simp) inside
          · exact stayed (by simp) inside
      | connect handshake now =>
          simp only [ChatEvent.signals] at inside
          by_cases newest : socket = live.sockets.next
          · cases admitted : handleConnection verify handshake now with
            | none =>
                rw [admitted] at inside
                change room ∈ Function.update live.sockets.rooms live.sockets.next [] socket
                  at inside
                rw [newest, Function.update_self] at inside
                cases inside
            | some user =>
                rw [admitted] at inside
                change room ∈ Function.update live.sockets.rooms live.sockets.next
                  (roomForUser user :: live.sockets.rooms live.sockets.next) socket at inside
                rw [newest, Function.update_self,
                  (sound.numbered live.sockets.next (Nat.le_refl _)).1] at inside
                refine ⟨user, events, [], handshake, now, List.mem_singleton.mp inside, rfl, ?_,
                  admitted, ?_⟩
                · rw [joined, newest]
                · exact List.forall_mem_nil _
          · refine stayed (by simp) ?_
            split at inside
            · change room ∈ Function.update live.sockets.rooms live.sockets.next _ socket at inside
              rwa [Function.update_of_ne newest] at inside
            · change room ∈ Function.update live.sockets.rooms live.sockets.next _ socket at inside
              rwa [Function.update_of_ne newest] at inside
      | disconnect other =>
          change room ∈ Function.update live.sockets.rooms other [] socket at inside
          by_cases same : socket = other
          · rw [same, Function.update_self] at inside
            cases inside
          · rw [Function.update_of_ne same] at inside
            exact stayed (fun equal => same (ChatEvent.disconnect.inj equal).symm) inside

/-- What a socket receives at an event is the message which the event stores, and the socket
is in the room of one of its parties. -/
theorem received_step {live : LiveChat} {event : ChatEvent} {message : JobMessage}
    (member : message ∈ ((liveChat verify localeString).step live event).sockets.received socket) :
    message ∈ live.sockets.received socket ∨
      (message.id = live.messages.nextId ∧
        message ∈ ((liveChat verify localeString).step live event).messages ∧
        ∃ room ∈ live.sockets.rooms socket, message.concerns room = true) := by
  change message ∈ (Broker.machine.run live.sockets
    (event.signals verify localeString live)).received socket at member
  cases event with
  | send jobId userId dto now =>
      have still : ∀ signal ∈ ChatEvent.signals verify localeString live
          (.send jobId userId dto now), ¬ signal.Moves socket := by
        intro signal told
        simp only [ChatEvent.signals] at told
        split at told
        · obtain ⟨_, _, rfl⟩ := List.mem_map.mp told
          exact id
        · cases told
      rw [(Broker.run_of_still still).2] at member
      refine (List.mem_append.mp member).imp_right fun heard => ?_
      simp only [ChatEvent.signals] at heard
      rcases @sendProtected_cases localeString jobId userId dto now live.chat with
        ⟨access, draft, granted, drafted, answered, stored⟩ | ⟨nothing, stored⟩
      · rw [answered] at heard
        obtain ⟨signal, told, hears⟩ := List.mem_filterMap.mp heard
        obtain ⟨receiver, receives, rfl⟩ := List.mem_map.mp told
        simp only [Option.ite_none_right_eq_some, Option.some.injEq] at hears
        obtain ⟨inside, rfl⟩ := hears
        have unused : live.messages.find? (Keyed.key draft) = none := by
          change live.messages.find? draft.id = none
          rw [draft_id drafted]
          exact live.messages.find?_nextId
        refine ⟨draft_id drafted, ?_, _, inside, ?_⟩
        · rw [LiveChat.messages, inbox_send, stored]
          exact (Table.mem_place_of_unused unused).mpr (.inl rfl)
        · simp only [List.mem_cons, List.not_mem_nil, or_false] at receives
          simp only [JobMessage.concerns, Bool.or_eq_true, decide_eq_true_eq]
          rcases receives with rfl | rfl
          · exact .inl rfl
          · exact .inr rfl
      · split at heard
        · exact absurd ‹_› (nothing _)
        · cases heard
  | connect handshake now =>
      simp only [ChatEvent.signals] at member
      split at member <;> exact .inl member
  | _ =>
      exact .inl member

end Receivers

/-- Whatever a socket receives was stored while the socket was let in as a party of it. -/
theorem received_while_let_in (verify : String → Time → Except String Json)
    (localeString : Time → String) (events : List ChatEvent) (socket : Nat) :
    ∀ message ∈ ((liveChat verify localeString).run .initial events).sockets.received socket,
      ∃ before later user past during handshake now, events = before ++ later ∧
        LetIn verify localeString before socket user past during handshake now ∧
        message.concerns (roomForUser user) = true ∧
        ((liveChat verify localeString).run .initial past).messages.nextId ≤ message.id ∧
        message.id < ((liveChat verify localeString).run .initial before).messages.nextId := by
  induction events using List.reverseRecOn with
  | nil =>
      intro message member
      cases member
  | append_singleton events event inductionHypothesis =>
      intro message member
      rw [Machine.run_append] at member
      rcases received_step member with earlier | ⟨newest, stored, room, inside, concerned⟩
      · obtain ⟨before, later, user, past, during, handshake, now, split, rest⟩ :=
          inductionHypothesis message earlier
        refine ⟨before, later ++ [event], user, past, during, handshake, now, ?_, rest⟩
        rw [split, List.append_assoc]
      · obtain ⟨user, past, during, handshake, now, rfl, letIn⟩ := letIn_of_room inside
        have stays : event ≠ .disconnect socket := by
          rintro rfl
          have old := Table.key_lt_nextId _ stored
          exact absurd newest (Nat.ne_of_lt old)
        refine ⟨events ++ [event], [], user, past, during ++ [event], handshake, now,
          (List.append_nil _).symm, letIn.extend stays, concerned, ?_, ?_⟩
        · rw [newest, letIn.split, Machine.run_append]
          exact messages_nextId_le _ _
        · rw [Machine.run_append]
          exact Table.key_lt_nextId _ stored

theorem sampleTalk_let_in :
    let events := sampleOperations.map ChatEvent.market ++ .connect sampleHandshake 5 :: sampleTalk
    let live := (liveChat sampleVerify fun _ => "").run .initial events
    (live.sockets.received 0).length = 2 ∧
    ∀ message ∈ live.sockets.received 0,
      ∃ before later user past during handshake now, events = before ++ later ∧
        LetIn sampleVerify (fun _ => "") before 0 user past during handshake now ∧
        message.concerns (roomForUser user) = true ∧
        ((liveChat sampleVerify fun _ => "").run .initial past).messages.nextId ≤ message.id ∧
        message.id < ((liveChat sampleVerify fun _ => "").run .initial before).messages.nextId :=
  ⟨by decide +kernel, received_while_let_in sampleVerify (fun _ => "")
    (sampleOperations.map ChatEvent.market ++ .connect sampleHandshake 5 :: sampleTalk) 0⟩

end Tchuno.Contact
