import Mathlib.Data.List.Sort
import Mathlib.Data.Prod.Lex
import Tchuno.Library.Machine
import Tchuno.Library.Paging
import Tchuno.Payments.Schema

/-!
# Notifications

A user is notified, reads the notifications one by one or all at once, and lists them page
by page.  Turning the pages misses nothing, and what the database holds is what the calls
have written.
-/

namespace Tchuno.Notifications

open Tchuno.Library Tchuno.Library.Paging Tchuno.Payments

/-! ## Pagination -/

/-- What `PaginationQueryDto` admits. -/
abbrev PageNumber := { page : Nat // 1 ≤ page }

abbrev PageLimit := { limit : Nat // 1 ≤ limit ∧ limit ≤ 100 }

structure PaginationInput where
  page : Option PageNumber
  limit : Option PageLimit

structure ResolvedPagination where
  page : PageNumber
  limit : PageLimit
  skip : Nat

def resolvePagination (input : PaginationInput) : ResolvedPagination :=
  let page := input.page.getD ⟨1, by decide⟩
  let limit := input.limit.getD ⟨20, by decide⟩
  { page := page
    limit := limit
    skip := (page.val - 1) * limit.val }

structure PaginatedMeta where
  total : Nat
  page : PageNumber
  limit : PageLimit
  hasNext : Bool

structure PaginatedResponse (T : Type) where
  data : List T
  pageMeta : PaginatedMeta

def buildPaginatedResponse {T : Type} (data : List T) (total : Nat) (page : PageNumber)
    (limit : PageLimit) : PaginatedResponse T where
  data := data
  pageMeta :=
    { total := total
      page := page
      limit := limit
      hasNext := page.val * limit.val < total }

/-! ## The notifications -/

abbrev NotificationId := Nat

inductive UserNotificationKind where
  | requestInvitationReceived
  | requestInvitationDeclined
  | proposalSubmitted
  | proposalSelected
  | proposalRejected
  | jobMessageReceived
  | jobCanceled
  | refundRequested
  | refundStatusUpdated
  | trustSafetyUpdate
  deriving DecidableEq, Repr

inductive UserNotificationTone where
  | attention | success | info | muted
  deriving DecidableEq, Repr

structure UserNotification where
  id : NotificationId
  userId : UserId
  actorUserId : Option UserId
  kind : UserNotificationKind
  tone : UserNotificationTone
  title : String
  description : String
  href : String
  hrefLabel : Option String
  readAt : Option Time
  metadata : Option Json
  createdAt : Time
  updatedAt : Time

instance : Keyed UserNotification := ⟨UserNotification.id⟩

abbrev NotificationTable := Table UserNotification

structure NotificationDto where
  id : NotificationId
  kind : UserNotificationKind
  tone : String
  title : String
  description : String
  href : String
  hrefLabel : String
  readAt : Option Time
  unread : Bool
  createdAt : Time
  updatedAt : Time
  metadata : Option Json

def mapTone : UserNotificationTone → String
  | .attention => "attention"
  | .success => "success"
  | .muted => "muted"
  | .info => "info"

def UserNotification.toDto (item : UserNotification) : NotificationDto where
  id := item.id
  kind := item.kind
  tone := mapTone item.tone
  title := item.title
  description := item.description
  href := item.href
  hrefLabel := item.hrefLabel.getD "Abrir"
  readAt := item.readAt
  unread := item.readAt.isNone
  createdAt := item.createdAt
  updatedAt := item.updatedAt
  metadata := item.metadata

structure NotificationInput where
  userId : UserId
  actorUserId : Option UserId
  kind : UserNotificationKind
  tone : Option UserNotificationTone
  title : String
  description : String
  href : String
  hrefLabel : Option String
  metadata : Option Json

/-- The row of a new notification. -/
def NotificationInput.row (input : NotificationInput) (now : Time) (id : NotificationId) :
    UserNotification where
  id := id
  userId := input.userId
  actorUserId := input.actorUserId
  kind := input.kind
  tone := input.tone.getD .info
  title := input.title
  description := input.description
  href := input.href
  hrefLabel := input.hrefLabel
  readAt := none
  metadata := input.metadata
  createdAt := now
  updatedAt := now

def create (input : NotificationInput) (now : Time) (store : NotificationTable) :
    NotificationDto × NotificationTable :=
  ((input.row now store.nextId).toDto, store.insert (input.row now) fun _ => rfl)

/-- The database stamps `updatedAt` with every write. -/
def UserNotification.read (now : Time) (item : UserNotification) : UserNotification :=
  { item with readAt := some now, updatedAt := now }

def markRead (notificationId : NotificationId) (userId : UserId) (now : Time)
    (store : NotificationTable) : Except ApiError NotificationDto × NotificationTable :=
  match store.find? notificationId with
  | none => (.error (.notFound "Notification not found"), store)
  | some notification =>
      if notification.userId ≠ userId then
        (.error (.forbidden "You are not allowed to access this notification"), store)
      else if notification.readAt.isSome then
        (.ok notification.toDto, store)
      else
        (.ok (notification.read now).toDto,
          store.update notificationId (UserNotification.read now) fun _ => rfl)

def UserNotification.isUnreadOf (userId : UserId) (item : UserNotification) : Bool :=
  item.userId = userId && item.readAt.isNone

structure MarkedAll where
  markedCount : Nat
  updatedAt : Time

def markAllRead (userId : UserId) (now : Time) (store : NotificationTable) :
    MarkedAll × NotificationTable :=
  (⟨(store.findMany (UserNotification.isUnreadOf userId)).length, now⟩,
    store.updateMany (UserNotification.isUnreadOf userId) (UserNotification.read now)
      fun _ => rfl)

/-! ## Listing -/

structure ListNotificationsQuery extends PaginationInput where
  unreadOnly : Option Bool

/-- `createdAt`, then `id`. -/
def UserNotification.stamp (item : UserNotification) : Time ×ₗ NotificationId :=
  toLex (item.createdAt, item.id)

/-- The `where` of a query. -/
def UserNotification.isListed (userId : UserId) (unreadOnly : Bool) (item : UserNotification) :
    Bool :=
  item.userId = userId && (!unreadOnly || item.readAt.isNone)

/-- Everything a query selects, newest first. -/
def listing (userId : UserId) (unreadOnly : Bool) (store : NotificationTable) :
    List UserNotification :=
  (store.findMany (UserNotification.isListed userId unreadOnly)).insertionSort
    fun left right => right.stamp ≤ left.stamp

structure NotificationPage extends PaginatedResponse NotificationDto where
  unreadCount : Nat

/-- Each of the three statements reads what has been committed by then. -/
def listMine (userId : UserId) (query : ListNotificationsQuery)
    (counted unreadCounted found : NotificationTable) : NotificationPage :=
  let pagination := resolvePagination query.toPaginationInput
  let unreadOnly := query.unreadOnly.getD false
  let items := slice pagination.skip pagination.limit.val (listing userId unreadOnly found)
  { buildPaginatedResponse (items.map UserNotification.toDto)
      (counted.findMany (UserNotification.isListed userId unreadOnly)).length pagination.page
      pagination.limit with
    unreadCount := (unreadCounted.findMany (UserNotification.isUnreadOf userId)).length }

/-! ## Calls -/

inductive NotificationCall where
  | create (input : NotificationInput) (now : Time)
  | markRead (notificationId : NotificationId) (userId : UserId) (now : Time)
  | markAllRead (userId : UserId) (now : Time)

namespace NotificationCall

def serve (store : NotificationTable) : NotificationCall → NotificationTable
  | .create input now => (Notifications.create input now store).2
  | .markRead notificationId userId now =>
      (Notifications.markRead notificationId userId now store).2
  | .markAllRead userId now => (Notifications.markAllRead userId now store).2

/-- Who is notified. -/
def addressee? : NotificationCall → Option UserId
  | .create input _ => some input.userId
  | _ => none

/-- Who reads. -/
def reader? : NotificationCall → Option UserId
  | .create _ _ => none
  | .markRead _ userId _ => some userId
  | .markAllRead userId _ => some userId

/-- When this row is read, if it is. -/
def readingOf? (item : UserNotification) : NotificationCall → Option Time
  | .create _ _ => none
  | .markRead notificationId userId now =>
      if item.id = notificationId ∧ item.userId = userId then some now else none
  | .markAllRead userId now => if item.userId = userId then some now else none

end NotificationCall

def notifications : Machine NotificationTable NotificationCall := ⟨NotificationCall.serve⟩

/-- A row after the first of these readings. -/
def UserNotification.after (item : UserNotification) (calls : List NotificationCall) :
    UserNotification :=
  if item.readAt.isSome then item
  else (calls.findSome? (NotificationCall.readingOf? item)).elim item fun now => item.read now

namespace UserNotification

variable (item : UserNotification) (calls : List NotificationCall) {call : NotificationCall}

theorem after_nil : item.after [] = item := by
  rw [after, List.findSome?_nil, Option.elim_none, ite_self]

/-- Reading leaves everything alone but the two times. -/
theorem exists_after : ∃ readAt updatedAt,
    item.after calls = { item with readAt := readAt, updatedAt := updatedAt } := by
  rw [after]
  split
  · exact ⟨_, _, rfl⟩
  · cases calls.findSome? (NotificationCall.readingOf? item) with
    | none => exact ⟨_, _, rfl⟩
    | some now => exact ⟨_, _, rfl⟩

@[simp]
theorem id_after : (item.after calls).id = item.id := by
  obtain ⟨readAt, updatedAt, same⟩ := item.exists_after calls
  rw [same]

theorem userId_after : (item.after calls).userId = item.userId := by
  obtain ⟨readAt, updatedAt, same⟩ := item.exists_after calls
  rw [same]

theorem stamp_after : (item.after calls).stamp = item.stamp := by
  obtain ⟨readAt, updatedAt, same⟩ := item.exists_after calls
  rw [same]
  rfl

theorem readingOf?_after : call.readingOf? (item.after calls) = call.readingOf? item := by
  obtain ⟨readAt, updatedAt, same⟩ := item.exists_after calls
  rw [same]
  cases call <;> rfl

/-- Only its first reading counts. -/
theorem after_append (later : List NotificationCall) :
    item.after (calls ++ later) = (item.after calls).after later := by
  have sameReadings : NotificationCall.readingOf? (item.after calls) =
      NotificationCall.readingOf? item := funext fun call => item.readingOf?_after calls
  rw [after.eq_1 (item.after calls), sameReadings]
  unfold after
  rw [List.findSome?_append]
  by_cases read : item.readAt.isSome = true
  · simp [read]
  · cases first : calls.findSome? (NotificationCall.readingOf? item) with
    | none => simp [read]
    | some now => simp [read, UserNotification.read]

/-- Nobody reads for another user. -/
theorem after_of_reader_ne (other : call.reader? ≠ some item.userId) :
    item.after [call] = item := by
  have unread : call.readingOf? item = none := by
    cases call with
    | create input now => rfl
    | markRead notificationId userId now =>
        rw [NotificationCall.readingOf?, if_neg]
        rintro ⟨-, same⟩
        exact other (congrArg some same.symm)
    | markAllRead userId now =>
        rw [NotificationCall.readingOf?, if_neg]
        intro same
        exact other (congrArg some same.symm)
  rw [after, List.findSome?_cons, unread, List.findSome?_nil, Option.elim_none, ite_self]

end UserNotification

section Serving

variable {store : NotificationTable} {call : NotificationCall}

theorem after_markRead (item : UserNotification) (notificationId : NotificationId)
    (userId : UserId) (now : Time) :
    item.after [.markRead notificationId userId now] =
      if item.readAt.isSome = false ∧ item.id = notificationId ∧ item.userId = userId then
        item.read now
      else
        item := by
  rw [UserNotification.after, List.findSome?_cons, List.findSome?_nil,
    NotificationCall.readingOf?]
  by_cases read : item.readAt.isSome = true
  · simp [read]
  · by_cases own : item.id = notificationId ∧ item.userId = userId
    · simp [read, own]
    · simp [read, own]

theorem after_markAllRead (item : UserNotification) (userId : UserId) (now : Time) :
    item.after [.markAllRead userId now] =
      if item.isUnreadOf userId then item.read now else item := by
  rw [UserNotification.after, List.findSome?_cons, List.findSome?_nil,
    NotificationCall.readingOf?, UserNotification.isUnreadOf]
  by_cases own : item.userId = userId
  · cases item.readAt <;> simp [own]
  · simp [own]

/-- A call which notifies nobody rewrites every row to what it is after that call. -/
theorem serve_of_reads (reads : call.addressee? = none) :
    call.serve store = store.updateMany (fun _ => true) (fun item => item.after [call])
      fun item => item.id_after [call] := by
  have unchanged (same : ∀ item ∈ store, item.after [call] = item) :
      store = store.updateMany (fun _ => true) (fun item => item.after [call])
        fun item => item.id_after [call] := by
    refine Table.eq_of_rows_eq ?_ rfl
    exact ((List.map_congr_left same).trans (List.map_id _)).symm
  cases call with
  | create input now => cases reads
  | markRead notificationId userId now =>
      rw [NotificationCall.serve, markRead]
      cases found : store.find? notificationId with
      | none =>
          refine unchanged fun item member => ?_
          rw [after_markRead, if_neg]
          rintro ⟨-, same, -⟩
          exact store.find?_eq_none_iff.mp found item member same
      | some notification =>
          have only (item : UserNotification) (member : item ∈ store)
              (same : item.id = notificationId) : item = notification := by
            rw [store.find?_eq_some_iff.mpr ⟨member, same⟩] at found
            exact Option.some.inj found
          dsimp only
          split_ifs with foreign read
          · refine unchanged fun item member => ?_
            rw [after_markRead, if_neg]
            rintro ⟨-, same, own⟩
            exact foreign (only item member same ▸ own)
          · refine unchanged fun item member => ?_
            rw [after_markRead, if_neg]
            rintro ⟨unread, same, -⟩
            rw [only item member same, read] at unread
            cases unread
          · refine Table.eq_of_rows_eq (List.map_congr_left fun item member => ?_) rfl
            refine Eq.trans ?_ (after_markRead item notificationId userId now).symm
            by_cases same : item.id = notificationId
            · obtain rfl := only item member same
              have mine : item.userId = userId := not_not.mp foreign
              exact (if_pos (beq_iff_eq.mpr same)).trans
                (if_pos ⟨Bool.eq_false_iff.mpr read, same, mine⟩).symm
            · exact (if_neg fun equal => same (beq_iff_eq.mp equal)).trans
                (if_neg fun own => same own.2.1).symm
  | markAllRead userId now =>
      refine Table.eq_of_rows_eq (List.map_congr_left fun item member => ?_) rfl
      exact (after_markAllRead item userId now).symm

theorem find?_serve {notificationId : NotificationId} {item : UserNotification}
    (found : store.find? notificationId = some item) :
    (call.serve store).find? notificationId = some (item.after [call]) := by
  cases reads : call.addressee? with
  | none =>
      rw [serve_of_reads reads, Table.find?_updateMany, found]
      rfl
  | some userId =>
      cases call with
      | create input now =>
          rw [item.after_of_reader_ne (by simp [NotificationCall.reader?])]
          exact store.find?_insert_of_some (input.row now) (fun _ => rfl) found
      | markRead _ _ _ => cases reads
      | markAllRead _ _ => cases reads

/-- What is in the database after a call has been created by it, or was there before. -/
theorem mem_serve {item : UserNotification} :
    item ∈ call.serve store ↔
      (∃ input now, call = .create input now ∧ item = input.row now store.nextId) ∨
        ∃ older ∈ store, item = older.after [call] := by
  cases call with
  | create input now =>
      have others (older : UserNotification) :
          older.after [.create input now] = older :=
        older.after_of_reader_ne (by simp [NotificationCall.reader?])
      refine (store.mem_insert (input.row now) fun _ => rfl).trans ?_
      simp [others]
  | _ =>
      rw [serve_of_reads rfl, Table.mem_updateMany]
      simp

end Serving

/-! ## What the database holds -/

/-- How many notifications these calls create. -/
def createdBy (calls : List NotificationCall) : Nat :=
  calls.countP fun call => call.addressee?.isSome

theorem nextId_serve (store : NotificationTable) (call : NotificationCall) :
    (call.serve store).nextId = store.nextId + createdBy [call] := by
  cases call with
  | create input now => rfl
  | _ =>
      rw [serve_of_reads rfl]
      rfl

theorem nextId_run (store : NotificationTable) (calls : List NotificationCall) :
    (notifications.run store calls).nextId = store.nextId + createdBy calls := by
  induction calls generalizing store with
  | nil => rfl
  | cons call rest inductionHypothesis =>
      have first : (notifications.step store call).nextId = store.nextId + createdBy [call] :=
        nextId_serve store call
      rw [Machine.run_cons, inductionHypothesis, first, Nat.add_assoc]
      exact congrArg _ List.countP_append.symm

theorem find?_run {store : NotificationTable} {notificationId : NotificationId}
    {item : UserNotification} (found : store.find? notificationId = some item)
    (calls : List NotificationCall) :
    (notifications.run store calls).find? notificationId = some (item.after calls) := by
  induction calls generalizing store item with
  | nil => rw [Machine.run_nil, found, item.after_nil]
  | cons call rest inductionHypothesis =>
      have served : (notifications.step store call).find? notificationId =
          some (item.after [call]) := find?_serve found
      rw [Machine.run_cons, inductionHypothesis served, ← item.after_append,
        List.singleton_append]

/-- The database holds what has been created, each read when it was first read after that. -/
theorem notifications_from_calls (calls : List NotificationCall) (item : UserNotification) :
    item ∈ notifications.run Table.empty calls ↔
      ∃ earlier input now later, calls = earlier ++ .create input now :: later ∧
        item = (input.row now (createdBy earlier)).after later := by
  constructor
  · intro member
    induction calls using List.reverseRecOn generalizing item with
    | nil => cases member
    | append_singleton calls latest inductionHypothesis =>
        rw [Machine.run_append] at member
        rcases mem_serve.mp member with ⟨input, now, rfl, rfl⟩ | ⟨older, present, rfl⟩
        · refine ⟨calls, input, now, [], rfl, ?_⟩
          rw [nextId_run, UserNotification.after_nil, Table.empty, Nat.zero_add]
        · obtain ⟨earlier, input, now, later, rfl, rfl⟩ := inductionHypothesis older present
          refine ⟨earlier, input, now, later ++ [latest], ?_, ?_⟩
          · rw [List.append_assoc, List.cons_append]
          · rw [UserNotification.after_append]
  · rintro ⟨earlier, input, now, later, rfl, rfl⟩
    rw [Machine.run_append, Machine.run_cons]
    have next : (notifications.run Table.empty earlier).nextId = createdBy earlier := by
      rw [nextId_run, Table.empty, Nat.zero_add]
    have created : (notifications.step (notifications.run Table.empty earlier)
        (.create input now)).find? (createdBy earlier) =
          some (input.row now (createdBy earlier)) := by
      rw [← next]
      exact Table.find?_insert_nextId _ (input.row now) fun _ => rfl
    exact Table.mem_of_find? _ (find?_run created later)

/-! ## Turning the pages -/

def listedIds (userId : UserId) (unreadOnly : Bool) (store : NotificationTable) :
    List NotificationId :=
  (listing userId unreadOnly store).map UserNotification.id

/-- A query for unread notifications only has no steady answer while its user reads. -/
def NotificationCall.Steady (userId : UserId) (unreadOnly : Bool) (call : NotificationCall) :
    Prop :=
  unreadOnly = true → call.reader? ≠ some userId

section Listing

variable {userId : UserId} {unreadOnly : Bool} {store : NotificationTable} {call : NotificationCall}

theorem isListed_after (steady : call.Steady userId unreadOnly) (item : UserNotification) :
    (item.after [call]).isListed userId unreadOnly = item.isListed userId unreadOnly := by
  rw [UserNotification.isListed, UserNotification.isListed, item.userId_after]
  by_cases own : item.userId = userId
  · cases unreadOnly with
    | false => rfl
    | true =>
        rw [item.after_of_reader_ne]
        rw [own]
        exact steady rfl
  · simp [own]

theorem findMany_create (input : NotificationInput) (now : Time) (store : NotificationTable)
    (accept : UserNotification → Bool) :
    ((NotificationCall.create input now).serve store).findMany accept =
      if accept (input.row now store.nextId) then
        input.row now store.nextId :: store.findMany accept
      else
        store.findMany accept :=
  List.filter_cons

/-- Who turns pages sees a reading in the rows, never in which rows are listed. -/
theorem listedIds_serve_of_reads (reads : call.addressee? = none)
    (steady : call.Steady userId unreadOnly) :
    listedIds userId unreadOnly (call.serve store) = listedIds userId unreadOnly store := by
  have sameRows : (call.serve store).findMany (UserNotification.isListed userId unreadOnly) =
      (store.findMany (UserNotification.isListed userId unreadOnly)).map
        fun item => item.after [call] := by
    rw [serve_of_reads reads, Table.findMany, Table.findMany, Table.updateMany]
    simp only [if_true]
    rw [List.filter_map]
    congr 2
    funext item
    exact isListed_after steady item
  have sameOrder (rows : List UserNotification) :
      (rows.insertionSort fun left right => right.stamp ≤ left.stamp).map
          (fun item => item.after [call]) =
        (rows.map fun item => item.after [call]).insertionSort
          fun left right => right.stamp ≤ left.stamp := by
    refine List.map_insertionSort _ _ _ _ fun left _ right _ => ?_
    rw [UserNotification.stamp_after, UserNotification.stamp_after]
  rw [listedIds, listedIds, listing, listing, sameRows, ← sameOrder, List.map_map]
  exact List.map_congr_left fun item _ => item.id_after [call]

/-- No call takes anything off the list. -/
theorem listedIds_serve (steady : call.Steady userId unreadOnly) :
    (listedIds userId unreadOnly store).Sublist
      (listedIds userId unreadOnly (call.serve store)) := by
  cases call with
  | create input now =>
      refine List.Sublist.map _ ?_
      rw [listing, listing, findMany_create]
      split_ifs
      · rw [List.insertionSort_cons]
        exact List.sublist_orderedInsert _ _
      · exact List.Sublist.refl _
  | _ =>
      rw [listedIds_serve_of_reads rfl steady]

/-- A notification of somebody else is not listed. -/
theorem listedIds_serve_of_addressee_ne (steady : call.Steady userId unreadOnly)
    (other : call.addressee? ≠ some userId) :
    listedIds userId unreadOnly (call.serve store) = listedIds userId unreadOnly store := by
  cases call with
  | create input now =>
      have unlisted : (input.row now store.nextId).isListed userId unreadOnly = false := by
        have foreign : input.userId ≠ userId := fun same => other (congrArg some same)
        simp [UserNotification.isListed, NotificationInput.row, foreign]
      rw [listedIds, listedIds, listing, listing, findMany_create, unlisted]
      rfl
  | _ =>
      rw [listedIds_serve_of_reads rfl steady]

theorem listedIds_run {calls : List NotificationCall}
    (steady : ∀ call ∈ calls, call.Steady userId unreadOnly) :
    (listedIds userId unreadOnly store).Sublist
      (listedIds userId unreadOnly (notifications.run store calls)) := by
  induction calls generalizing store with
  | nil => exact List.Sublist.refl _
  | cons call rest inductionHypothesis =>
      have first := @listedIds_serve _ _ store _ (steady call List.mem_cons_self)
      exact first.trans (inductionHypothesis fun later member =>
        steady later (List.mem_cons_of_mem _ member))

theorem listedIds_run_of_addressee_ne {calls : List NotificationCall}
    (steady : ∀ call ∈ calls, call.Steady userId unreadOnly)
    (others : ∀ call ∈ calls, call.addressee? ≠ some userId) :
    listedIds userId unreadOnly (notifications.run store calls) =
      listedIds userId unreadOnly store := by
  induction calls generalizing store with
  | nil => rfl
  | cons call rest inductionHypothesis =>
      have first := @listedIds_serve_of_addressee_ne _ _ store _
        (steady call List.mem_cons_self) (others call List.mem_cons_self)
      rw [← first]
      exact inductionHypothesis (fun later member => steady later (List.mem_cons_of_mem _ member))
        fun later member => others later (List.mem_cons_of_mem _ member)

end Listing

/-- What is committed before each of the three statements which make a page. -/
structure Turn where
  beforeTotal : List NotificationCall
  beforeUnreadCount : List NotificationCall
  beforeRows : List NotificationCall

namespace Turn

def counted (store : NotificationTable) (turn : Turn) : NotificationTable :=
  notifications.run store turn.beforeTotal

def unreadCounted (store : NotificationTable) (turn : Turn) : NotificationTable :=
  notifications.run (turn.counted store) turn.beforeUnreadCount

def found (store : NotificationTable) (turn : Turn) : NotificationTable :=
  notifications.run (turn.unreadCounted store) turn.beforeRows

/-- What is committed after the page is counted and before its rows are read. -/
def during (turn : Turn) : List NotificationCall :=
  turn.beforeUnreadCount ++ turn.beforeRows

def calls (turn : Turn) : List NotificationCall :=
  turn.beforeTotal ++ turn.during

theorem found_eq_run (store : NotificationTable) (turn : Turn) :
    turn.found store = notifications.run (turn.counted store) turn.during :=
  (Machine.run_append notifications _ turn.beforeUnreadCount turn.beforeRows).symm

theorem found_eq_run_calls (store : NotificationTable) (turn : Turn) :
    turn.found store = notifications.run store turn.calls := by
  rw [found_eq_run, calls, Machine.run_append]
  rfl

end Turn

/-- Page after page, each asked for when the one before it has come. -/
def turnOver (userId : UserId) (unreadOnly : Bool) (limit : PageLimit) :
    PageNumber → NotificationTable → List Turn → List NotificationPage
  | _, _, [] => []
  | page, store, turn :: later =>
      listMine userId ⟨⟨some page, some limit⟩, some unreadOnly⟩ (turn.counted store)
          (turn.unreadCounted store) (turn.found store) ::
        turnOver userId unreadOnly limit ⟨page.val + 1, by omega⟩ (turn.found store) later

/-- What is listed whenever the rows of a page are read. -/
def findings (userId : UserId) (unreadOnly : Bool) :
    NotificationTable → List Turn → List (List UserNotification)
  | _, [] => []
  | store, turn :: later =>
      listing userId unreadOnly (turn.found store) ::
        findings userId unreadOnly (turn.found store) later

/-- A page is the last one when there is room left on it, or when its count says so and
nobody notifies the user before its rows are read. -/
def NotificationPage.IsLast (page : NotificationPage) (userId : UserId) (turn : Turn) : Prop :=
  page.data.length < page.pageMeta.limit.val ∨
    page.pageMeta.hasNext = false ∧ ∀ call ∈ turn.during, call.addressee? ≠ some userId

section Turning

variable {userId : UserId} {unreadOnly : Bool} {limit : PageLimit} {store : NotificationTable}

theorem data_listMine (page : PageNumber) (counted unreadCounted found : NotificationTable) :
    (listMine userId ⟨⟨some page, some limit⟩, some unreadOnly⟩ counted unreadCounted
      found).data =
        (slice ((page.val - 1) * limit.val) limit.val (listing userId unreadOnly found)).map
          UserNotification.toDto :=
  rfl

/-- The pages are cut out of what is listed whenever their rows are read. -/
theorem data_turnOver (page : PageNumber) (turns : List Turn) :
    (turnOver userId unreadOnly limit page store turns).map (fun page => page.data) =
      (turnPages limit.val ((page.val - 1) * limit.val)
        (findings userId unreadOnly store turns)).map (List.map UserNotification.toDto) := by
  induction turns generalizing page store with
  | nil => rfl
  | cons turn later inductionHypothesis =>
      have next : page.val + 1 - 1 = page.val - 1 + 1 := by
        have := page.property
        omega
      rw [turnOver, findings, turnPages, List.map_cons, List.map_cons, data_listMine,
        inductionHypothesis, next, Nat.add_mul, Nat.one_mul]

theorem findings_append (earlier : List Turn) (last : Turn) :
    findings userId unreadOnly store (earlier ++ [last]) =
      findings userId unreadOnly store earlier ++
        [listing userId unreadOnly (last.found (earlier.foldl Turn.found store))] := by
  induction earlier generalizing store with
  | nil => rfl
  | cons turn later inductionHypothesis =>
      rw [List.cons_append, findings, findings, inductionHypothesis]
      rfl

theorem length_findings (turns : List Turn) :
    (findings userId unreadOnly store turns).length = turns.length := by
  induction turns generalizing store with
  | nil => rfl
  | cons turn later inductionHypothesis =>
      rw [findings, List.length_cons, inductionHypothesis, List.length_cons]

theorem getLast?_turnOver (page : PageNumber) (earlier : List Turn) (last : Turn) :
    (turnOver userId unreadOnly limit page store (earlier ++ [last])).getLast? =
      let reached := earlier.foldl Turn.found store
      some (listMine userId
        ⟨⟨some ⟨page.val + earlier.length, by omega⟩, some limit⟩, some unreadOnly⟩
        (last.counted reached) (last.unreadCounted reached) (last.found reached)) := by
  induction earlier generalizing page store with
  | nil => rfl
  | cons turn later inductionHypothesis =>
      rw [List.cons_append, turnOver, List.getLast?_cons, inductionHypothesis]
      simp only [Option.getD_some, List.length_cons, List.foldl_cons]
      congr 6
      omega

/-- Nothing goes from what is listed. -/
theorem findings_grow {turns : List Turn}
    (steady : ∀ turn ∈ turns, ∀ call ∈ turn.calls, call.Steady userId unreadOnly) :
    (listedIds userId unreadOnly store ::
      (findings userId unreadOnly store turns).map (List.map UserNotification.id)).IsChain
        List.Sublist := by
  induction turns generalizing store with
  | nil => exact List.isChain_singleton _
  | cons turn later inductionHypothesis =>
      refine List.isChain_cons_cons.mpr ⟨?_, ?_⟩
      · rw [turn.found_eq_run_calls]
        exact listedIds_run (steady turn List.mem_cons_self)
      · exact inductionHypothesis fun other member =>
          steady other (List.mem_cons_of_mem _ member)

/-- The last page reaches the end of the list. -/
theorem length_listing_le_of_isLast {page : PageNumber} {turn : Turn}
    (steady : ∀ call ∈ turn.calls, call.Steady userId unreadOnly)
    (isLast : (listMine userId ⟨⟨some page, some limit⟩, some unreadOnly⟩ (turn.counted store)
      (turn.unreadCounted store) (turn.found store)).IsLast userId turn) :
    (listing userId unreadOnly (turn.found store)).length ≤
      (page.val - 1) * limit.val + limit.val := by
  rcases isLast with short | ⟨noNext, others⟩
  · rw [data_listMine, List.length_map] at short
    exact length_le_of_length_slice_lt short
  · have counted : ((turn.counted store).findMany
        (UserNotification.isListed userId unreadOnly)).length ≤ page.val * limit.val :=
      Nat.not_lt.mp (of_decide_eq_false noNext)
    have sameIds := @listedIds_run_of_addressee_ne _ _ (turn.counted store) _
      (fun call member => steady call (List.mem_append_right _ member)) others
    have sameLength := congrArg List.length sameIds
    rw [← turn.found_eq_run, listedIds, listedIds, List.length_map, List.length_map,
      listing.eq_1 _ _ (turn.counted store), List.length_insertionSort] at sameLength
    rw [sameLength, ← Nat.succ_mul, Nat.succ_eq_add_one, Nat.sub_add_cancel page.property]
    exact counted

/-- While nothing is written, every page is cut out of the same list. -/
theorem findings_of_quiet {turns : List Turn} (quiet : ∀ turn ∈ turns, turn.calls = []) :
    findings userId unreadOnly store turns =
      List.replicate turns.length (listing userId unreadOnly store) := by
  induction turns with
  | nil => rfl
  | cons turn later inductionHypothesis =>
      have same : turn.found store = store := by
        rw [turn.found_eq_run_calls, quiet turn List.mem_cons_self, Machine.run_nil]
      rw [findings, same, List.length_cons, List.replicate_succ, inductionHypothesis]
      exact fun other member => quiet other (List.mem_cons_of_mem _ member)

/-- What one of the lists of identifiers shows, a page shows. -/
theorem exists_dto_of_mem_turnPages {page : PageNumber} {turns : List Turn}
    {notificationId : NotificationId} {ids : List NotificationId}
    (turned : ids ∈ turnPages limit.val ((page.val - 1) * limit.val)
      ((findings userId unreadOnly store turns).map (List.map UserNotification.id)))
    (shown : notificationId ∈ ids) :
    ∃ served ∈ turnOver userId unreadOnly limit page store turns,
      ∃ dto ∈ served.data, dto.id = notificationId := by
  rw [turnPages_map] at turned
  obtain ⟨rows, onPage, rfl⟩ := List.mem_map.mp turned
  obtain ⟨item, member, rfl⟩ := List.mem_map.mp shown
  have converted := List.mem_map_of_mem (f := List.map UserNotification.toDto) onPage
  rw [← data_turnOver] at converted
  obtain ⟨served, asked, data⟩ := List.mem_map.mp converted
  refine ⟨served, asked, item.toDto, ?_, rfl⟩
  rw [data]
  exact List.mem_map_of_mem member

end Turning

/-- Turning the pages to the last one misses nothing of what was listed at the start,
whatever is written in between; if nothing is, the pages are the list. -/
theorem turning_pages_misses_nothing (userId : UserId) (unreadOnly : Bool) (limit : PageLimit)
    (store : NotificationTable) {earlier : List Turn} {last : Turn} {page : NotificationPage}
    (steady : ∀ turn ∈ earlier ++ [last], ∀ call ∈ turn.calls, call.Steady userId unreadOnly)
    (final : (turnOver userId unreadOnly limit ⟨1, Nat.le_refl 1⟩ store
      (earlier ++ [last])).getLast? = some page)
    (isLast : page.IsLast userId last) :
    (∀ item ∈ listing userId unreadOnly store,
      ∃ page ∈ turnOver userId unreadOnly limit ⟨1, Nat.le_refl 1⟩ store (earlier ++ [last]),
        ∃ dto ∈ page.data, dto.id = item.id) ∧
      ((∀ turn ∈ earlier ++ [last], turn.calls = []) →
        (turnOver userId unreadOnly limit ⟨1, Nat.le_refl 1⟩ store
          (earlier ++ [last])).flatMap (fun page => page.data) =
            (listing userId unreadOnly store).map UserNotification.toDto) := by
  rw [getLast?_turnOver] at final
  obtain rfl := Option.some.inj final
  have steadyLast := steady last (List.mem_append_right _ (List.mem_singleton_self last))
  have reaches := length_listing_le_of_isLast steadyLast isLast
  rw [Nat.add_sub_cancel_left, ← Nat.succ_mul] at reaches
  constructor
  · intro item listed
    have grows := @findings_grow userId unreadOnly store _ steady
    rw [findings_append, List.map_append, List.map_singleton] at grows
    have ended : ((listing userId unreadOnly
        (last.found (earlier.foldl Turn.found store))).map UserNotification.id).length ≤
          0 + (((findings userId unreadOnly store earlier).map
            (List.map UserNotification.id)).length + 1) * limit.val := by
      rw [List.length_map, List.length_map, length_findings, Nat.zero_add]
      exact reaches
    have ahead : item.id ∈ (listedIds userId unreadOnly store).drop 0 :=
      List.mem_map_of_mem listed
    obtain ⟨ids, turned, shown⟩ := exists_mem_turnPages grows ended ahead
    rw [← List.map_singleton, ← List.map_append, ← findings_append] at turned
    refine exists_dto_of_mem_turnPages ?_ shown
    rw [Nat.sub_self, Nat.zero_mul]
    exact turned
  · intro quiet
    have still : listing userId unreadOnly (last.found (earlier.foldl Turn.found store)) =
        listing userId unreadOnly store := by
      refine List.eq_of_mem_replicate (n := (earlier ++ [last]).length) ?_
      rw [← findings_of_quiet quiet, findings_append]
      exact List.mem_append_right _ (List.mem_singleton_self _)
    rw [List.flatMap_def, data_turnOver, findings_of_quiet quiet, Nat.sub_self, Nat.zero_mul,
      ← List.map_flatten, flatten_turnPages_replicate, List.length_append, List.length_singleton,
      slice, List.drop_zero, List.take_of_length_le]
    rw [still] at reaches
    exact reaches

def sampleInput : NotificationInput where
  userId := 7
  actorUserId := none
  kind := .jobMessageReceived
  tone := none
  title := "Nova mensagem"
  description := "Tens uma nova mensagem."
  href := "/cliente/mensagens"
  hrefLabel := none
  metadata := none

/-- Three notifications, one of them read. -/
def sampleNotifications : NotificationTable :=
  notifications.run Table.empty
    [.create sampleInput 10, .create sampleInput 20, .markRead 0 7 25, .create sampleInput 30]

/-- A fourth comes in while the pages are turned, and everything is read. -/
def sampleTurns : List Turn :=
  [⟨[], [], []⟩, ⟨[.create sampleInput 40], [.markAllRead 7 50], []⟩]

theorem sampleTurns_miss_nothing :
    (listing 7 false sampleNotifications).length = 3 ∧
      ∀ item ∈ listing 7 false sampleNotifications,
        ∃ page ∈ turnOver 7 false ⟨2, by decide⟩ ⟨1, Nat.le_refl 1⟩ sampleNotifications
          sampleTurns, ∃ dto ∈ page.data, dto.id = item.id := by
  refine ⟨rfl, (@turning_pages_misses_nothing 7 false ⟨2, by decide⟩ sampleNotifications
    [⟨[], [], []⟩] ⟨[.create sampleInput 40], [.markAllRead 7 50], []⟩ _ ?_ rfl
    (.inr ⟨rfl, ?_⟩)).1⟩
  · intro turn _ call _ unreadOnly
    cases unreadOnly
  · intro call during
    obtain rfl := List.mem_singleton.mp during
    intro notified
    cases notified

end Tchuno.Notifications
