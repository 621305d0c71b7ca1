import Mathlib.Algebra.Ring.Int.Defs
import Tchuno.Auth.Schema
import Tchuno.Library.Machine

/-!
# The password recovery queue

Both services read a request and write afterwards, each in a statement of its own: between
the two any other call may write.  No unique constraint stands in for the check.
-/

namespace Tchuno.Auth

open Tchuno.Library Tchuno.Library.Ecma

/-! ## The data -/

abbrev RecoveryId := Nat

inductive PasswordRecoveryRequestStatus where
  | open | inProgress | resolved | canceled
  deriving DecidableEq, Repr

structure PasswordRecoveryRequest where
  id : RecoveryId
  email : String
  userId : Option UserId
  status : PasswordRecoveryRequestStatus
  note : Option String
  requestedAt : Time
  startedAt : Option Time
  resolvedAt : Option Time
  resolvedByUserId : Option UserId
  deriving DecidableEq

instance : Keyed PasswordRecoveryRequest := ⟨PasswordRecoveryRequest.id⟩

def PasswordRecoveryRequest.isPending (email : String) (request : PasswordRecoveryRequest) :
    Bool :=
  request.email = email && (request.status = .open || request.status = .inProgress)

def PasswordRecoveryRequest.isClosed (request : PasswordRecoveryRequest) : Bool :=
  request.status = .resolved || request.status = .canceled

/-- The order `[{ requestedAt: 'desc' }, { id: 'desc' }]`. -/
def PasswordRecoveryRequest.isNewerThan (request other : PasswordRecoveryRequest) : Bool :=
  other.requestedAt < request.requestedAt ||
    (other.requestedAt = request.requestedAt && other.id < request.id)

/-- The first pending request of that order. -/
def latestPending? (email : String) (requests : Table PasswordRecoveryRequest) :
    Option PasswordRecoveryRequest :=
  (requests.findMany (PasswordRecoveryRequest.isPending email)).foldl (fun latest request =>
    match latest with
    | none => some request
    | some found => some (if request.isNewerThan found then request else found)) none

structure UpdatePasswordRecoveryRequestDto where
  status : PasswordRecoveryRequestStatus
  note : Option String

/-! ## Calls -/

inductive RequestPhase where
  | called
  | identified (userId : Option UserId)
  | searched (userId : Option UserId) (existing : Option PasswordRecoveryRequest)
  | returned (message : String)
  | failed (error : AuthError)

inductive UpdatePhase where
  | called
  | judged (existing : PasswordRecoveryRequest)
  | returned (updated : PasswordRecoveryRequest)
  | failed (error : AuthError)

inductive RecoveryCall where
  | requestPasswordRecovery (email : String) (phase : RequestPhase)
  | updatePasswordRecoveryRequest (id : RecoveryId) (dto : UpdatePasswordRecoveryRequestDto)
      (actorUserId : UserId) (phase : UpdatePhase)

/-- The committed data and the calls so far. -/
structure RecoveryQueue where
  users : String → Option UserId
  requests : Table PasswordRecoveryRequest
  calls : List RecoveryCall

/-! ## Statements -/

/-- What a statement commits. -/
inductive RecoveryWrite where
  | nothing
  | create (email : String) (userId : Option UserId) (now : Time)
  | identify (requestId : RecoveryId) (userId : UserId)
  | decide (requestId : RecoveryId) (existing : PasswordRecoveryRequest)
      (dto : UpdatePasswordRecoveryRequestDto) (actorUserId : UserId) (now : Time)

def openedRequest (email : String) (userId : Option UserId) (now : Time) (id : RecoveryId) :
    PasswordRecoveryRequest where
  id := id
  email := email
  userId := userId
  status := .open
  note := none
  requestedAt := now
  startedAt := none
  resolvedAt := none
  resolvedByUserId := none

/-- The row after an update; `existing` is the row as it was read. -/
def decidedRequest (existing : PasswordRecoveryRequest) (dto : UpdatePasswordRecoveryRequestDto)
    (actorUserId : UserId) (now : Time) (row : PasswordRecoveryRequest) :
    PasswordRecoveryRequest :=
  { row with
    status := dto.status
    note := (truthy (dto.note.map trim)).or existing.note
    startedAt :=
      if dto.status = .inProgress then existing.startedAt.or (some now) else existing.startedAt
    resolvedAt := if dto.status = .resolved ∨ dto.status = .canceled then some now else none
    resolvedByUserId :=
      if dto.status = .resolved ∨ dto.status = .canceled then some actorUserId else none }

def RecoveryWrite.apply (requests : Table PasswordRecoveryRequest) :
    RecoveryWrite → Table PasswordRecoveryRequest
  | .nothing => requests
  | .create email userId now => requests.insert (openedRequest email userId now)
  | .identify requestId userId =>
      requests.update requestId fun row => { row with userId := some userId }
  | .decide requestId existing dto actorUserId now =>
      requests.update requestId (decidedRequest existing dto actorUserId now)

def recoveryMessage : String :=
  "Recebemos o pedido. A equipa vai ajudar a recuperar a conta em segurança."

section Next

variable (queue : RecoveryQueue) (now : Time)

/-- The next statement of `requestPasswordRecovery`. -/
def RequestPhase.next (email : String) : RequestPhase → RequestPhase × RecoveryWrite
  | .called => (.identified (queue.users email), .nothing)
  | .identified userId => (.searched userId (latestPending? email queue.requests), .nothing)
  | .searched userId none => (.returned recoveryMessage, .create email userId now)
  | .searched userId (some existing) =>
      match existing.userId, userId with
      | none, some found =>
          if (queue.requests.find? existing.id).isSome then
            (.returned recoveryMessage, .identify existing.id found)
          else
            (.failed (.database "P2025"), .nothing)
      | _, _ => (.returned recoveryMessage, .nothing)
  | .returned message => (.returned message, .nothing)
  | .failed error => (.failed error, .nothing)

/-- The next statement of `updatePasswordRecoveryRequest`. -/
def UpdatePhase.next (id : RecoveryId) (dto : UpdatePasswordRecoveryRequestDto)
    (actorUserId : UserId) : UpdatePhase → UpdatePhase × RecoveryWrite
  | .called =>
      if dto.status = .open then
        (.failed (.badRequest "Invalid password recovery status"), .nothing)
      else
        match queue.requests.find? id with
        | none => (.failed (.notFound "Password recovery request not found"), .nothing)
        | some existing =>
            if existing.isClosed then
              (.failed (.conflict "Password recovery request is already closed"), .nothing)
            else
              (.judged existing, .nothing)
  | .judged existing =>
      match queue.requests.find? id with
      | none => (.failed (.database "P2025"), .nothing)
      | some row =>
          (.returned (decidedRequest existing dto actorUserId now row),
            .decide id existing dto actorUserId now)
  | .returned updated => (.returned updated, .nothing)
  | .failed error => (.failed error, .nothing)

def RecoveryCall.next : RecoveryCall → RecoveryCall × RecoveryWrite
  | .requestPasswordRecovery email phase =>
      let (later, write) := phase.next queue now email
      (.requestPasswordRecovery email later, write)
  | .updatePasswordRecoveryRequest id dto actorUserId phase =>
      let (later, write) := phase.next queue now id dto actorUserId
      (.updatePasswordRecoveryRequest id dto actorUserId later, write)

end Next

/-! ## The machine -/

inductive RecoveryStep where
  | register (email : String) (userId : UserId)
  | requestPasswordRecovery (email : String)
  | updatePasswordRecoveryRequest (id : RecoveryId) (dto : UpdatePasswordRecoveryRequestDto)
      (actorUserId : UserId)
  | advance (index : Nat) (now : Time)

/-- What a step commits. -/
def RecoveryStep.write (queue : RecoveryQueue) : RecoveryStep → RecoveryWrite
  | .advance index now =>
      match queue.calls[index]? with
      | none => .nothing
      | some call => (call.next queue now).2
  | _ => .nothing

def RecoveryQueue.step (queue : RecoveryQueue) : RecoveryStep → RecoveryQueue
  | .register email userId =>
      { queue with users := Function.update queue.users email (some userId) }
  | .requestPasswordRecovery email =>
      { queue with
        calls := queue.calls ++ [.requestPasswordRecovery (toLowerCase (trim email)) .called] }
  | .updatePasswordRecoveryRequest id dto actorUserId =>
      { queue with
        calls := queue.calls ++ [.updatePasswordRecoveryRequest id dto actorUserId .called] }
  | .advance index now =>
      match queue.calls[index]? with
      | none => queue
      | some call =>
          let (later, write) := call.next queue now
          { queue with
            requests := write.apply queue.requests
            calls := queue.calls.set index later }

def recovering : Machine RecoveryQueue RecoveryStep where
  step := RecoveryQueue.step

def RecoveryQueue.initial (users : String → Option UserId) : RecoveryQueue where
  users := users
  requests := .empty
  calls := []

/-! ## What is promised -/

/-- For every email at most one request is open or in progress. -/
def RecoveryQueue.OnePending (requests : Table PasswordRecoveryRequest) : Prop :=
  ∀ email, ∀ first ∈ requests, ∀ second ∈ requests, first.isPending email = true →
    second.isPending email = true → first = second

/-- How and by whom a request was closed. -/
def PasswordRecoveryRequest.decision (request : PasswordRecoveryRequest) :
    PasswordRecoveryRequestStatus × Option Time × Option UserId :=
  (request.status, request.resolvedAt, request.resolvedByUserId)

/-- Closed requests keep their decision. -/
def RecoveryQueue.KeepsClosed (before after : Table PasswordRecoveryRequest) : Prop :=
  ∀ request ∈ before, request.isClosed = true →
    ∃ later ∈ after, later.id = request.id ∧ later.decision = request.decision

/-- A step leads to a queue with one pending request for each email, and closed requests
keep their decision. -/
def RecoveryStep.Orderly (queue : RecoveryQueue) (step : RecoveryStep) : Prop :=
  RecoveryQueue.OnePending (queue.step step).requests ∧
    RecoveryQueue.KeepsClosed queue.requests (queue.step step).requests

section Found

variable (requests : Table PasswordRecoveryRequest)

/-- What the call has found is still so: no request of its email is pending, or the request
it decides on is not closed. -/
def RecoveryCall.StillSo : RecoveryCall → Prop
  | .requestPasswordRecovery email (.searched _ none) => latestPending? email requests = none
  | .updatePasswordRecoveryRequest id _ _ (.judged _) =>
      ∀ row ∈ requests.find? id, row.isClosed = false
  | _ => True

/-- The call gives a closed request the decision which it has. -/
def RecoveryCall.Repeats (now : Time) : RecoveryCall → Prop
  | .updatePasswordRecoveryRequest id dto actorUserId (.judged _) =>
      ∃ row ∈ requests.find? id, row.isClosed = true ∧
        row.decision = (dto.status, some now, some actorUserId)
  | _ => False

end Found

/-- The call which takes its next statement finds what it has found before. -/
def RecoveryStep.StillSo (queue : RecoveryQueue) : RecoveryStep → Prop
  | .advance index _ => ∀ call ∈ queue.calls[index]?, call.StillSo queue.requests
  | _ => True

def RecoveryStep.Repeats (queue : RecoveryQueue) : RecoveryStep → Prop
  | .advance index now => ∃ call ∈ queue.calls[index]?, call.Repeats queue.requests now
  | _ => False

/-- The call has nothing left to do. -/
def RecoveryCall.IsOver : RecoveryCall → Prop
  | .requestPasswordRecovery _ (.returned _) | .requestPasswordRecovery _ (.failed _) => True
  | .updatePasswordRecoveryRequest _ _ _ (.returned _)
  | .updatePasswordRecoveryRequest _ _ _ (.failed _) => True
  | _ => False

/-- A call begins when all calls before it are over. -/
def RecoveryStep.InTurn (queue : RecoveryQueue) : RecoveryStep → Prop
  | .requestPasswordRecovery _ | .updatePasswordRecoveryRequest _ _ _ =>
      ∀ call ∈ queue.calls, call.IsOver
  | _ => True

/-! ## One step -/

theorem requests_step (queue : RecoveryQueue) (step : RecoveryStep) :
    (queue.step step).requests = (step.write queue).apply queue.requests := by
  cases step with
  | register email userId =>
      rfl
  | requestPasswordRecovery email =>
      rfl
  | updatePasswordRecoveryRequest id dto actorUserId =>
      rfl
  | advance index now =>
      simp only [RecoveryQueue.step, RecoveryStep.write]
      cases queue.calls[index]? <;> rfl

section Writes

open RecoveryQueue

variable {requests : Table PasswordRecoveryRequest}

/-- A rewrite after which nothing is pending that was not pending before. -/
theorem onePending_update {requestId : RecoveryId}
    {change : PasswordRecoveryRequest → PasswordRecoveryRequest}
    (keeps : ∀ row, Keyed.key (change row) = Keyed.key row)
    (older : ∀ email, ∀ row ∈ requests, row.id = requestId →
      (change row).isPending email = true → row.isPending email = true)
    (single : OnePending requests) : OnePending (requests.update requestId change keeps) := by
  have pendingBefore : ∀ {email : String} {old : PasswordRecoveryRequest}, old ∈ requests →
      (if Keyed.key old = requestId then change old else old).isPending email = true →
        old.isPending email = true := by
    intro email old member pending
    split at pending
    · rename_i same
      exact older email old member same pending
    · exact pending
  intro email first firstMember second secondMember firstPending secondPending
  obtain ⟨firstOld, firstStored, rfl⟩ := Table.exists_of_update firstMember
  obtain ⟨secondOld, secondStored, rfl⟩ := Table.exists_of_update secondMember
  have same := single email firstOld firstStored secondOld secondStored
    (pendingBefore firstStored firstPending) (pendingBefore secondStored secondPending)
  rw [same]

theorem keepsClosed_update {requestId : RecoveryId}
    {change : PasswordRecoveryRequest → PasswordRecoveryRequest}
    (keeps : ∀ row, Keyed.key (change row) = Keyed.key row) :
    KeepsClosed requests (requests.update requestId change keeps) ↔
      ∀ request ∈ requests, request.id = requestId → request.isClosed = true →
        (change request).decision = request.decision := by
  constructor
  · intro kept request member same closed
    obtain ⟨later, stored, sameId, decided⟩ := kept request member closed
    have rewritten : change request ∈ requests.update requestId change keeps := by
      rw [Table.mem_update]
      exact ⟨request, member, (if_pos same).symm⟩
    have sameKey : Keyed.key (change request) = Keyed.key later :=
      (keeps request).trans sameId.symm
    rw [Table.eq_of_key_eq _ rewritten stored sameKey, decided]
  · intro kept request member closed
    by_cases same : request.id = requestId
    · refine ⟨change request, ?_, keeps request, kept request member same closed⟩
      rw [Table.mem_update]
      exact ⟨request, member, (if_pos same).symm⟩
    · refine ⟨request, ?_, rfl, rfl⟩
      rw [Table.mem_update]
      exact ⟨request, member, (if_neg same).symm⟩

theorem isPending_or_isClosed (request : PasswordRecoveryRequest) :
    request.isPending request.email = true ∨ request.isClosed = true := by
  cases status : request.status <;>
    simp [PasswordRecoveryRequest.isPending, PasswordRecoveryRequest.isClosed, status]

/-- A new request leaves one pending for each email only if there was none for its own. -/
theorem onePending_create {email : String} {userId : Option UserId} {now : Time}
    (single : OnePending requests) :
    OnePending (requests.insert (openedRequest email userId now)) ↔
      ∀ request ∈ requests, request.isPending email = false := by
  have opened : (openedRequest email userId now requests.nextId).isPending email = true := by
    simp [openedRequest, PasswordRecoveryRequest.isPending]
  constructor
  · intro after request member
    by_contra pending
    have same := after email request ((Table.mem_insert _ _ _).mpr (.inr member)) _
      ((Table.mem_insert _ _ _).mpr (.inl rfl)) (by simpa using pending) opened
    have bound := requests.key_lt_nextId member
    rw [same] at bound
    exact Nat.lt_irrefl _ bound
  · intro fresh other first firstMember second secondMember firstPending secondPending
    have mine : (openedRequest email userId now requests.nextId).isPending other = true →
        other = email := by
      intro pending
      simp only [openedRequest, PasswordRecoveryRequest.isPending, Bool.and_eq_true] at pending
      exact (of_decide_eq_true pending.1).symm
    rcases Table.eq_or_mem_of_insert firstMember with rfl | firstOld
    · rcases Table.eq_or_mem_of_insert secondMember with rfl | secondOld
      · rfl
      · rw [mine firstPending, fresh second secondOld] at secondPending
        cases secondPending
    · rcases Table.eq_or_mem_of_insert secondMember with rfl | secondOld
      · rw [mine secondPending, fresh first firstOld] at firstPending
        cases firstPending
      · exact single other first firstOld second secondOld firstPending secondPending

/-- A row which is closed keeps its decision exactly if the update repeats it. -/
theorem decision_decidedRequest (existing row : PasswordRecoveryRequest)
    (dto : UpdatePasswordRecoveryRequestDto) (actorUserId : UserId) (now : Time)
    (closed : row.isClosed = true) :
    (decidedRequest existing dto actorUserId now row).decision = row.decision ↔
      row.decision = (dto.status, some now, some actorUserId) := by
  have status : row.status = .resolved ∨ row.status = .canceled := by
    simpa [PasswordRecoveryRequest.isClosed] using closed
  constructor
  · intro same
    have sameStatus : dto.status = row.status := congrArg Prod.fst same
    rw [← same]
    rw [← sameStatus] at status
    simp [PasswordRecoveryRequest.decision, decidedRequest, status]
  · intro same
    have sameStatus : row.status = dto.status := congrArg Prod.fst same
    rw [same]
    rw [sameStatus] at status
    simp [PasswordRecoveryRequest.decision, decidedRequest, status]

theorem onePending_decide {requestId : RecoveryId} {existing row : PasswordRecoveryRequest}
    {dto : UpdatePasswordRecoveryRequestDto} {actorUserId : UserId} {now : Time}
    (single : OnePending requests) (found : requests.find? requestId = some row)
    (kept : row.isClosed = true →
      (decidedRequest existing dto actorUserId now row).decision = row.decision) :
    OnePending (RecoveryWrite.apply requests (.decide requestId existing dto actorUserId now)) := by
  apply onePending_update _ _ single
  intro email other member same pending
  obtain rfl : other = row :=
    requests.eq_of_key_eq member (requests.mem_of_find? found)
      (Eq.trans same (requests.key_of_find? found).symm)
  have sameEmail : other.email = email := by
    simp only [decidedRequest, PasswordRecoveryRequest.isPending, Bool.and_eq_true] at pending
    exact of_decide_eq_true pending.1
  rcases isPending_or_isClosed other with open_ | closed
  · exact sameEmail ▸ open_
  · have status : (decidedRequest existing dto actorUserId now other).status = other.status :=
      congrArg Prod.fst (kept closed)
    simp only [PasswordRecoveryRequest.isPending, status] at pending
    rw [PasswordRecoveryRequest.isPending]
    exact pending

/-- The update of a stored request keeps the closed ones if it keeps this one. -/
theorem keepsClosed_decide {requestId : RecoveryId} {existing row : PasswordRecoveryRequest}
    {dto : UpdatePasswordRecoveryRequestDto} {actorUserId : UserId} {now : Time}
    (found : requests.find? requestId = some row) :
    KeepsClosed requests
        (RecoveryWrite.apply requests (.decide requestId existing dto actorUserId now)) ↔
      (row.isClosed = true →
        (decidedRequest existing dto actorUserId now row).decision = row.decision) := by
  refine (keepsClosed_update _).trans
    ⟨fun kept closed => ?_, fun kept request member same => ?_⟩
  · exact kept row (requests.mem_of_find? found) (requests.key_of_find? found) closed
  · obtain rfl : request = row :=
      requests.eq_of_key_eq member (requests.mem_of_find? found)
        (Eq.trans same (requests.key_of_find? found).symm)
    exact kept

/-- The query finds nothing exactly if no request of the email is pending. -/
theorem latestPending?_eq_none_iff {email : String} :
    latestPending? email requests = none ↔
      ∀ request ∈ requests, request.isPending email = false := by
  have fold : ∀ (rows : List PasswordRecoveryRequest) (latest : Option PasswordRecoveryRequest),
      rows.foldl (fun latest request =>
        match latest with
        | none => some request
        | some found => some (if request.isNewerThan found then request else found)) latest =
          none ↔ latest = none ∧ rows = [] := by
    intro rows
    induction rows with
    | nil =>
        simp
    | cons request rest inductionHypothesis =>
        intro latest
        rw [List.foldl_cons, inductionHypothesis]
        cases latest <;> simp
  rw [latestPending?, fold, and_iff_right rfl]
  constructor
  · intro empty request member
    by_contra pending
    have found : request ∈ requests.findMany (PasswordRecoveryRequest.isPending email) :=
      List.mem_filter.mpr ⟨member, by simpa using pending⟩
    rw [empty] at found
    cases found
  · intro fresh
    refine List.eq_nil_iff_forall_not_mem.mpr fun request found => ?_
    obtain ⟨member, pending⟩ := List.mem_filter.mp found
    rw [fresh request member] at pending
    cases pending

end Writes

/-- The write leads to one pending request for each email and keeps the closed ones. -/
def RecoveryWrite.Orderly (requests : Table PasswordRecoveryRequest) (write : RecoveryWrite) :
    Prop :=
  RecoveryQueue.OnePending (write.apply requests) ∧
    RecoveryQueue.KeepsClosed requests (write.apply requests)

section Orderly

variable {queue : RecoveryQueue} (single : RecoveryQueue.OnePending queue.requests)

include single

theorem nothing_orderly : RecoveryWrite.nothing.Orderly queue.requests :=
  ⟨single, fun request member _ => ⟨request, member, rfl, rfl⟩⟩

theorem identify_orderly (requestId : RecoveryId) (userId : UserId) :
    (RecoveryWrite.identify requestId userId).Orderly queue.requests := by
  refine ⟨onePending_update _ ?_ single, ?_⟩
  · intro email row member same pending
    exact pending
  · apply (keepsClosed_update _).mpr
    intro request member same closed
    rfl

theorem create_orderly_iff (email : String) (userId : Option UserId) (now : Time) :
    (RecoveryWrite.create email userId now).Orderly queue.requests ↔
      latestPending? email queue.requests = none := by
  rw [latestPending?_eq_none_iff, ← onePending_create single]
  refine and_iff_left fun request member _ => ⟨request, ?_, rfl, rfl⟩
  rw [RecoveryWrite.apply, Table.mem_insert]
  exact .inr member

theorem decide_orderly_iff {requestId : RecoveryId} {existing row : PasswordRecoveryRequest}
    {dto : UpdatePasswordRecoveryRequestDto} {actorUserId : UserId} {now : Time}
    (found : queue.requests.find? requestId = some row) :
    (RecoveryWrite.decide requestId existing dto actorUserId now).Orderly queue.requests ↔
      row.isClosed = false ∨
        row.isClosed = true ∧ row.decision = (dto.status, some now, some actorUserId) := by
  have kept : RecoveryQueue.KeepsClosed queue.requests
      (RecoveryWrite.apply queue.requests (.decide requestId existing dto actorUserId now)) ↔ _ :=
    keepsClosed_decide found
  rw [RecoveryWrite.Orderly, and_iff_right_of_imp fun closed =>
    onePending_decide single found (kept.mp closed), kept]
  cases closed : row.isClosed with
  | false =>
      simp
  | true =>
      simp [decision_decidedRequest existing row dto actorUserId now closed]

/-- The next statement of a request for recovery: only a creation can disturb. -/
theorem request_orderly_iff (now : Time) (email : String) (phase : RequestPhase) :
    (phase.next queue now email).2.Orderly queue.requests ↔
      (RecoveryCall.requestPasswordRecovery email phase).StillSo queue.requests := by
  cases phase with
  | searched userId existing =>
      cases existing with
      | none =>
          exact create_orderly_iff single email userId now
      | some existing =>
          refine iff_of_true ?_ trivial
          simp only [RequestPhase.next]
          split
          · split_ifs
            · exact identify_orderly single _ _
            · exact nothing_orderly single
          · exact nothing_orderly single
  | _ =>
      exact iff_of_true (nothing_orderly single) trivial

/-- The next statement of an update: only the decision can disturb. -/
theorem update_orderly_iff (now : Time) (id : RecoveryId)
    (dto : UpdatePasswordRecoveryRequestDto) (actorUserId : UserId) (phase : UpdatePhase) :
    (phase.next queue now id dto actorUserId).2.Orderly queue.requests ↔
      (RecoveryCall.updatePasswordRecoveryRequest id dto actorUserId phase).StillSo
          queue.requests ∨
        (RecoveryCall.updatePasswordRecoveryRequest id dto actorUserId phase).Repeats
          queue.requests now := by
  cases phase with
  | judged existing =>
      simp only [UpdatePhase.next, RecoveryCall.StillSo, RecoveryCall.Repeats]
      cases found : queue.requests.find? id with
      | none =>
          exact iff_of_true (nothing_orderly single) (.inl fun _ missing => by cases missing)
      | some row =>
          simpa using decide_orderly_iff single found
  | called =>
      refine iff_of_true ?_ (.inl trivial)
      simp only [UpdatePhase.next]
      split_ifs
      · exact nothing_orderly single
      · split
        · exact nothing_orderly single
        · split_ifs
          · exact nothing_orderly single
          · exact nothing_orderly single
  | _ =>
      exact iff_of_true (nothing_orderly single) (.inl trivial)

end Orderly

/-- Under the rule of one pending request, a step is orderly exactly when the call finds
what it has found before, or repeats a decision. -/
theorem orderly_iff (queue : RecoveryQueue) (step : RecoveryStep)
    (single : RecoveryQueue.OnePending queue.requests) :
    step.Orderly queue ↔ step.StillSo queue ∨ step.Repeats queue := by
  rw [RecoveryStep.Orderly, requests_step]
  change (step.write queue).Orderly queue.requests ↔ _
  cases step with
  | advance index now =>
      simp only [RecoveryStep.write, RecoveryStep.StillSo, RecoveryStep.Repeats, Option.mem_def]
      cases queue.calls[index]? with
      | none =>
          exact iff_of_true (nothing_orderly single) (.inl fun _ missing => by cases missing)
      | some call =>
          simp only [Option.some.injEq, forall_eq', exists_eq_left']
          cases call with
          | requestPasswordRecovery email phase =>
              refine (request_orderly_iff single now email phase).trans (or_iff_left ?_).symm
              rintro ⟨⟩
          | updatePasswordRecoveryRequest id dto actorUserId phase =>
              exact update_orderly_iff single now id dto actorUserId phase
  | _ =>
      exact iff_of_true (nothing_orderly single) (.inl trivial)

/-! ## Calls one after another -/

/-- Only the last call is not over, and what it has found is still so. -/
structure RecoveryQueue.OneAtWork (queue : RecoveryQueue) : Prop where
  last : ∀ index call, queue.calls[index]? = some call →
    call.IsOver ∨ index + 1 = queue.calls.length
  still : ∀ call ∈ queue.calls, call.StillSo queue.requests

theorem RecoveryCall.IsOver.stillSo {call : RecoveryCall} (ended : call.IsOver)
    (requests : Table PasswordRecoveryRequest) : call.StillSo requests := by
  cases call with
  | requestPasswordRecovery email phase =>
      cases phase with
      | searched _ _ => exact ended.elim
      | _ => trivial
  | updatePasswordRecoveryRequest id dto actorUserId phase =>
      cases phase with
      | judged _ => exact ended.elim
      | _ => trivial

/-- A call which is over stays as it is and writes nothing. -/
theorem RecoveryCall.IsOver.next {call : RecoveryCall} (ended : call.IsOver)
    (queue : RecoveryQueue) (now : Time) : call.next queue now = (call, .nothing) := by
  cases call with
  | requestPasswordRecovery email phase =>
      cases phase with
      | returned _ | failed _ => rfl
      | _ => exact ended.elim
  | updatePasswordRecoveryRequest id dto actorUserId phase =>
      cases phase with
      | returned _ | failed _ => rfl
      | _ => exact ended.elim

/-- What a call has found with its statement is so after it. -/
theorem RecoveryCall.stillSo_next (call : RecoveryCall) (queue : RecoveryQueue) (now : Time) :
    (call.next queue now).1.StillSo ((call.next queue now).2.apply queue.requests) := by
  cases call with
  | requestPasswordRecovery email phase =>
      cases phase with
      | identified userId =>
          simp only [RecoveryCall.next, RequestPhase.next, RecoveryWrite.apply]
          cases found : latestPending? email queue.requests with
          | none => exact found
          | some existing => trivial
      | searched userId existing =>
          cases existing with
          | none => trivial
          | some existing =>
              simp only [RecoveryCall.next, RequestPhase.next]
              split
              · split_ifs <;> trivial
              · trivial
      | _ => trivial
  | updatePasswordRecoveryRequest id dto actorUserId phase =>
      cases phase with
      | called =>
          simp only [RecoveryCall.next, UpdatePhase.next]
          split_ifs
          · trivial
          · cases found : queue.requests.find? id with
            | none => trivial
            | some existing =>
                dsimp only
                split_ifs with closed
                · trivial
                · intro row stored
                  obtain rfl : existing = row := Option.some.inj (found.symm.trans stored)
                  simpa using closed
      | judged existing =>
          simp only [RecoveryCall.next, UpdatePhase.next]
          split <;> trivial
      | _ => trivial

theorem RecoveryQueue.OneAtWork.stillSo_step {queue : RecoveryQueue}
    (alone : queue.OneAtWork) (step : RecoveryStep) : step.StillSo queue := by
  cases step with
  | advance index now =>
      exact fun call taken => alone.still call (List.mem_of_getElem? taken)
  | _ =>
      trivial

/-- The last call takes its next statement; all others are over. -/
theorem oneAtWork_advance {queue : RecoveryQueue} (alone : queue.OneAtWork) (now : Time)
    {index : Nat} (call : RecoveryCall) (last : index + 1 = queue.calls.length) :
    RecoveryQueue.OneAtWork
      { queue with
        requests := (call.next queue now).2.apply queue.requests
        calls := queue.calls.set index (call.next queue now).1 } := by
  refine ⟨fun other found stored => ?_, fun found member => ?_⟩
  · rw [List.length_set]
    by_cases same : other = index
    · exact .inr (same ▸ last)
    · rw [List.getElem?_set_ne (Ne.symm same)] at stored
      exact alone.last other found stored
  · obtain ⟨other, stored⟩ := List.getElem?_of_mem member
    by_cases same : index = other
    · subst same
      rw [List.getElem?_set_self (by omega)] at stored
      obtain rfl := Option.some.inj stored
      exact call.stillSo_next queue now
    · rw [List.getElem?_set_ne same] at stored
      rcases alone.last other found stored with ended | alsoLast
      · exact ended.stillSo _
      · omega

/-- A new call begins when all others are over. -/
theorem oneAtWork_call {queue : RecoveryQueue} (alone : queue.OneAtWork) {call : RecoveryCall}
    (still : call.StillSo queue.requests) (ended : ∀ earlier ∈ queue.calls, earlier.IsOver) :
    RecoveryQueue.OneAtWork { queue with calls := queue.calls ++ [call] } := by
  refine ⟨fun index found stored => ?_, fun found member => ?_⟩
  · rw [List.length_append, List.length_singleton]
    rcases Nat.lt_or_ge index queue.calls.length with earlier | later
    · rw [List.getElem?_append_left earlier] at stored
      exact .inl (ended found (List.mem_of_getElem? stored))
    · have bound := (List.getElem?_eq_some_iff.mp stored).1
      rw [List.length_append, List.length_singleton] at bound
      exact .inr (by omega)
  · rcases List.mem_append.mp member with earlier | new
    · exact alone.still found earlier
    · obtain rfl := List.mem_singleton.mp new
      exact still

theorem oneAtWork_step (queue : RecoveryQueue) (step : RecoveryStep)
    (alone : queue.OneAtWork) (inTurn : step.InTurn queue) : (queue.step step).OneAtWork := by
  cases step with
  | register email userId =>
      exact ⟨alone.last, alone.still⟩
  | requestPasswordRecovery email =>
      exact oneAtWork_call alone trivial inTurn
  | updatePasswordRecoveryRequest id dto actorUserId =>
      exact oneAtWork_call alone trivial inTurn
  | advance index now =>
      simp only [RecoveryQueue.step]
      cases taken : queue.calls[index]? with
      | none =>
          exact alone
      | some call =>
          rcases alone.last index call taken with ended | last
          · obtain ⟨bound, rfl⟩ := List.getElem?_eq_some_iff.mp taken
            simp only [ended.next, RecoveryWrite.apply, List.set_getElem_self]
            exact alone
          · exact oneAtWork_advance alone now call last

/-! ## Runs -/

/-- Along every interleaving the queue is orderly exactly as long as every call which takes
its next statement finds what it has found before, or repeats a decision; calls which come
one after another always do. -/
theorem recovery_orderly_iff (users : String → Option UserId) (steps : List RecoveryStep) :
    (recovering.Along (fun queue step => step.Orderly queue) (.initial users) steps ↔
      recovering.Along (fun queue step => step.StillSo queue ∨ step.Repeats queue)
        (.initial users) steps) ∧
    (recovering.Along (fun queue step => step.InTurn queue) (.initial users) steps →
      recovering.Along (fun queue step => step.StillSo queue) (.initial users) steps) := by
  constructor
  · have empty : RecoveryQueue.OnePending (RecoveryQueue.initial users).requests := by
      intro email first member
      cases member
    exact @Machine.along_iff_along _ _ recovering
      (fun queue => RecoveryQueue.OnePending queue.requests) _ _
      (fun queue step single => orderly_iff queue step single)
      (fun queue step single found => ((orderly_iff queue step single).mpr found).1)
      _ empty steps
  · intro inTurn
    have none : RecoveryQueue.OneAtWork (RecoveryQueue.initial users) :=
      ⟨fun index call found => (by simp [RecoveryQueue.initial] at found),
        fun call member => (by cases member)⟩
    exact Machine.Along.of_invariant
      (fun queue step alone _ => alone.stillSo_step step)
      oneAtWork_step none inTurn

/-- Two calls have both found nothing, and the first has created its request. -/
def sampleTwoRecoveries : List RecoveryStep :=
  [.requestPasswordRecovery "client@tchuno.test",
    .requestPasswordRecovery "client@tchuno.test",
    .advance 0 1, .advance 0 1, .advance 1 1, .advance 1 1, .advance 0 1]

/-- Two overlapping calls for one email leave two open requests. -/
theorem overlapping_calls_duplicate :
    ¬ ∀ users steps,
      recovering.Along (fun queue step => step.Orderly queue) (.initial users) steps := by
  intro always
  have along := always (fun _ => none) (sampleTwoRecoveries ++ [.advance 1 1])
  obtain ⟨_, orderly, _⟩ := (Machine.along_append _ _ _ _ _).mp along
  have same := orderly.1 "client@tchuno.test"
    (openedRequest "client@tchuno.test" none 1 0)
    (@Table.mem_of_find? _ _ _ 0 _ (by decide +kernel))
    (openedRequest "client@tchuno.test" none 1 1)
    (@Table.mem_of_find? _ _ _ 1 _ (by decide +kernel))
    (by decide +kernel) (by decide +kernel)
  cases congrArg PasswordRecoveryRequest.id same

end Tchuno.Auth
