import Tchuno.Payments.Conservation
import Tchuno.Payments.Database
import Tchuno.Payments.Growth

/-!
# Job moves by concurrent participants

A move checks the transition on the status it has read and then writes the job
without looking again.  Two moves which overlap may both pass the check, so the
second can take a job out of a status which was final.
-/

namespace Tchuno.Payments

open Tchuno.Library Tchuno.Library.Ecma

/-! ## The call, read by read -/

/-- The job as it was read, and what the requester is in it. -/
structure JobParty where
  job : Job
  isClient : Bool
  isWorker : Bool

def partyGate (jobId : JobId) (requesterId : UserId) (store : Store) :
    Except ApiError JobParty := do
  let job ← orThrow (store.jobs.find? jobId) (.notFound "Job not found")
  let workerProfile ← orThrow (store.market.workerProfiles.find? job.workerProfileId)
    (.database "P2025")
  let isClient := job.clientId = requesterId
  let isWorker := workerProfile.userId = requesterId
  guardThat (isClient ∨ isWorker) (.forbidden "You are not allowed to update this job")
  pure ⟨job, isClient, isWorker⟩

def legacyGate (job : Job) : Except ApiError Unit :=
  guardThat (job.requestId.isSome ∧ job.proposalId.isSome)
    (.conflict "Legacy direct jobs cannot progress. Use ServiceRequest -> Proposal -> Selection flow.")

def executionPaymentGate (job : Job) (store : Store) : Except ApiError Unit :=
  guardThat
    ((store.intents.findFirst? fun intent =>
      intent.jobId = job.id && intent.status.isPaid).isSome = true)
    (.conflict "Deposit payment is required before provider execution workflow")

def moveGate (dto : UpdateJobStatusDto) (party : JobParty) : Except ApiError Unit := do
  guardThat
    (isTransitionAllowed party.job.status dto.status party.isClient party.isWorker = true)
    (.conflict ("Invalid transition from " ++ party.job.status.name ++ " to " ++
      dto.status.name))
  guardThat (dto.status = .canceled ∨ truthy dto.cancelReason = none)
    (.badRequest "cancelReason can only be provided when status=CANCELED")
  guardThat (dto.status ≠ .canceled ∨ (truthy (dto.cancelReason.map trim)).isSome)
    (.badRequest "cancelReason is required when status=CANCELED")

/-- The statuses which need a paid deposit. -/
def JobStatus.isExecution (status : JobStatus) : Bool :=
  [JobStatus.accepted, .inProgress, .completed].contains status

/-- The reads of the concurrent call together make the gate of the sequential one. -/
theorem updateStatusGate_eq_ok {jobId : JobId} {requesterId : UserId}
    {dto : UpdateJobStatusDto} {store : Store} {job : Job} :
    updateStatusGate jobId requesterId dto store = .ok job ↔
      ∃ party, partyGate jobId requesterId store = .ok party ∧
        (dto.status.isExecution = true → legacyGate party.job = .ok () ∧
          executionPaymentGate party.job store = .ok ()) ∧
        moveGate dto party = .ok () ∧ party.job = job := by
  simp only [updateStatusGate, partyGate, legacyGate, executionPaymentGate, moveGate,
    gate_bind_eq_ok, orThrow_eq_ok, guardThat_eq_ok, gate_pure_eq_ok, JobStatus.isExecution,
    List.contains_iff_mem]
  constructor
  · rintro ⟨found, lookup, profile, worker, _, involved, rest⟩
    split_ifs at rest with execution
    · simp only [gate_bind_eq_ok, guardThat_eq_ok, gate_pure_eq_ok] at rest
      obtain ⟨_, current, _, paid, _, allowed, _, noReason, _, reason, rfl⟩ := rest
      exact ⟨_, ⟨found, lookup, profile, worker, (), involved, rfl⟩,
        fun _ => ⟨current, paid⟩, ⟨(), allowed, (), noReason, reason⟩, rfl⟩
    · simp only [gate_bind_eq_ok, guardThat_eq_ok, gate_pure_eq_ok] at rest
      obtain ⟨_, allowed, _, noReason, _, reason, rfl⟩ := rest
      exact ⟨_, ⟨found, lookup, profile, worker, (), involved, rfl⟩,
        fun isExecution => absurd isExecution execution, ⟨(), allowed, (), noReason, reason⟩,
        rfl⟩
  · rintro ⟨_, ⟨found, lookup, profile, worker, _, involved, rfl⟩, ready,
      ⟨_, allowed, _, noReason, reason⟩, rfl⟩
    refine ⟨found, lookup, profile, worker, (), involved, ?_⟩
    split_ifs with execution
    · obtain ⟨current, paid⟩ := ready execution
      simp only [gate_bind_eq_ok, guardThat_eq_ok, gate_pure_eq_ok]
      exact ⟨(), current, (), paid, (), allowed, (), noReason, (), reason, trivial⟩
    · simp only [gate_bind_eq_ok, guardThat_eq_ok, gate_pure_eq_ok]
      exact ⟨(), allowed, (), noReason, (), reason, trivial⟩

/-- The columns a move writes; which timestamps are missing is decided on the row as
it was read. -/
def movedFrom (snapshot : Job) (dto : UpdateJobStatusDto) (requesterId : UserId)
    (now : Time) (row : Job) : Job :=
  let next := dto.status
  { row with
    status := next
    acceptedAt :=
      if next = .accepted ∧ snapshot.acceptedAt = none then some now else row.acceptedAt
    startedAt :=
      if next = .inProgress ∧ snapshot.startedAt = none then some now else row.startedAt
    completedAt :=
      if next = .completed ∧ snapshot.completedAt = none then some now else row.completedAt
    canceledAt :=
      if next = .canceled ∧ snapshot.canceledAt = none then some now else row.canceledAt
    canceledBy := if next = .canceled then some requesterId else row.canceledBy
    cancelReason := if next = .canceled then dto.cancelReason.map trim else row.cancelReason }

/-- With nobody in between, this is the move of the sequential service. -/
theorem movedFrom_self (job : Job) (dto : UpdateJobStatusDto) (requesterId : UserId)
    (now : Time) : movedFrom job dto requesterId now job = movedJob dto requesterId now job := by
  have stamp : ∀ (isNext : Prop) [Decidable isNext] (at? : Option Time),
      (if isNext ∧ at? = none then some now else at?) =
        if isNext then at?.or (some now) else at? := by
    intro isNext _ at?
    cases at? <;> by_cases holds : isNext <;> simp [holds]
  simp only [movedFrom, movedJob, stamp]

/-- `paymentIntent.updateMany`: the intents it finds are locked, and canceled where the
filter still holds of them. -/
def Procedure.cancelIntents (jobId : JobId) : Procedure Unit := do
  let found ← .select (.intentsOf jobId) fun database =>
    ((database.intents.rows.filter (isCancelable jobId)).map PaymentIntent.id)
  .lockAll (found.map .intent)
  .write fun database =>
    { database with
      intents := database.intents.updateMany
        (fun intent => found.contains intent.id && isCancelable jobId intent) canceledIntent
        canceledIntent_key }

def Procedure.assertExecutionPaymentReady (dto : UpdateJobStatusDto) (job : Job) :
    Procedure Unit :=
  if dto.status.isExecution then do
    .check (legacyGate job)
    .consult (.intentsOf job.id) fun database => executionPaymentGate job database.toStore
  else
    pure ()

def Procedure.updateStatus (jobId : JobId) (requesterId : UserId) (dto : UpdateJobStatusDto)
    (now : Time) : Procedure Job := do
  let party ← .consult (.job jobId) fun database => partyGate jobId requesterId database.toStore
  Procedure.assertExecutionPaymentReady dto party.job
  .check (moveGate dto party)
  .transaction do
    let moved ← Procedure.updateJob jobId (movedFrom party.job dto requesterId now)
    if dto.status = .canceled then
      Procedure.cancelIntents jobId
    else
      pure ()
    pure moved

/-- A call with all its inputs. -/
structure StatusCall where
  jobId : JobId
  requesterId : UserId
  dto : UpdateJobStatusDto
  now : Time

def StatusCall.procedure (call : StatusCall) : Procedure Job :=
  Procedure.updateStatus call.jobId call.requesterId call.dto call.now

/-! ## Final statuses -/

def JobStatus.isFinal (status : JobStatus) : Bool :=
  status = .completed || status = .canceled

/-- The timestamps of the final statuses are set in those statuses only. -/
structure Job.Timed (job : Job) : Prop where
  completed : job.completedAt.isSome → job.status = .completed
  canceled : job.canceledAt.isSome → job.status = .canceled

theorem Job.Timed.not_both {job : Job} (timed : job.Timed) :
    ¬ (job.completedAt.isSome ∧ job.canceledAt.isSome) := by
  rintro ⟨completed, canceled⟩
  have clash := (timed.completed completed).symm.trans (timed.canceled canceled)
  cases clash

theorem Job.Timed.no_timestamps {job : Job} (timed : job.Timed)
    (unsettled : ¬ job.status.isFinal = true) :
    job.completedAt = none ∧ job.canceledAt = none := by
  constructor
  · cases stamp : job.completedAt with
    | none => rfl
    | some time =>
        have status := timed.completed (by rw [stamp]; rfl)
        exact absurd (by rw [status]; rfl) unsettled
  · cases stamp : job.canceledAt with
    | none => rfl
    | some time =>
        have status := timed.canceled (by rw [stamp]; rfl)
        exact absurd (by rw [status]; rfl) unsettled

/-- A move of a job which is not in another final status keeps the timestamps. -/
theorem Job.Timed.moved {row : Job} (timed : row.Timed) {dto : UpdateJobStatusDto}
    (open' : row.status.isFinal = true → row.status = dto.status) (snapshot : Job)
    (requesterId : UserId) (now : Time) :
    (movedFrom snapshot dto requesterId now row).Timed := by
  by_cases settled : row.status.isFinal = true
  · have same := open' settled
    constructor
    · intro stamped
      by_cases completes : dto.status = .completed
      · exact completes
      · simp only [movedFrom, completes, false_and, if_false] at stamped
        exact same.symm.trans (timed.completed stamped)
    · intro stamped
      by_cases cancels : dto.status = .canceled
      · exact cancels
      · simp only [movedFrom, cancels, false_and, if_false] at stamped
        exact same.symm.trans (timed.canceled stamped)
  · obtain ⟨noCompletion, noCancelation⟩ := timed.no_timestamps settled
    constructor
    · intro stamped
      by_contra different
      have status : dto.status ≠ .completed := different
      simp [movedFrom, status, noCompletion] at stamped
    · intro stamped
      by_contra different
      have status : dto.status ≠ .canceled := different
      simp [movedFrom, status, noCancelation] at stamped

/-! ## Moves in turn -/

def Books.Timed (books : Books) : Prop :=
  ∀ job ∈ books.jobs, job.Timed

/-- The movement moves no job out of a final status. -/
def Movement.FromOpen : Movement → Prop
  | .moveJob job .. => ¬ job.status.isFinal = true
  | _ => True

theorem isTransitionAllowed_open {current next : JobStatus} {isClient isWorker : Bool}
    (allowed : isTransitionAllowed current next isClient isWorker = true) :
    ¬ current.isFinal = true := by
  intro isFinal
  have settled : current = .completed ∨ current = .canceled := by
    simpa [JobStatus.isFinal] using isFinal
  simp only [isTransitionAllowed, if_pos settled, ite_self, Bool.false_eq_true] at allowed

theorem movements_fromOpen (store : Store) (operation : Operation) :
    ∀ movement ∈ operation.movements store, movement.FromOpen := by
  intro movement member
  cases makes_of_mem member with
  | moveJob gate =>
      obtain ⟨party, _, _, moves, rfl⟩ := updateStatusGate_eq_ok.mp gate
      simp only [moveGate, gate_bind_eq_ok, guardThat_eq_ok] at moves
      obtain ⟨_, allowed, _⟩ := moves
      exact isTransitionAllowed_open allowed
  | _ =>
      trivial

theorem Movement.timed_apply {books : Books} {movement : Movement}
    (admitted : movement.Admitted books) (fromOpen : movement.FromOpen)
    (timed : books.Timed) : (Movement.apply books movement).Timed := by
  intro job member
  change job ∈ movement.jobs books at member
  cases movement with
  | selectProposal policy request terms actorUserId =>
      rcases (books.jobs.mem_insert (selectedJob request terms actorUserId)
        fun _ => rfl).mp member with rfl | old
      · exact ⟨fun stamped => absurd stamped (by simp [selectedJob]),
          fun stamped => absurd stamped (by simp [selectedJob])⟩
      · exact timed job old
  | moveJob moved requesterId dto now =>
      obtain ⟨old, oldMember, rfl⟩ :=
        (books.jobs.mem_update (movedJob dto requesterId now) fun _ => rfl).mp member
      split_ifs with same
      · have known : old = moved :=
          books.jobs.eq_of_key_eq oldMember (books.jobs.mem_of_find? admitted) same
        rw [known, ← movedFrom_self]
        exact (known ▸ timed old oldMember).moved (fun settled => absurd settled fromOpen)
          moved requesterId now
      · exact timed old oldMember
  | applyReport report =>
      simp only [Movement.jobs] at member
      split at member
      · split_ifs at member
        · obtain ⟨old, oldMember, rfl⟩ :=
            (books.jobs.mem_update (unlockedJob report.now) fun _ => rfl).mp member
          have same := timed old oldMember
          split_ifs
          · exact ⟨same.completed, same.canceled⟩
          · exact same
        · exact timed job member
      · exact timed job member
  | _ =>
      exact timed job member

theorem perform_timed {store : Store} (consistent : store.Consistent)
    (timed : store.toBooks.Timed) (operation : Operation) :
    (operation.perform store).toBooks.Timed := by
  rw [perform_books consistent.toForeignKeys operation]
  have admitted := (movements_admitted store operation).and_forall_mem
    (movements_fromOpen store operation)
  have ends := @Machine.run_invariant _ _ bookkeeping Books.Timed
    (fun books movement => movement.Admitted books ∧ movement.FromOpen)
    (fun books movement timed made => Movement.timed_apply made.1 made.2 timed)
    store.toBooks timed _ admitted
  exact ends

theorem reachable_timed {store : Store}
    (reachable : payments.Reachable Store.IsInitial store) : store.toBooks.Timed := by
  have both : store.Consistent ∧ store.toBooks.Timed := by
    refine @Machine.Reachable.invariant _ _ payments Store.IsInitial
      (fun store => store.Consistent ∧ store.toBooks.Timed) ?_ ?_ store reachable
    · rintro _ ⟨market, rfl⟩
      exact ⟨Books.initial_consistent, fun job member => absurd member (Table.not_mem_empty job)⟩
    · rintro before operation ⟨consistent, timed⟩
      exact ⟨perform_consistent consistent operation, perform_timed consistent timed operation⟩
  exact both.2

/-! ## The discipline of the moves -/

/-- When the call locks the job to write it, the job is in no final status but the one
the call moves it to. -/
def StatusCall.Unsettled (call : StatusCall) (_ : Option Database) :
    Statement Target → Database → Prop
  | .lock (.job jobId), database =>
      ∀ job ∈ database.jobs.find? jobId, job.status.isFinal = true →
        job.status = call.dto.status
  | _, _ => True

instance StatusCall.decidableUnsettled (call : StatusCall) (seen : Option Database)
    (statement : Statement Target) (database : Database) :
    Decidable (call.Unsettled seen statement database) := by
  rcases statement with _ | row | _ | _ | _
  case lock => cases row <;> unfold StatusCall.Unsettled <;> infer_instance
  all_goals unfold StatusCall.Unsettled; infer_instance

/-- A job which has ended stays as it ended. -/
def Database.KeepsEnded (before after : Database) : Prop :=
  ∀ jobId job, before.jobs.find? jobId = some job → job.status.isFinal = true →
    ∃ later, after.jobs.find? jobId = some later ∧ later.status = job.status

/-- The lock on a job protects its row. -/
def statusDiscipline {ι : Type} (calls : ι → StatusCall) :
    Discipline Database Database Target ι where
  data := id
  invariant := fun database => database.toBooks.Timed
  same := fun row before after => ∀ jobId, row = .job jobId →
    after.jobs.find? jobId = before.jobs.find? jobId
  grows := Database.KeepsEnded
  allowed := fun client => (calls client).Unsettled

section Calls

variable {ι : Type} {calls : ι → StatusCall} {client : ι}

@[simp]
theorem statusDiscipline_data (database : Database) :
    (statusDiscipline calls).data database = database := rfl

/-- A move written under the lock, when the job may be moved. -/
theorem keeps_move {database : Database} {jobId : JobId} (timed : database.toBooks.Timed)
    {dto : UpdateJobStatusDto}
    (unsettled : ∀ job ∈ database.jobs.find? jobId, job.status.isFinal = true →
      job.status = dto.status)
    (snapshot : Job) (requesterId : UserId) (now : Time) {held : Set Target}
    (locked : Target.job jobId ∈ held) {after : Database}
    (written : after.jobs =
      database.jobs.update jobId (movedFrom snapshot dto requesterId now)) :
    (statusDiscipline calls).Keeps held database after where
  invariant := by
    intro job member
    change job ∈ after.jobs at member
    rw [written] at member
    obtain ⟨old, oldMember, rfl⟩ := (database.jobs.mem_update
      (movedFrom snapshot dto requesterId now) fun _ => rfl).mp member
    split_ifs with same
    · have found : database.jobs.find? jobId = some old :=
        database.jobs.find?_eq_some_iff.mpr ⟨oldMember, same⟩
      exact (timed old oldMember).moved (unsettled old found) snapshot requesterId now
    · exact timed old oldMember
  grows := by
    intro other job found settled
    rw [written, Table.find?_update]
    split_ifs with same
    · subst same
      rw [found]
      exact ⟨_, rfl, (unsettled job found settled).symm⟩
    · exact ⟨job, found, rfl⟩
  same := by
    rintro row unlocked other rfl
    have apart : other ≠ jobId := by
      rintro rfl
      exact unlocked locked
    rw [written, Table.find?_update, if_neg apart]

theorem status_tolerates :
    (statusDiscipline calls).Tolerates (· = ·) where
  refl := fun _ => rfl
  trans := fun early late => early.trans late
  keeps := fun {before _} same timed =>
    ⟨before, same, timed, fun _ job found _ => ⟨job, found, rfl⟩, fun _ _ _ _ => rfl⟩

/-- The job of the call may be moved. -/
def Movable (call : StatusCall) (database : Database) : Prop :=
  ∀ job ∈ database.jobs.find? call.jobId, job.status.isFinal = true →
    job.status = call.dto.status

theorem movable_stable {held : Set Target} (locked : Target.job (calls client).jobId ∈ held) :
    (statusDiscipline calls).Stable held (Movable (calls client)) := by
  intro before after _ same _ movable job found
  rw [same _ locked _ rfl] at found
  exact movable job found

theorem leaves_cancelIntents (jobId : JobId) :
    (Procedure.cancelIntents jobId).Leaves
      (fun before after : Database => after.jobs = before.jobs) False := by
  refine (Script.leaves_select _ _).bind fun found => ?_
  refine (Script.leaves_lockAll _).bind fun _ => ?_
  exact Script.leaves_write fun _ => rfl

/-- What follows the write of the job does not touch the jobs. -/
theorem leaves_afterMove (call : StatusCall) (moved : Job) :
    Script.Leaves (fun before after : Database => after.jobs = before.jobs) False
      (do
        if call.dto.status = .canceled then
          Procedure.cancelIntents call.jobId
        else
          pure ()
        pure moved : Procedure Job) := by
  split_ifs
  · exact (leaves_cancelIntents call.jobId).bind fun _ => Script.leaves_pure moved
  · exact Script.leaves_pure moved

/-- The transaction of a move, whatever was read before it. -/
theorem carries_move (snapshot : Job) :
    (statusDiscipline calls).Carries client (· = ·)
      (Script.transaction do
        let moved ← Procedure.updateJob (calls client).jobId
          (movedFrom snapshot (calls client).dto (calls client).requesterId (calls client).now)
        if (calls client).dto.status = .canceled then
          Procedure.cancelIntents (calls client).jobId
        else
          pure ()
        pure moved) := by
  intro finish standing steady ends
  have nothingPending : standing.pending = id := funext fun state => (steady.kept state).symm
  refine Discipline.safe_transaction (Discipline.safe_script_bind ?_)
  have locked : Target.job (calls client).jobId ∈
      insert (Target.job (calls client).jobId) standing.held := Set.mem_insert _ _
  refine @Procedure.safe_update _ _ _ _ _ _ _ _ _ _ _ (Movable (calls client)) ?_
    (movable_stable locked) ?_ ?_
  · intro state _ _ unsettled
    exact unsettled
  · intro state row timed movable found
    refine ⟨_, movable, movable_stable locked, ?_⟩
    have sameJobs : ∀ state : Database, state.jobs = state.jobs := fun _ => rfl
    refine Discipline.safe_of_leaves_inside sameJobs (fun early late => late.trans early)
      (leaves_afterMove (calls client) _) (movable_stable locked) ?_
    intro result middle held know pending
    cases result with
    | error error =>
        exact status_tolerates.closes_error client ends error middle
    | ok moved =>
        refine status_tolerates.closes_ok ends fun later laterTimed knows _ => ?_
        have laterMovable : Movable (calls client) later := by
          rw [know] at knows
          exact knows
        have written : (middle.pending later).jobs = later.jobs.update (calls client).jobId
            (movedFrom snapshot (calls client).dto (calls client).requesterId
              (calls client).now) := by
          rw [pending later, nothingPending]
          rfl
        exact ⟨middle.pending later, rfl, keeps_move laterTimed laterMovable snapshot
          (calls client).requesterId (calls client).now (held locked) written⟩
  · intro state _ _ _
    exact status_tolerates.closes_error client ends _ _

theorem carries_statusCall :
    (statusDiscipline calls).Carries client (· = ·) (calls client).procedure := by
  refine Discipline.Carries.bind (status_tolerates.carries (Script.leaves_consult _ _))
    fun party => ?_
  refine Discipline.Carries.bind ?_ fun _ => ?_
  · unfold Procedure.assertExecutionPaymentReady
    split_ifs
    · refine status_tolerates.carries ?_
      refine Script.Leaves.bind ?_ fun _ => Script.leaves_consult _ _
      exact trivial
    · exact Discipline.carries_pure ()
  · refine Discipline.Carries.bind ?_ fun _ => carries_move party.job
    exact fun _ standing steady ends => ends _ standing steady

theorem safe_statusCall :
    (statusDiscipline calls).Safe client
      ((statusDiscipline calls).Ends (fun _ _ _ _ => True) client)
      (Standing.initial _ _ _) (calls client).procedure :=
  carries_statusCall _ _ ⟨Discipline.stable_true _, fun _ => rfl⟩ fun _ _ _ _ _ _ => trivial

end Calls

/-! ## Final for good -/

section Permanence

variable {ι : Type} [DecidableEq ι]

/-- A run of the calls from a store. -/
def statusRun (store : Store) (calls : ι → StatusCall) (schedule : List (ι × Turn)) :
    Cluster Database Target ι (Except ApiError Job) :=
  (readCommitted Database Target ι (Except ApiError Job)).run
    (Cluster.start ⟨store, []⟩ fun client => (calls client).procedure) schedule

/-- A job which has ended at some point of the run has ended for good, and no job is both
completed and canceled by its timestamps. -/
def FinalForGood (store : Store) (calls : ι → StatusCall) (schedule : List (ι × Turn)) :
    Prop :=
  ∀ early late, schedule = early ++ late →
    (statusRun store calls early).data.KeepsEnded (statusRun store calls schedule).data ∧
      ∀ job ∈ (statusRun store calls early).data.jobs,
        ¬ (job.completedAt.isSome ∧ job.canceledAt.isSome)

theorem Database.KeepsEnded.refl (database : Database) : database.KeepsEnded database :=
  fun _ job found _ => ⟨job, found, rfl⟩

theorem Database.KeepsEnded.trans {first second third : Database}
    (early : first.KeepsEnded second) (late : second.KeepsEnded third) :
    first.KeepsEnded third := by
  intro jobId job found settled
  obtain ⟨middle, foundMiddle, sameEarly⟩ := early jobId job found settled
  obtain ⟨later, foundLater, sameLate⟩ := late jobId middle foundMiddle (sameEarly ▸ settled)
  exact ⟨later, foundLater, sameLate.trans sameEarly⟩

theorem final_of_timed {store : Store} (start : store.toBooks.Timed)
    (calls : ι → StatusCall) (schedule : List (ι × Turn))
    (unsettled : (readCommitted Database Target ι (Except ApiError Job)).Along
      (Cluster.Obeys fun client => (calls client).Unsettled)
      (Cluster.start ⟨store, []⟩ fun client => (calls client).procedure) schedule) :
    FinalForGood store calls schedule := by
  rintro early late rfl
  rw [Machine.along_append] at unsettled
  obtain ⟨unsettledEarly, unsettledLate⟩ := unsettled
  obtain ⟨middle, lawfulEarly⟩ := @Discipline.run_lawful _ _ _ _ _
    (statusDiscipline calls) (fun _ _ _ _ => True) _ _ ⟨store, []⟩ start _
    (fun client => safe_statusCall) early unsettledEarly
  have sameMiddle : middle = (statusRun store calls early).data := lawfulEarly.data
  obtain ⟨after, lawful, ended⟩ := Cluster.run_lawful
    (fun database => middle.KeepsEnded database)
    (fun grows kept => Database.KeepsEnded.trans kept grows) lawfulEarly
    (Database.KeepsEnded.refl middle) unsettledLate
  have sameAfter : after = (statusRun store calls (early ++ late)).data := by
    rw [statusRun, Machine.run_append]
    exact lawful.data
  rw [← sameMiddle, ← sameAfter]
  have timed : middle.toBooks.Timed := lawfulEarly.invariant
  exact ⟨ended, fun job member => (timed job member).not_both⟩

/-- Final statuses are final in every run in which no call locks a job to write it while
the job is in another final status. -/
theorem final_for_good (market : Marketplace) (operations : List Operation)
    (calls : ι → StatusCall) (schedule : List (ι × Turn))
    (unsettled : (readCommitted Database Target ι (Except ApiError Job)).Along
      (Cluster.Obeys fun client => (calls client).Unsettled)
      (Cluster.start ⟨payments.run (Store.initial market) operations, []⟩ fun client =>
        (calls client).procedure) schedule) :
    FinalForGood (payments.run (Store.initial market) operations) calls schedule :=
  final_of_timed (reachable_timed (reachable_run market operations)) calls schedule unsettled

end Permanence

/-! ## A completed job which is canceled -/

section Sample

/-- A paid job which its worker has started. -/
def sampleStarted : List Operation :=
  [sampleSelection, .payIntent 0 0 ⟨none⟩ (sampleAnswer .succeeded "charge") 2,
    .updateStatus 0 1 ⟨.accepted, none⟩ 3, .updateStatus 0 1 ⟨.inProgress, none⟩ 4]

/-- The worker completes the job, its client cancels it. -/
def sampleMoves (client : Bool) : StatusCall :=
  if client then ⟨0, 1, ⟨.completed, none⟩, 5⟩ else ⟨0, 0, ⟨.canceled, some "Late"⟩, 6⟩

/-- The client has read the job when the worker completes it. -/
def sampleCompletedMeanwhile : List (Bool × Turn) :=
  (false, .advance) :: List.replicate 6 (true, .advance)

def sampleCancelation : List (Bool × Turn) :=
  List.replicate 6 (false, .advance)

theorem completed_job_canceled :
    ¬ FinalForGood (payments.run (Store.initial sampleMarketplace) sampleStarted) sampleMoves
      (sampleCompletedMeanwhile ++ sampleCancelation) := by
  intro permanent
  obtain ⟨ended, _⟩ := permanent sampleCompletedMeanwhile sampleCancelation rfl
  have completed : ((statusRun (payments.run (Store.initial sampleMarketplace) sampleStarted)
      sampleMoves sampleCompletedMeanwhile).data.jobs.find? 0).map Job.status =
        some .completed := by
    decide +kernel
  have canceled : ((statusRun (payments.run (Store.initial sampleMarketplace) sampleStarted)
      sampleMoves (sampleCompletedMeanwhile ++ sampleCancelation)).data.jobs.find? 0).map
        Job.status = some .canceled := by
    decide +kernel
  obtain ⟨job, found, status⟩ := Option.map_eq_some_iff.mp completed
  obtain ⟨later, foundLater, same⟩ := ended 0 job found (by rw [status]; rfl)
  rw [foundLater, Option.map_some, same, status] at canceled
  cases canceled

/-- One after the other, the second is refused. -/
def sampleMovesInTurn : List (Bool × Turn) :=
  List.replicate 7 (true, .advance) ++ List.replicate 7 (false, .advance)

theorem completed_in_turn :
    FinalForGood (payments.run (Store.initial sampleMarketplace) sampleStarted) sampleMoves
      sampleMovesInTurn :=
  final_for_good sampleMarketplace sampleStarted sampleMoves sampleMovesInTurn
    (by decide +kernel)

end Sample

end Tchuno.Payments
