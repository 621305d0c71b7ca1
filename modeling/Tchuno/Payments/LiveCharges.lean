import Tchuno.Payments.Coherence

/-!
# Charges on canceled jobs and expired intents

`payIntent` looks at the status of the intent only.  Canceling a job cancels the
intents which await their payment, but not one whose last attempt has failed; an
intent can be created for a canceled job; a late report reopens a canceled
intent; and the expiry of an intent is stored and never read.
-/

namespace Tchuno.Payments

open Tchuno.Library Tchuno.Library.Ecma

/-! ## What is charged -/

def GatewayCall.isCharge : GatewayCall → Bool
  | .requestCharge .. => true
  | _ => false

/-- The statuses in which `payIntent` goes on to the gateway. -/
def payable : List PaymentIntentStatus :=
  [.awaitingPayment, .pendingConfirmation, .failed]

/-- The job of the intent is not canceled and the intent has not expired. -/
def PaymentIntent.Live (intent : PaymentIntent) (books : Books) (now : Time) : Prop :=
  (∀ job ∈ books.jobs.find? intent.jobId, job.status ≠ .canceled) ∧
    ∀ expiresAt ∈ intent.expiresAt, now < expiresAt

instance (intent : PaymentIntent) (books : Books) (now : Time) :
    Decidable (intent.Live books now) :=
  inferInstanceAs (Decidable ((∀ job ∈ books.jobs.find? intent.jobId, _) ∧
    ∀ expiresAt ∈ intent.expiresAt, _))

/-- If the payment requests a charge, the intent is live. -/
def Operation.ChargesLive (store : Store) : Operation → Prop
  | .payIntent intentId actorUserId dto answer now =>
      (Payments.payIntent intentId actorUserId dto answer now store).calls.any
          GatewayCall.isCharge →
        ∀ intent ∈ store.intents.find? intentId, intent.Live store.toBooks now
  | _ => True

instance (store : Store) (operation : Operation) : Decidable (operation.ChargesLive store) := by
  cases operation <;> unfold Operation.ChargesLive <;> infer_instance

/-- The transaction which already carries the key the customer sent. -/
def Books.replayed? (books : Books) (intent : PaymentIntent) (dto : PayPaymentIntentDto)
    (now : Time) : Option PaymentTransaction :=
  if (truthy dto.idempotencyKey).isSome then
    books.transactionByKey? (resolveIdempotencyKey dto intent.id now)
  else
    none

/-- A payment by the customer, in a payable status and not a replay, is made on a
live intent. -/
def Operation.PaysLive (store : Store) : Operation → Prop
  | .payIntent intentId actorUserId dto _ now =>
      ∀ intent ∈ store.intents.find? intentId,
        intent.customerId = actorUserId → intent.status ∈ payable →
        (store.replayed? intent dto now).bind PaymentTransaction.paymentIntentId ≠
          some intent.id →
        intent.Live store.toBooks now
  | _ => True

theorem payIntentGate_charge_iff {intentId : IntentId} {actorUserId : UserId}
    {dto : PayPaymentIntentDto} {now : Time} {store : Store} {intent : PaymentIntent} :
    (∃ idempotencyKey, payIntentGate intentId actorUserId dto now store =
        .ok (.charge intent idempotencyKey)) ↔
      store.intents.find? intentId = some intent ∧ intent.customerId = actorUserId ∧
        intent.status ∈ payable ∧
        (store.replayed? intent dto now).bind PaymentTransaction.paymentIntentId ≠
          some intent.id := by
  simp only [payIntentGate, gate_bind_eq_ok, orThrow_eq_ok, guardThat_eq_ok]
  constructor
  · rintro ⟨idempotencyKey, found, lookup, _, owned, decided⟩
    by_cases paid : found.status = .paidPartial ∨ found.status = .succeeded
    · rw [if_pos paid] at decided
      cases decided
    rw [if_neg paid] at decided
    simp only [gate_bind_eq_ok, guardThat_eq_ok] at decided
    obtain ⟨_, open_, decided⟩ := decided
    by_cases replayed : (store.replayed? found dto now).bind
        PaymentTransaction.paymentIntentId = some found.id
    · cases (if_pos replayed).symm.trans decided
    · cases (if_neg replayed).symm.trans decided
      exact ⟨lookup, owned, by simpa [payable] using open_, replayed⟩
  · rintro ⟨lookup, owned, open_, fresh⟩
    have unpaid : ¬ (intent.status = .paidPartial ∨ intent.status = .succeeded) := by
      rintro (paid | paid) <;> simp [payable, paid] at open_
    refine ⟨resolveIdempotencyKey dto intent.id now, intent, lookup, (), owned, ?_⟩
    rw [if_neg unpaid]
    simp only [gate_bind_eq_ok, guardThat_eq_ok]
    refine ⟨(), by simpa [payable] using open_, ?_⟩
    exact if_neg fresh

/-- The gateway is asked exactly in the branch that charges. -/
theorem payIntent_calls {intentId : IntentId} {actorUserId : UserId}
    {dto : PayPaymentIntentDto} {answer : GatewayResult} {now : Time} {store : Store} :
    (payIntent intentId actorUserId dto answer now store).calls.any GatewayCall.isCharge =
        true ↔
      ∃ intent idempotencyKey, payIntentGate intentId actorUserId dto now store =
        .ok (.charge intent idempotencyKey) := by
  unfold payIntent
  rw [Action.consult_bind_apply]
  rcases gate : payIntentGate intentId actorUserId dto now store with error | decision
  · simp
  · cases decision with
    | alreadyPaid intent =>
        simp
    | replay intent =>
        simp [findIntentOrThrow, Action.consult]
    | charge intent idempotencyKey =>
        simp [GatewayCall.isCharge]

theorem chargesLive_iff (store : Store) (operation : Operation) :
    operation.ChargesLive store ↔ operation.PaysLive store := by
  cases operation with
  | payIntent intentId actorUserId dto answer now =>
      simp only [Operation.ChargesLive, Operation.PaysLive, payIntent_calls]
      constructor
      · intro live intent lookup owned open_ fresh
        obtain ⟨idempotencyKey, gate⟩ :=
          payIntentGate_charge_iff.mpr ⟨lookup, owned, open_, fresh⟩
        exact live ⟨intent, idempotencyKey, gate⟩ intent lookup
      · rintro pays ⟨charged, charges⟩ intent lookup
        obtain ⟨found, owned, open_, fresh⟩ := payIntentGate_charge_iff.mp charges
        obtain rfl : charged = intent := Option.some.inj (found.symm.trans lookup)
        exact pays charged lookup owned open_ fresh
  | _ =>
      exact Iff.rfl

/-! ## Where dead intents that can be charged come from -/

/-- No intent of a canceled job can be paid. -/
def Books.CanceledClosed (books : Books) : Prop :=
  ∀ intent ∈ books.intents, ∀ job ∈ books.jobs, job.id = intent.jobId →
    job.status = .canceled → intent.status ∉ payable

/-- Nothing makes an intent of a canceled job payable: a cancelation leaves no failed
intent behind, no intent is opened for a canceled job, and no report but a success
reaches an intent of one. -/
def Movement.KeepsClosed (books : Books) : Movement → Prop
  | .moveJob job _ dto _ =>
      dto.status = .canceled →
        ∀ intent ∈ books.intents, intent.jobId = job.id → intent.status ≠ .failed
  | .openIntent _ _ _ _ job _ => job.status ≠ .canceled
  | .applyReport report =>
      report.status = .succeeded ∨ ∀ intent ∈ report.intent? books,
        ∀ job ∈ books.jobs.find? intent.jobId, job.status ≠ .canceled
  | _ => True

instance (books : Books) (movement : Movement) : Decidable (movement.KeepsClosed books) :=
  match movement with
  | .moveJob job _ dto _ =>
      inferInstanceAs (Decidable (dto.status = .canceled →
        ∀ intent ∈ books.intents, intent.jobId = job.id → intent.status ≠ .failed))
  | .openIntent _ _ _ _ job _ => inferInstanceAs (Decidable (job.status ≠ .canceled))
  | .applyReport report =>
      inferInstanceAs (Decidable (report.status = .succeeded ∨
        ∀ intent ∈ report.intent? books,
          ∀ job ∈ books.jobs.find? intent.jobId, job.status ≠ .canceled))
  | .selectProposal .. | .attemptCharge .. | .openRefund .. | .cancelRefund .. |
    .rejectRefund .. | .settleRefund .. | .openPayout .. | .approvePayout .. |
    .settlePayout .. | .releaseFunds .. =>
      inferInstanceAs (Decidable True)

/-- A payment is made before the intent expires, and nothing else makes an intent of
a canceled job payable. -/
def Operation.KeepsClosed (store : Store) : Operation → Prop
  | .payIntent intentId _ _ _ now =>
      ∀ intent ∈ store.intents.find? intentId, intent.status ∈ payable →
        ∀ expiresAt ∈ intent.expiresAt, now < expiresAt
  | operation => operation.Meets (fun books movement => movement.KeepsClosed books) store

namespace Movement

variable {books : Books} {movement : Movement}

theorem canceledClosed_apply (admitted : movement.Admitted books)
    (keeps : movement.KeepsClosed books) (closed : books.CanceledClosed) :
    (movement.apply books).CanceledClosed := by
  intro intent member job jobMember ofJob canceled
  cases movement with
  | selectProposal policy request terms actorUserId =>
      simp only [apply, intents, jobs] at member jobMember
      rcases Table.eq_or_mem_of_insert jobMember with rfl | olderJob
      · cases canceled
      rcases Table.eq_or_mem_of_insert member with rfl | older
      · have bound := books.jobs.key_lt_nextId olderJob
        exact absurd ofJob (Nat.ne_of_lt bound)
      · exact closed intent older job olderJob ofJob canceled
  | moveJob target requesterId dto now =>
      simp only [apply, intents, jobs] at member jobMember
      obtain ⟨oldJob, olderJob, rfl⟩ := Table.exists_of_update jobMember
      simp only [key_job] at ofJob canceled
      by_cases cancels : dto.status = .canceled
      · rw [if_pos cancels] at member
        obtain ⟨old, older, rfl⟩ := (Table.mem_updateMany _ _ _ _).mp member
        by_cases cancelable : isCancelable target.id old = true
        · rw [if_pos cancelable]
          simp [canceledIntent, payable]
        rw [if_neg cancelable] at ofJob ⊢
        by_cases moved : oldJob.id = target.id
        · have sameJob : old.jobId = target.id := by
            rw [← ofJob, if_pos moved]
            exact moved
          have notFailed := keeps cancels old older sameJob
          simp only [isCancelable, sameJob] at cancelable
          cases status : old.status <;> simp [status, payable] at cancelable notFailed ⊢
        · rw [if_neg moved] at ofJob canceled
          exact closed old older oldJob olderJob ofJob canceled
      · rw [if_neg cancels] at member
        split_ifs at ofJob canceled with moved
        · exact absurd canceled cancels
        · exact closed intent member oldJob olderJob ofJob canceled
  | openIntent split actorUserId dto now target providerUserId =>
      simp only [apply, intents, jobs] at member jobMember
      rcases Table.eq_or_mem_of_insert member with rfl | older
      · have sameJob := books.jobs.eq_of_key_eq jobMember
          (books.jobs.mem_of_find? admitted.1) ofJob
        rw [sameJob] at canceled
        exact absurd canceled keeps
      · exact closed intent older job jobMember ofJob canceled
  | applyReport report =>
      obtain ⟨oldJob, olderJob, sameJob, sameStatus⟩ :
          ∃ oldJob ∈ books.jobs, job.id = oldJob.id ∧ job.status = oldJob.status := by
        simp only [apply, jobs] at jobMember
        split at jobMember
        · split_ifs at jobMember
          · obtain ⟨oldJob, olderJob, rfl⟩ := Table.exists_of_update jobMember
            refine ⟨oldJob, olderJob, ?_⟩
            split_ifs <;> exact ⟨rfl, rfl⟩
          · exact ⟨job, jobMember, rfl, rfl⟩
        · exact ⟨job, jobMember, rfl, rfl⟩
      rw [sameJob] at ofJob
      rw [sameStatus] at canceled
      simp only [apply, intents] at member
      split at member
      · rename_i opened reported
        obtain ⟨old, older, rfl⟩ := Table.exists_of_update member
        split_ifs at ofJob ⊢ with same
        · rcases keeps with succeeded | alive
          · simp only [succeeded]
            have paid := (isPaid_mapGatewayToIntentStatus .succeeded opened.metadata).mpr rfl
            intro open_
            simp only [payable, List.mem_cons, List.not_mem_nil, or_false] at open_
            rcases open_ with status | status | status <;>
              simp [status, PaymentIntentStatus.isPaid] at paid
          · obtain ⟨_, _, found⟩ := Option.bind_eq_some_iff.mp reported
            have sameIntent := books.intents.eq_of_key_eq older
              (books.intents.mem_of_find? found) same
            rw [sameIntent] at ofJob
            exact absurd canceled (alive opened reported oldJob
              (books.jobs.find?_eq_some_iff.mpr ⟨olderJob, ofJob⟩))
        · exact closed old older oldJob olderJob ofJob canceled
      · exact closed intent member oldJob olderJob ofJob canceled
  | _ =>
      exact closed intent member job jobMember ofJob canceled

end Movement

/-- A payment reports on an intent which is payable, so its job is not canceled. -/
theorem Operation.meets_of_keepsClosed {store : Store} (closed : store.CanceledClosed)
    {operation : Operation} (keeps : operation.KeepsClosed store) :
    operation.Meets (fun books movement => movement.KeepsClosed books) store := by
  cases operation with
  | payIntent intentId actorUserId dto answer now =>
      simp only [Operation.Meets, Operation.movements, chargeMovements]
      split
      · rename_i intent idempotencyKey gate
        obtain ⟨lookup, _, open_, _⟩ := payIntentGate_charge_iff.mp ⟨idempotencyKey, gate⟩
        split_ifs
        · refine ⟨trivial, .inr ?_, trivial⟩
          intro opened reported job found canceled
          have sameIntent : some intent = some opened :=
            (store.intents.find?_key lookup).symm.trans reported
          obtain rfl := Option.some.inj sameIntent
          obtain ⟨jobMember, ofJob⟩ := store.jobs.find?_eq_some_iff.mp found
          exact closed intent (store.intents.mem_of_find? lookup) job jobMember ofJob
            canceled open_
        · trivial
      · trivial
  | _ =>
      exact keeps

theorem perform_canceledClosed {store : Store} (consistent : store.Consistent)
    (closed : store.CanceledClosed) {operation : Operation}
    (keeps : operation.KeepsClosed store) :
    (operation.perform store).CanceledClosed := by
  have along := Machine.Along.and (movements_admitted store operation)
    (Operation.meets_of_keepsClosed closed keeps)
  rw [perform_books consistent.toForeignKeys operation]
  refine (@Machine.run_invariant _ _ bookkeeping
    (fun books => books.Consistent ∧ books.CanceledClosed) _ ?_ _ ⟨consistent, closed⟩ _
    along).2
  rintro books movement ⟨consistentBefore, closedBefore⟩ ⟨admitted, met⟩
  exact ⟨Movement.consistent_apply consistentBefore admitted,
    Movement.canceledClosed_apply admitted met closedBefore⟩

theorem paysLive_of_keepsClosed {store : Store} (closed : store.CanceledClosed)
    {operation : Operation} (keeps : operation.KeepsClosed store) :
    operation.PaysLive store := by
  cases operation with
  | payIntent intentId actorUserId dto answer now =>
      intro intent lookup _ open_ _
      refine ⟨fun job found canceled => ?_, keeps intent lookup open_⟩
      obtain ⟨jobMember, ofJob⟩ := store.jobs.find?_eq_some_iff.mp found
      exact closed intent (store.intents.mem_of_find? lookup) job jobMember ofJob canceled
        open_
  | _ =>
      trivial

/-! ## Runs -/

/-- Along every run, only live intents are charged exactly as long as every payment
that passes the guards is made on a live intent; and this is so in every run which
never makes an intent of a canceled job payable and pays before the expiry. -/
theorem charges_live_iff (market : Marketplace) (operations : List Operation) :
    (payments.Along (fun store operation => operation.ChargesLive store)
        (Store.initial market) operations ↔
      payments.Along (fun store operation => operation.PaysLive store)
        (Store.initial market) operations) ∧
    (payments.Along (fun store operation => operation.KeepsClosed store)
        (Store.initial market) operations →
      payments.Along (fun store operation => operation.ChargesLive store)
        (Store.initial market) operations) := by
  constructor
  · refine @Machine.along_iff_along _ _ payments (fun _ => True) _ _ ?_ ?_ _ trivial operations
    · exact fun store operation _ => chargesLive_iff store operation
    · exact fun _ _ _ _ => trivial
  · refine @Machine.Along.of_invariant _ _ payments
      (fun store => store.Consistent ∧ store.CanceledClosed) _ _ ?_ ?_ _ ?_ operations
    · rintro store operation ⟨_, closed⟩ keeps
      exact (chargesLive_iff store operation).mpr (paysLive_of_keepsClosed closed keeps)
    · rintro store operation ⟨consistent, closed⟩ keeps
      exact ⟨perform_consistent consistent operation,
        perform_canceledClosed consistent closed keeps⟩
    · exact ⟨Books.initial_consistent, fun intent member =>
        absurd member (Table.not_mem_empty intent)⟩

/-- The first attempt fails, the client cancels the job and then pays again. -/
theorem canceled_job_charged :
    ¬ payments.Along (fun store operation => operation.ChargesLive store)
      (Store.initial sampleMarketplace)
      [sampleSelection, .payIntent 0 0 ⟨none⟩ (sampleAnswer .failed "first") 2,
        .updateStatus 0 0 ⟨.canceled, some "Changed my mind"⟩ 3,
        .payIntent 0 0 ⟨none⟩ (sampleAnswer .succeeded "second") 4] := by
  decide +kernel

end Tchuno.Payments
