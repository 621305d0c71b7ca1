import Tchuno.Payments.Runs

/-!
# Money calls and what is stored of them

`payIntent`, `processRefundRequest` and `adminProcessPayout` ask the gateway to
move money before they know that its answer can be stored.  If it cannot, the
call throws, its database transaction is rolled back, and the request to the
gateway is not.
-/

namespace Tchuno.Payments

open Tchuno.Library

/-! ## Recorded calls -/

/-- If the call threw, every request to move money it sent carries a key under
which a transaction is stored. -/
def Recorded {α : Type} (outcome : Outcome Store GatewayCall ApiError α) : Prop :=
  outcome.Failed → ∀ call ∈ outcome.calls, ∀ key ∈ call.moneyKey?,
    (outcome.state.transactionByKey? key).isSome = true

instance {α : Type} (outcome : Outcome Store GatewayCall ApiError α) :
    Decidable (Recorded outcome) :=
  inferInstanceAs (Decidable (_ → ∀ call ∈ outcome.calls, ∀ key ∈ call.moneyKey?, _))

theorem transactionByKey?_isSome {books : Books} {key : String} :
    (books.transactionByKey? key).isSome = true ↔
      ∃ row ∈ books.transactions, row.idempotencyKey = key := by
  simp [Books.transactionByKey?, Table.findFirst?, Table.mem_rows]

/-- Keys stay stored. -/
theorem transactionByKey?_apply {books : Books} (movement : Movement) {key : String}
    (stored : (books.transactionByKey? key).isSome = true) :
    ((movement.apply books).transactionByKey? key).isSome = true := by
  obtain ⟨row, present, rfl⟩ := transactionByKey?_isSome.mp stored
  have found : books.transactions.find? row.id = some row :=
    books.transactions.find?_eq_some_iff.mpr ⟨present, rfl⟩
  obtain ⟨later, foundLater, same⟩ := Movement.transactions_evolve books movement _ _ found
  exact transactionByKey?_isSome.mpr ⟨later, Table.mem_of_find? _ foundLater,
    field_eq same PaymentTransaction.idempotencyKey fun _ => rfl⟩

/-- The key of a transaction is stored with it. -/
theorem transactionByKey?_insert {books later : Books}
    {make : TransactionId → PaymentTransaction} {keyed : ∀ id, Keyed.key (make id) = id}
    (inserted : later.transactions = books.transactions.insert make keyed) :
    (later.transactionByKey?
      (make books.transactions.nextId).idempotencyKey).isSome = true := by
  refine transactionByKey?_isSome.mpr ⟨make books.transactions.nextId, ?_, rfl⟩
  rw [inserted]
  exact (Table.mem_insert _ _ _).mpr (.inl rfl)

section Recorded

variable {α : Type}

theorem recorded_of_no_calls {outcome : Outcome Store GatewayCall ApiError α}
    (noCalls : outcome.calls = []) : Recorded outcome := by
  intro _ call member
  rw [noCalls] at member
  cases member

theorem recorded_of_stored {outcome : Outcome Store GatewayCall ApiError α}
    {call : GatewayCall} {key : String} (calls : outcome.calls = [call])
    (moves : call.moneyKey? = some key)
    (stored : (outcome.state.transactionByKey? key).isSome = true) : Recorded outcome := by
  intro _ other member otherKey carries
  rw [calls, List.mem_singleton] at member
  rw [member, moves] at carries
  obtain rfl := Option.some.inj carries
  exact stored

/-- A call that threw and left the store alone is recorded exactly if its key was
stored before. -/
theorem recorded_of_rollback {outcome : Outcome Store GatewayCall ApiError α}
    {store : Store} {call : GatewayCall} {key : String} (failed : outcome.Failed)
    (state : outcome.state = store) (calls : outcome.calls = [call])
    (moves : call.moneyKey? = some key) :
    Recorded outcome ↔ (store.transactionByKey? key).isSome = true := by
  constructor
  · intro recorded
    rw [← state]
    exact recorded failed call (by simp [calls]) key moves
  · intro stored
    exact recorded_of_stored calls moves (by rw [state]; exact stored)

end Recorded

/-! ## Charges -/

/-- The charge a payment is about to make, with its key. -/
def PayIntentGate.charge? : PayIntentGate → Option (PaymentIntent × String)
  | .charge intent idempotencyKey => some (intent, idempotencyKey)
  | _ => none

/-- If a charge is made, its key is in use or its answer can be stored. -/
def ChargeStorable (store : Store) (intentId : IntentId) (actorUserId : UserId)
    (dto : PayPaymentIntentDto) (answer : GatewayResult) (now : Time) : Prop :=
  ∀ charge ∈ (payIntentGate intentId actorUserId dto now store).toOption.bind
      PayIntentGate.charge?,
    (store.transactionByKey? charge.2).isSome = true ∨
      store.admitsTransaction charge.2 charge.1.provider
        (some answer.providerReference) = true

theorem payIntent_recorded_iff {store : Store} (foreignKeys : store.ForeignKeys)
    (intentId : IntentId) (actorUserId : UserId) (dto : PayPaymentIntentDto)
    (answer : GatewayResult) (now : Time) :
    Recorded (payIntent intentId actorUserId dto answer now store) ↔
      ChargeStorable store intentId actorUserId dto answer now := by
  unfold payIntent ChargeStorable
  rw [Action.consult_bind_apply]
  rcases gate : payIntentGate intentId actorUserId dto now store with error | decision
  · exact iff_of_true (recorded_of_no_calls rfl) (by simp [Except.toOption])
  · cases decision with
    | alreadyPaid intent =>
        exact iff_of_true (recorded_of_no_calls rfl)
          (by simp [Except.toOption, PayIntentGate.charge?])
    | replay intent =>
        exact iff_of_true (recorded_of_no_calls rfl)
          (by simp [Except.toOption, PayIntentGate.charge?])
    | charge intent idempotencyKey =>
        obtain ⟨foundIntent, _⟩ := payIntentGate_charge gate
        have recorded := recordCharge_apply foreignKeys foundIntent idempotencyKey answer now
        simp only [Except.toOption, Option.bind_some, PayIntentGate.charge?,
          Option.mem_some_iff, forall_eq', Action.call_bind_apply]
        split_ifs at recorded with admitted
        · have stored : ((bookkeeping.run store.toBooks
              [.attemptCharge intent idempotencyKey answer now,
                .applyReport (attemptReport store.toBooks intent idempotencyKey answer
                  now)]).transactionByKey? idempotencyKey).isSome = true :=
            transactionByKey?_apply _ (@transactionByKey?_insert store.toBooks _
              (chargeRow intent idempotencyKey answer now) (fun _ => rfl) rfl)
          refine iff_of_true ?_ (.inr admitted)
          obtain ⟨sameState, sameCalls, _⟩ := @Action.bind_of_reads _ _ _ _ _
            (Action.transaction (recordCharge intent idempotencyKey answer now))
            (fun _ => findIntentOrThrow intent.id) (fun _ _ => ⟨rfl, rfl⟩) store
          rw [Action.transaction_of_ok recorded] at sameState sameCalls
          have calls := congrArg
            (List.append [.requestCharge (getAdapter intent.provider) idempotencyKey
              intent.amount intent.currency intent.customerId intent.jobId]) sameCalls
          refine recorded_of_stored calls rfl ?_
          rw [Outcome.after_state, sameState]
          exact stored
        · rw [Action.bind_of_error (Action.transaction_of_error recorded)]
          refine Iff.trans (recorded_of_rollback ?_ rfl rfl rfl) (or_iff_left admitted).symm
          exact Outcome.failed_of_error _ _ _

/-! ## Refunds -/

/-- If a refund is handed to the gateway, its key is in use or its answer can be
stored and booked. -/
def RefundStorable (store : Store) (refundRequestId : RefundId) (answer : GatewayResult) :
    Prop :=
  ∀ order ∈ (processRefundGate refundRequestId store).toOption,
    (store.transactionByKey? (refundIdempotencyKey order.refund.id)).isSome = true ∨
      order.Settles store.toBooks answer

instance (store : Store) (refundRequestId : RefundId) (answer : GatewayResult) :
    Decidable (RefundStorable store refundRequestId answer) :=
  inferInstanceAs (Decidable (∀ order ∈ (processRefundGate refundRequestId store).toOption,
    _ ∨ _))

/-- Also when reads which may throw follow. -/
theorem processRefundRequest_recorded_iff {α : Type} {store : Store}
    {refundRequestId : RefundId} {actorUserId : UserId} {decisionNote : Option String}
    {answer : GatewayResult} {now : Time} {next : RefundRequest → Service α}
    (reads : ∀ refund middle, (next refund middle).state = middle ∧
      (next refund middle).calls = []) :
    Recorded ((processRefundRequest refundRequestId actorUserId decisionNote answer now >>=
        next) store) ↔
      RefundStorable store refundRequestId answer := by
  obtain ⟨sameState, sameCalls, fails⟩ := @Action.bind_of_reads _ _ _ _ _
    (processRefundRequest refundRequestId actorUserId decisionNote answer now) next reads store
  unfold RefundStorable
  rcases gate : processRefundGate refundRequestId store with error | order
  · have refused : processRefundRequest refundRequestId actorUserId decisionNote answer now
        store = ⟨.error error, store, []⟩ := by
      unfold processRefundRequest
      rw [Action.consult_bind_apply, gate]
    rw [refused] at sameCalls
    exact iff_of_true (recorded_of_no_calls sameCalls) (by simp [Except.toOption])
  · obtain ⟨_, stored, pending, _⟩ := processRefundGate_ok gate
    have processed : processRefundRequest refundRequestId actorUserId decisionNote answer now
        store = Action.transaction (settleRefund order actorUserId decisionNote answer now)
          store := by
      unfold processRefundRequest
      rw [Action.consult_bind_apply, gate]
    have settled := @transaction_settleRefund order answer actorUserId decisionNote now store
      stored pending
    simp only [Except.toOption, Option.mem_some_iff, forall_eq']
    rw [processed] at sameState sameCalls fails
    split_ifs at settled with settles
    · obtain ⟨reply, middle, outcome, written⟩ := settled
      rw [outcome] at sameState sameCalls
      refine iff_of_true (recorded_of_stored sameCalls rfl ?_) (.inr settles)
      rw [sameState, written]
      exact @transactionByKey?_insert store.toBooks _ (refundRow order.refund answer now)
        (fun _ => rfl) rfl
    · obtain ⟨error, outcome⟩ := settled
      rw [outcome] at sameState sameCalls fails
      have failed := fails (Outcome.failed_of_error error store _)
      rw [recorded_of_rollback failed sameState sameCalls rfl]
      exact (or_iff_left settles).symm

theorem adminApproveRefund_recorded_iff (store : Store) (actorUserId : UserId)
    (refundRequestId : RefundId) (decisionNote : Option String) (answer : GatewayResult)
    (now : Time) :
    Recorded (adminApproveRefund actorUserId refundRequestId decisionNote answer now store) ↔
      RefundStorable store refundRequestId answer := by
  unfold adminApproveRefund
  rw [Action.consult_bind_apply]
  rcases gate : pendingRefundGate refundRequestId
    "Only pending refund requests can be approved" store with error | refund
  · refine iff_of_true (recorded_of_no_calls rfl) ?_
    intro order passed
    simp [processRefundGate, gate, Bind.bind, Except.bind, Except.toOption] at passed
  · obtain ⟨found, _⟩ := pendingRefundGate_eq_ok.mp gate
    obtain rfl : refund.id = refundRequestId := store.refunds.key_of_find? found
    refine processRefundRequest_recorded_iff fun processed middle => ?_
    obtain ⟨sameState, sameCalls, _⟩ := @Action.bind_of_reads _ _ _ _ _
      (Action.consult (getAccessibleJobOrThrow refund.jobId ⟨actorUserId, some .admin⟩))
      (fun _ => (pure processed : Service RefundRequest)) (fun _ _ => ⟨rfl, rfl⟩) middle
    exact ⟨sameState, sameCalls⟩

/-- The store in which `adminCreateRefund` processes the request it has opened. -/
def Store.withOpenedRefund (store : Store) (actorUserId : UserId)
    (dto : CreateRefundRequestDto) (opened : PaymentIntent × Int) : Store :=
  { store with
    refunds := store.refunds.insert
      (pendingRefund opened.1 actorUserId opened.2 dto.reason dto.evidenceItems) }

theorem adminCreateRefund_recorded_iff (store : Store) (actorUserId : UserId)
    (dto : CreateRefundRequestDto) (answer : GatewayResult) (now : Time) :
    Recorded (adminCreateRefund actorUserId dto answer now store) ↔
      ∀ opened ∈ (adminCreateRefundGate dto store).toOption,
        RefundStorable (store.withOpenedRefund actorUserId dto opened) store.refunds.nextId
          answer := by
  unfold adminCreateRefund
  rw [Action.consult_bind_apply]
  rcases adminCreateRefundGate dto store with error | ⟨intent, amount⟩
  · exact iff_of_true (recorded_of_no_calls rfl) (by simp [Except.toOption])
  · simp only [Action.inspect_bind_apply, Action.alter_bind_apply, Except.toOption,
      Option.mem_some_iff, forall_eq']
    refine processRefundRequest_recorded_iff fun processed middle => ?_
    obtain ⟨sameState, sameCalls, _⟩ := @Action.bind_of_reads _ _ _ _ _
      (Action.consult (getAccessibleJobOrThrow intent.jobId ⟨actorUserId, some .admin⟩))
      (fun _ => (pure processed : Service RefundRequest)) (fun _ _ => ⟨rfl, rfl⟩) middle
    exact ⟨sameState, sameCalls⟩

/-! ## Payouts -/

/-- If a payout is handed to the gateway, its key is in use or its answer can be
stored and booked. -/
def PayoutStorable (store : Store) (payoutId : PayoutId) (dto : ProcessPayoutDto)
    (answer : GatewayResult) : Prop :=
  ∀ payout ∈ (payoutGate payoutId .approved "Only approved payouts can be processed"
      store).toOption,
    (store.transactionByKey? (payoutIdempotencyKey payout.id)).isSome = true ∨
      payout.Settles store.toBooks dto answer

theorem adminProcessPayout_recorded_iff (store : Store) (actorUserId : UserId)
    (payoutId : PayoutId) (dto : ProcessPayoutDto) (answer : GatewayResult) (now : Time) :
    Recorded (adminProcessPayout actorUserId payoutId dto answer now store) ↔
      PayoutStorable store payoutId dto answer := by
  unfold adminProcessPayout PayoutStorable
  rw [Action.consult_bind_apply]
  rcases gate : payoutGate payoutId .approved "Only approved payouts can be processed" store
    with error | payout
  · exact iff_of_true (recorded_of_no_calls rfl) (by simp [Except.toOption])
  · obtain ⟨found, approved⟩ := payoutGate_eq_ok.mp gate
    simp only [Except.toOption, Option.mem_some_iff, forall_eq', Action.inspect_bind_apply]
    by_cases used : (store.transactionByKey? (payoutIdempotencyKey payout.id)).isSome = true
    · rw [if_pos used]
      exact iff_of_true (recorded_of_no_calls rfl) (.inl used)
    · have settled := @transaction_settlePayout store payout dto answer actorUserId now
        (store.payouts.find?_key found) approved (Option.not_isSome_iff_eq_none.mp used)
      rw [if_neg used, Action.call_bind_apply]
      split_ifs at settled with settles
      · obtain ⟨reply, middle, outcome, _⟩ := settled
        rw [outcome]
        exact iff_of_true (fun failed => absurd rfl (failed reply)) (.inr settles)
      · obtain ⟨error, outcome⟩ := settled
        rw [outcome]
        refine Iff.trans (recorded_of_rollback ?_ rfl rfl rfl) (or_iff_left settles).symm
        exact Outcome.failed_of_error _ _ _

/-! ## All three -/

/-- A call that throws leaves no money request behind that no transaction records,
exactly if, whenever the gateway is asked, the key is in use or the answer can be
stored: its reference is new to the provider, and a success is covered by the
balances. -/
theorem external_effects_recorded_iff {store : Store} (foreignKeys : store.ForeignKeys)
    (actorUserId : UserId) (answer : GatewayResult) (now : Time) :
    (∀ intentId dto,
      Recorded (payIntent intentId actorUserId dto answer now store) ↔
        ChargeStorable store intentId actorUserId dto answer now) ∧
    (∀ refundRequestId decisionNote,
      Recorded (adminApproveRefund actorUserId refundRequestId decisionNote answer now store) ↔
        RefundStorable store refundRequestId answer) ∧
    (∀ dto,
      Recorded (adminCreateRefund actorUserId dto answer now store) ↔
        ∀ opened ∈ (adminCreateRefundGate dto store).toOption,
          RefundStorable (store.withOpenedRefund actorUserId dto opened)
            store.refunds.nextId answer) ∧
    ∀ payoutId dto,
      Recorded (adminProcessPayout actorUserId payoutId dto answer now store) ↔
        PayoutStorable store payoutId dto answer :=
  ⟨fun intentId dto => payIntent_recorded_iff foreignKeys intentId actorUserId dto answer now,
    fun refundRequestId decisionNote => adminApproveRefund_recorded_iff store actorUserId
      refundRequestId decisionNote answer now,
    fun dto => adminCreateRefund_recorded_iff store actorUserId dto answer now,
    fun payoutId dto => adminProcessPayout_recorded_iff store actorUserId payoutId dto answer
      now⟩

/-- A deposit of 300 is paid and half of it refunded, which takes 23 of the 45
reserved for the platform. -/
def halfRefundedStore : Store :=
  payments.run (Store.initial sampleMarketplace)
    [sampleSelection, .payIntent 0 0 ⟨none⟩ (sampleAnswer .succeeded "charge") 2,
      .adminCreateRefund 2 ⟨0, some ⟨150, by decide⟩, "Half", []⟩
        (sampleAnswer .succeeded "first half") 3]

theorem pending_half_recorded :
    Recorded (adminCreateRefund 2 ⟨0, some ⟨150, by decide⟩, "Half", []⟩
      (sampleAnswer .pending "second half") 4 halfRefundedStore) := by
  refine ((external_effects_recorded_iff
    (reachable_consistent (reachable_run sampleMarketplace _)).toForeignKeys 2 _ 4).2.2.1
    _).mpr ?_
  decide +kernel

/-- The gateway refunds the second half, which would take 23 of the 22 that are
left: the refund is rolled back after the fact. -/
theorem second_half_unrecorded :
    ¬ Recorded (adminCreateRefund 2 ⟨0, some ⟨150, by decide⟩, "Half", []⟩
      (sampleAnswer .succeeded "second half") 4 halfRefundedStore) := by
  decide +kernel

end Tchuno.Payments
