import Tchuno.Payments.DecisionCalls

/-!
# What concurrent settlements come to

However the calls interleave, no request is refunded twice and no payout is paid
twice: the unique key of the transaction sees to that.  One decision for a request
needs more than that, since its status is read before the transaction and written
without a condition.
-/

namespace Tchuno.Payments

open Tchuno.Library Tchuno.Library.Ecma

/-! ## Calls together -/

section Procedures

variable {ι : Type} {watched : RefundId → Prop} {calls : ι → SettlementCall}

/-- What a finished call on a watched request has come to: its decision stands, or it
has failed with a conflict since there is a decision, or since the payment cannot be paid
back. -/
def Outcome (watched : RefundId → Prop) (calls : ι → SettlementCall) (client : ι)
    (result : Except ApiError SettlementReply) (state : Observed ι) : Prop :=
  ∀ refundRequestId, watched refundRequestId →
    (calls client).refundRequest? = some refundRequestId →
      match result with
      | .ok reply => ∃ row, reply = .refund row ∧
          state.database.refunds.find? refundRequestId = some row ∧
          state.owner refundRequestId = some client ∧
          (calls client).outcome? = some row.status
      | .error error => error.isConflict = true ∧
          (error ∈ paymentRefusals ∨ IsDecided watched refundRequestId state)

/-- A call which decides on a request, if its decision concludes. -/
theorem safe_decidingCall {client : ι} {refundRequestId : RefundId} {status : RefundStatus}
    (request : (calls client).refundRequest? = some refundRequestId)
    (outcome : (calls client).outcome? = some status)
    {procedure : Procedure RefundRequest}
    (safe : ∀ finish, Concludes watched client refundRequestId (· = status) finish →
      (decisionDiscipline watched calls).Safe client finish (Standing.initial _ _ _)
        procedure) :
    (decisionDiscipline watched calls).Safe client
      ((decisionDiscipline watched calls).Ends
        (fun client result _ => Outcome watched calls client result) client)
      (Standing.initial _ _ _)
      (procedure >>= fun reply => pure (.refund reply) : Procedure SettlementReply) := by
  refine Discipline.safe_script_bind (safe _ ⟨?_, ?_⟩)
  · intro error middle explains state _ knows other watches requested
    obtain rfl : refundRequestId = other := Option.some.inj (request.symm.trans requested)
    obtain ⟨conflict, reason⟩ := explains watches
    exact ⟨conflict, reason.imp_right fun decided => decided state knows⟩
  · rintro reply seen rfl state _ decided other watches requested
    obtain rfl : refundRequestId = other := Option.some.inj (request.symm.trans requested)
    obtain ⟨stored, owned⟩ := decided watches
    exact ⟨reply, rfl, stored, owned, outcome⟩

theorem safe_payoutCall {client : ι} (request : (calls client).refundRequest? = none)
    {procedure : Procedure Payout}
    (safe : ∀ finish : Except ApiError Payout → Standing (Observed ι) Database Target → Prop,
      (∀ result middle, finish result middle) →
      (decisionDiscipline watched calls).Safe client finish (Standing.initial _ _ _)
        procedure) :
    (decisionDiscipline watched calls).Safe client
      ((decisionDiscipline watched calls).Ends
        (fun client result _ => Outcome watched calls client result) client)
      (Standing.initial _ _ _)
      (procedure >>= fun reply => pure (.payout reply) : Procedure SettlementReply) := by
  refine Discipline.safe_script_bind (safe _ fun result middle => ?_)
  have unasked : ∀ result state, Outcome watched calls client result state := by
    intro result state refundRequestId _ requested
    rw [request] at requested
    cases requested
  cases result with
  | ok reply =>
      exact fun state _ _ => unasked _ state
  | error error =>
      exact fun state _ _ => unasked _ state

theorem safe_settlementCall (client : ι) :
    (decisionDiscipline watched calls).Safe client
      ((decisionDiscipline watched calls).Ends
        (fun client result _ => Outcome watched calls client result) client)
      (Standing.initial _ _ _) (calls client).procedure := by
  cases call : calls client with
  | adminApproveRefund actorUserId refundRequestId decisionNote answer transactionId now =>
      exact safe_decidingCall (by rw [call]; rfl) (by rw [call]; rfl)
        fun finish concludes => safe_adminApproveRefund call concludes
  | adminRejectRefund actorUserId refundRequestId dto now =>
      exact safe_decidingCall (by rw [call]; rfl) (by rw [call]; rfl)
        fun finish concludes => safe_adminRejectRefund actorUserId dto now concludes
  | cancelRefundRequest refundRequestId actor now =>
      exact safe_decidingCall (by rw [call]; rfl) (by rw [call]; rfl)
        fun finish concludes => safe_cancelRefundRequest call concludes
  | adminApprovePayout actorUserId payoutId =>
      exact safe_payoutCall (by rw [call]; rfl) fun finish ends => safe_adminApprovePayout ends
  | adminProcessPayout actorUserId payoutId dto answer transactionId now =>
      exact safe_payoutCall (by rw [call]; rfl) fun finish ends => safe_adminProcessPayout ends

/-- A run of the calls from a store. -/
def settlementRun {ι : Type} [DecidableEq ι] (store : Store) (calls : ι → SettlementCall)
    (schedule : List (ι × Turn)) :
    Cluster Database Target ι (Except ApiError SettlementReply) :=
  (readCommitted Database Target ι (Except ApiError SettlementReply)).run
    (Cluster.start ⟨store, []⟩ fun client => (calls client).procedure) schedule

end Procedures

/-! ## Settled at most once -/

theorem reachable_decisionInvariant {ι : Type} {store : Store}
    (reachable : payments.Reachable Store.IsInitial store) {watched : RefundId → Prop}
    {calls : ι → SettlementCall}
    (pending : ∀ refundRequestId, watched refundRequestId →
      store.isPending refundRequestId = true)
    (may_cancel : ∀ refundRequestId, watched refundRequestId → ∀ client actor now,
      calls client = .cancelRefundRequest refundRequestId actor now →
        store.MayCancel refundRequestId actor) :
    DecisionInvariant watched calls ⟨⟨store, []⟩, fun _ => none⟩ where
  unique := reachable_uniqueKeys reachable
  known := (reachable_consistent reachable).entry_transaction
  settled := reachable_settledOnce reachable
  keys := reachable_settlementKeys reachable
  decided := by
    intro refundRequestId watches
    have consistent := reachable_consistent reachable
    have keys := reachable_settlementKeys reachable
    obtain ⟨refund, found, isPending⟩ := Books.isPending_iff.mp (pending _ watches)
    have present := store.refunds.mem_of_find? found
    refine ⟨refund,
      { stored := found
        job := reachable_refundJobs reachable refund present
        intent := consistent.refund_intent refund present
        open_iff := iff_of_true isPending rfl
        posted_iff := iff_of_false ?_ ?_ }⟩
    · rw [isPending]
      exact nofun
    · rintro ⟨transaction, member, isRefund, _⟩
      refine keys.unposted (reachable_owned reachable) present isPending transaction member ?_
      rw [← key_refund refund, store.refunds.key_of_find? found]
      exact isRefund
  may_cancel := may_cancel

/-- However any number of calls interleave which decide on requests and payouts, every
refund transaction carries the key of the request which points to it, and every payout
transaction that of its payout.  So every request has at most one refund transaction, with
no entries or with those of one refund; every payout has at most one transaction, with no
entries or with the pair which pays its amount, and with that pair if the payout is paid. -/
theorem settled_at_most_once {ι : Type} [DecidableEq ι] (market : Marketplace)
    (operations : List Operation) (calls : ι → SettlementCall) (schedule : List (ι × Turn)) :
    let final := (settlementRun (payments.run (Store.initial market) operations) calls
      schedule).data
    final.SettlementKeys ∧
    (∀ refundRequestId, ∀ left ∈ final.transactions, ∀ right ∈ final.transactions,
      left.IsRefundOf refundRequestId → right.IsRefundOf refundRequestId → left = right) ∧
    (∀ transaction ∈ final.transactions, transaction.type = .refund →
      settlementGroup final.ledger transaction.id = [] ∨
        transaction.RefundGroup (settlementGroup final.ledger transaction.id)) ∧
    (∀ payoutId, ∀ left ∈ final.transactions, ∀ right ∈ final.transactions,
      left.IsPayoutOf payoutId → right.IsPayoutOf payoutId → left = right) ∧
    (∀ payout ∈ final.payouts, ∀ transaction ∈ final.transactions,
      transaction.IsPayoutOf payout.id →
        settlementGroup final.ledger transaction.id = [] ∨
          payout.Pair transaction.id (settlementGroup final.ledger transaction.id)) ∧
    ∀ payout ∈ final.payouts, payout.status = .paid →
      ∃ transaction ∈ final.transactions, transaction.IsPayoutOf payout.id ∧
        payout.Pair transaction.id (settlementGroup final.ledger transaction.id) := by
  intro final
  have invariant : DecisionInvariant (fun _ => False) calls
      ⟨⟨payments.run (Store.initial market) operations, []⟩, fun _ => none⟩ :=
    reachable_decisionInvariant (reachable_run market operations) (fun _ => False.elim)
      fun _ => False.elim
  obtain ⟨after, lawful⟩ := Discipline.run_lawful_of_allowed
    (fun _ _ _ _ _ => False.elim) invariant safe_settlementCall schedule
  have sameData : after.database = final := lawful.data
  have settled := lawful.invariant.settled
  have unique := lawful.invariant.unique
  have keys := lawful.invariant.keys
  rw [sameData] at settled unique keys
  have same_of_key : ∀ left ∈ final.transactions, ∀ right ∈ final.transactions,
      left.idempotencyKey = right.idempotencyKey → left = right :=
    fun left leftMember right rightMember sameKey =>
      unique left leftMember right rightMember (.inl sameKey)
  exact ⟨keys, fun _ left leftMember right rightMember isLeft isRight =>
      same_of_key left leftMember right rightMember (isLeft.2.trans isRight.2.symm),
    settled.refund_group,
    fun _ left leftMember right rightMember isLeft isRight =>
      same_of_key left leftMember right rightMember (isLeft.2.trans isRight.2.symm),
    settled.payout_pair, settled.paid_pair⟩

/-! ## One decision for a request -/

/-- Of the decisions on the request only one takes effect. -/
structure OneDecision {ι : Type} (calls : ι → SettlementCall) (refundRequestId : RefundId)
    (final : Cluster Database Target ι (Except ApiError SettlementReply)) : Prop where
  /-- what a call has returned is what the request has come to -/
  stands : ∀ client reply, (calls client).refundRequest? = some refundRequestId →
    (final.session client).program = .done (.ok reply) →
      ∃ row, reply = .refund row ∧ final.data.refunds.find? refundRequestId = some row ∧
        (calls client).outcome? = some row.status
  /-- all other calls fail with a conflict -/
  refused : ∀ client reply, (calls client).refundRequest? = some refundRequestId →
    (final.session client).program = .done (.ok reply) →
      ∀ other result, other ≠ client → (calls other).refundRequest? = some refundRequestId →
        (final.session other).program = .done result →
          ∃ message, result = .error (.conflict message)
  /-- whoever is refused finds a decision, unless the payment cannot be paid back -/
  decided : ∀ client error, (calls client).refundRequest? = some refundRequestId →
    (final.session client).program = .done (.error error) →
      error ∈ paymentRefusals ∨ ∃ row, final.data.refunds.find? refundRequestId = some row ∧
        row.status ≠ .pending
  /-- the request is paid back exactly if it has succeeded -/
  paid_iff : ∃ row, final.data.refunds.find? refundRequestId = some row ∧
    (row.status = .succeeded ↔ final.data.RefundPosted refundRequestId)

/-- In every run in which no decision on the pending request is committed between the
moment a call has read the status and the moment it locks the row, and in which an
approval finds its amount left and its keys unused, one decision takes effect. -/
theorem decided_once {ι : Type} [DecidableEq ι] (market : Marketplace)
    (operations : List Operation) {store : Store}
    (reached : store = payments.run (Store.initial market) operations)
    {refundRequestId : RefundId} (pending : store.isPending refundRequestId = true)
    (calls : ι → SettlementCall)
    (may_cancel : ∀ client actor now,
      calls client = .cancelRefundRequest refundRequestId actor now →
        store.MayCancel refundRequestId actor)
    (schedule : List (ι × Turn))
    (undisturbed : (readCommitted Database Target ι (Except ApiError SettlementReply)).Along
      (Cluster.Obeys fun client => (calls client).Undisturbed refundRequestId)
      (Cluster.start ⟨store, []⟩ fun client => (calls client).procedure) schedule)
    {final : Cluster Database Target ι (Except ApiError SettlementReply)}
    (ran : final = settlementRun store calls schedule) :
    OneDecision calls refundRequestId final := by
  have reachable := reachable_run market operations
  rw [← reached] at reachable
  have invariant : DecisionInvariant (· = refundRequestId) calls
      ⟨⟨store, []⟩, fun _ => none⟩ := by
    refine reachable_decisionInvariant reachable ?_ ?_
    · rintro _ rfl
      exact pending
    · rintro _ rfl
      exact may_cancel
  have obeys : ∀ (cluster : Cluster Database Target ι (Except ApiError SettlementReply))
      (turn : ι × Turn),
      cluster.Obeys (fun client => (calls client).Undisturbed refundRequestId) turn →
        cluster.Obeys (decisionDiscipline (· = refundRequestId) calls).allowed turn := by
    rintro cluster ⟨client, advance | fail⟩ obeys
    · rintro statement sent _ rfl
      exact obeys statement sent
    · trivial
  obtain ⟨after, lawful⟩ := Discipline.run_lawful invariant safe_settlementCall
    (undisturbed.mono obeys)
  change Cluster.Lawful (settlementRun store calls schedule) _ _ _ at lawful
  rw [← ran] at lawful
  have sameData : after.database = final.data := lawful.data
  have outcome : ∀ client result, (final.session client).program = .done result → _ :=
    fun client result finished => lawful.post_of_done finished refundRequestId rfl
  refine ⟨fun client reply requested finished => ?_, ?_, ?_, ?_⟩
  · obtain ⟨row, rfl, stored, _, status⟩ := outcome client _ finished requested
    exact ⟨row, rfl, sameData ▸ stored, status⟩
  · intro client reply requested finished other result different asked ends
    obtain ⟨_, _, _, owned, _⟩ := outcome client _ finished requested
    have failed := outcome other result ends asked
    cases result with
    | ok reply =>
        obtain ⟨_, _, _, ownedByOther, _⟩ := failed
        exact absurd (Option.some.inj (ownedByOther.symm.trans owned)) different
    | error error =>
        cases error with
        | conflict message =>
            exact ⟨message, rfl⟩
        | _ =>
            cases failed.1
  · intro client error requested finished
    refine (outcome client _ finished requested).2.imp_right fun decision => ?_
    obtain ⟨_, owner, _, owned⟩ := decision rfl
    obtain ⟨row, decided⟩ := lawful.invariant.decided refundRequestId rfl
    refine ⟨row, sameData ▸ decided.stored, fun pending => ?_⟩
    rw [decided.open_iff.mp pending] at owned
    cases owned
  · obtain ⟨row, decided⟩ := lawful.invariant.decided refundRequestId rfl
    exact ⟨row, sameData ▸ decided.stored, sameData ▸ decided.posted_iff⟩

/-! ## A canceled request which was paid back -/

section Sample

def sampleRequest : List Operation :=
  [sampleSelection, .payIntent 0 0 ⟨none⟩ (sampleAnswer .succeeded "charge") 2,
    .createJobRefundRequest 0 ⟨0, some .customer⟩ ⟨none, "Late", []⟩ 3]

/-- A paid deposit and a pending request to refund it. -/
def sampleRequestedStore : Store :=
  payments.run (Store.initial sampleMarketplace) sampleRequest

/-- An administrator approves the request, and its customer cancels it. -/
def sampleDecisions : Bool → SettlementCall
  | true => .adminApproveRefund 2 0 none (sampleAnswer .succeeded "refund") 1 4
  | false => .cancelRefundRequest 0 ⟨0, some .customer⟩ 5

/-- The customer has read the status when the approval comes. -/
def sampleOvertaken : List (Bool × Turn) :=
  (false, .advance) :: List.replicate 30 (true, .advance) ++ List.replicate 15 (false, .advance)

theorem canceled_request_paid_back :
    ¬ OneDecision sampleDecisions 0
      (settlementRun sampleRequestedStore sampleDecisions sampleOvertaken) := by
  rintro ⟨_, _, _, row, stored, paid⟩
  have canceled : ((settlementRun sampleRequestedStore sampleDecisions
      sampleOvertaken).data.refunds.find? 0).map RefundRequest.status = some .canceled := by
    decide +kernel
  have posted : (settlementRun sampleRequestedStore sampleDecisions
      sampleOvertaken).data.RefundPosted 0 := by
    have recorded : ((settlementRun sampleRequestedStore sampleDecisions
        sampleOvertaken).data.transactions.rows.any fun transaction =>
          transaction.type = .refund &&
            transaction.idempotencyKey = refundIdempotencyKey 0 &&
            (settlementGroup (settlementRun sampleRequestedStore sampleDecisions
              sampleOvertaken).data.ledger transaction.id).length ≠ 0) = true := by
      decide +kernel
    obtain ⟨transaction, member, found⟩ := List.any_eq_true.mp recorded
    simp only [Bool.and_eq_true, decide_eq_true_eq] at found
    exact ⟨transaction, member, found.1, fun none => found.2 (congrArg List.length none)⟩
  rw [stored] at canceled
  have status := paid.mpr posted
  rw [Option.some.inj canceled] at status
  cases status

/-- The cancellation comes when the approval is through. -/
def sampleInTurn : List (Bool × Turn) :=
  List.replicate 30 (true, .advance) ++ [(false, .advance)]

theorem approved_request_stays :
    OneDecision sampleDecisions 0
      (settlementRun sampleRequestedStore sampleDecisions sampleInTurn) := by
  refine decided_once sampleMarketplace sampleRequest rfl (by decide +kernel) sampleDecisions
    ?_ sampleInTurn (by decide +kernel) rfl
  rintro (_ | _) actor now call
  · cases call
    exact mayCancel_of_gate (by decide +kernel)
  · cases call

end Sample

end Tchuno.Payments
