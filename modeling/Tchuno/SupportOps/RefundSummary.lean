import Tchuno.Payments.Runs
import Tchuno.SupportOps.FinancialState

/-!
# What the refund summary says of the next request

`buildRefundSummary` and `createJobRefundRequest` both look for the latest paid
intent of the job, for a request which is still open, and for what is left of
the payment.  The summary reads the requests of the whole job, the operation
those of the one intent.  The two agree exactly when the job's requests against
its other intents do not count.
-/

namespace Tchuno.SupportOps

open Tchuno.Library Tchuno.Payments

/-! ## Requests of the intent and of the job -/

/-- The request still waits for its outcome. -/
def RefundIsActive (refund : RefundRequest) : Prop :=
  refund.status ∈ [RefundStatus.pending, .approved, .processing]

instance : DecidablePred RefundIsActive := fun _ => inferInstanceAs (Decidable (_ ∈ _))

/-- What has not been paid back of an intent. -/
def refundable (intent : PaymentIntent) (books : Books) : Int :=
  max 0 (intent.amount - books.refundSum intent.id [.succeeded])

/-- The intent has a balance and no open request of its own. -/
def IsRefundable (intent : PaymentIntent) (books : Books) : Prop :=
  (∀ refund ∈ books.refunds, refund.paymentIntentId = intent.id → ¬ RefundIsActive refund) ∧
    0 < refundable intent books

instance (intent : PaymentIntent) (books : Books) : Decidable (IsRefundable intent books) :=
  inferInstanceAs (Decidable (_ ∧ _))

/-- A request of the job which was opened for another of its intents. -/
def IsElsewhere (intent : PaymentIntent) (refund : RefundRequest) : Prop :=
  refund.jobId = intent.jobId ∧ refund.paymentIntentId ≠ intent.id

instance (intent : PaymentIntent) : DecidablePred (IsElsewhere intent) :=
  fun _ => inferInstanceAs (Decidable (_ ∧ _))

/-- What has been paid back of the other intents of the job. -/
def refundedElsewhere (intent : PaymentIntent) (books : Books) : Int :=
  books.refunds.total fun refund =>
    if IsElsewhere intent refund ∧ refund.status = .succeeded then
      refund.amount
    else
      0

/-- The highest amount that a request may name. -/
def maxNamedAmount : Int := 100000000

/-- While the latest paid intent can be refunded, no request against another intent of
the job is open, and nothing was paid back of the others beyond what no request for this
one could name. -/
def RefundsOfLatestOnly (jobId : JobId) (store : Store) : Prop :=
  ∀ intent ∈ store.getLatestPaidIntent jobId, IsRefundable intent store.toBooks →
    (∀ refund ∈ store.refunds, IsElsewhere intent refund → ¬ RefundIsActive refund) ∧
      refundedElsewhere intent store.toBooks =
        max 0 (refundable intent store.toBooks - maxNamedAmount)

instance (jobId : JobId) (store : Store) : Decidable (RefundsOfLatestOnly jobId store) :=
  inferInstanceAs (Decidable (∀ intent ∈ store.getLatestPaidIntent jobId, _))

/-! ## What the summary promises -/

/-- `@MinLength(3)` and `@MaxLength(240)` of the reason. -/
def ReasonIsValid (reason : String) : Prop :=
  3 ≤ reason.length ∧ reason.length ≤ 240

instance : DecidablePred ReasonIsValid := fun _ => inferInstanceAs (Decidable (_ ∧ _))

/-- The actor's request is accepted. -/
def Accepts (jobId : JobId) (actor : IntentActorInput) (dto : CreateJobRefundRequestDto)
    (later : Time) (store : Store) : Prop :=
  ∃ refund, (createJobRefundRequest jobId actor dto later store).result = .ok refund

/-- The amounts that the actor can ask for. -/
def acceptedAmounts (jobId : JobId) (actor : IntentActorInput) (reason : String)
    (evidenceItems : List String) (later : Time) (store : Store) : Set Int :=
  { amount | ∃ named : DtoAmount, named.val = amount ∧
    Accepts jobId actor ⟨some named, reason, evidenceItems⟩ later store }

/-- The summary says whether a request without an amount is accepted, and up to which
amount one is. -/
structure SummaryTells (summary : RefundSummary) (jobId : JobId) (actor : IntentActorInput)
    (store : Store) : Prop where
  request : ∀ reason, ReasonIsValid reason → ∀ evidenceItems later,
    summary.canRequestRefund = true ↔
      Accepts jobId actor ⟨none, reason, evidenceItems⟩ later store
  largest : ∀ reason, ReasonIsValid reason → ∀ evidenceItems later,
    Accepts jobId actor ⟨none, reason, evidenceItems⟩ later store →
      IsGreatest (acceptedAmounts jobId actor reason evidenceItems later store)
        summary.remainingRefundableAmount

/-! ## The operation -/

section Operation

variable {jobId : JobId} {actor : IntentActorInput} {store : Store}

/-- Once the gate is passed nothing refuses the request. -/
theorem accepts_iff_gate (dto : CreateJobRefundRequestDto) (later : Time) :
    Accepts jobId actor dto later store ↔
      ∃ terms, createJobRefundGate jobId actor dto store = .ok terms := by
  unfold Accepts createJobRefundRequest
  rw [Action.consult_bind_apply]
  cases createJobRefundGate jobId actor dto store with
  | error error =>
      simp
  | ok terms =>
      obtain ⟨incident, middle, opened, _⟩ := ensureRefundDisputeCase_reads
        { refundRequestId := (pendingRefund terms.intent actor.userId terms.amount dto.reason
            dto.evidenceItems store.refunds.nextId).id
          jobId := terms.access.job.id
          createdByUserId := actor.userId
          actorName := resolveParticipantActorName terms.access actor.userId
          amount := terms.amount
          currency := terms.intent.currency
          reason := Ecma.trim dto.reason
          evidenceItems := normalizeEvidenceItems dto.evidenceItems } later
        { store with
          refunds := store.refunds.insert (pendingRefund terms.intent actor.userId
            terms.amount dto.reason dto.evidenceItems) }
      unfold Action.transaction
      simp only [Action.inspect_bind_apply, Action.alter_bind_apply]
      rw [Action.bind_of_ok opened]
      exact iff_of_true ⟨_, rfl⟩ ⟨terms, rfl⟩

theorem suggestedRefundAmount_le {job : Job} {remaining amount : Int} (left : 0 < remaining)
    (suggested : resolveSuggestedRefundAmount job remaining = some amount) :
    amount ≤ remaining := by
  unfold resolveSuggestedRefundAmount at suggested
  split_ifs at suggested
  · obtain rfl := Option.some.inj suggested
    have half : Ecma.mathRound ((remaining : ℚ) / 2) ≤ remaining := by
      unfold Ecma.mathRound
      have below : ((remaining : ℚ) / 2 + 1 / 2) < (remaining : ℚ) + 1 := by
        have positive : (0 : ℚ) < remaining := by exact_mod_cast left
        linarith
      have floored := Int.floor_lt.mpr (by exact_mod_cast below :
        ((remaining : ℚ) / 2 + 1 / 2) < ((remaining + 1 : Int) : ℚ))
      omega
    exact max_le left half
  · exact (Option.some.inj suggested).symm.le

theorem getRemainingRefundableAmount_latest {intent : PaymentIntent}
    (latest : store.getLatestPaidIntent jobId = some intent) :
    getRemainingRefundableAmount intent.id store.toBooks =
      .ok (refundable intent store.toBooks) := by
  obtain ⟨member, _⟩ := store.intents.mem_of_findFirst? latest
  have lookup : store.intents.find? intent.id = some intent :=
    store.intents.find?_eq_some_iff.mpr ⟨member, rfl⟩
  unfold getRemainingRefundableAmount
  rw [lookup]
  rfl

/-- The amount the operation asks for is within the balance when the named one is. -/
theorem requestedAmount_le_iff {job : Job} {remaining : Int} (left : 0 < remaining)
    (named? : Option DtoAmount) :
    ((named?.map Subtype.val).or (resolveSuggestedRefundAmount job remaining)).getD
        remaining ≤ remaining ↔
      ∀ named ∈ named?, named.val ≤ remaining := by
  cases named? with
  | some named =>
      simp
  | none =>
      cases suggested : resolveSuggestedRefundAmount job remaining with
      | some amount =>
          simp [suggestedRefundAmount_le left suggested]
      | none =>
          simp

/-- The actor's request is accepted when the latest paid intent can be refunded and the
amount, if one is named, is within what is left. -/
theorem accepts_iff {access : AccessibleJobFinancialRecord}
    (granted : getAccessibleJobOrThrow jobId actor store = .ok access)
    (dto : CreateJobRefundRequestDto) (later : Time) :
    Accepts jobId actor dto later store ↔
      ∃ intent, store.getLatestPaidIntent jobId = some intent ∧
        IsRefundable intent store.toBooks ∧
        ∀ named ∈ dto.amount, named.val ≤ refundable intent store.toBooks := by
  rw [accepts_iff_gate]
  simp only [createJobRefundGate, granted, gate_bind_eq_ok, orThrow_eq_ok, guardThat_eq_ok,
    gate_pure_eq_ok, Option.isNone_iff_eq_none, Table.findFirst?_eq_none_iff]
  constructor
  · rintro ⟨terms, access, _, intent, latest, _, inactive, remaining, computed, _, left, _,
      within, _⟩
    rw [getRemainingRefundableAmount_latest latest] at computed
    obtain rfl := Except.ok.inj computed
    refine ⟨intent, latest, ⟨?_, left⟩, (requestedAmount_le_iff left dto.amount).mp within⟩
    intro refund member ofIntent active
    exact inactive refund member (by simpa [ofIntent, RefundIsActive] using active)
  · rintro ⟨intent, latest, ⟨inactive, left⟩, within⟩
    refine ⟨_, access, rfl, intent, latest, (), ?_, _,
      getRemainingRefundableAmount_latest latest, (), left, (),
      (requestedAmount_le_iff left dto.amount).mpr within, rfl⟩
    intro refund member active
    simp only [Bool.and_eq_true, decide_eq_true_eq, List.contains_iff_mem] at active
    exact inactive refund member active.1 active.2

/-- The largest amount that a request can name within a balance. -/
theorem isGreatest_namedAmounts {remaining : Int} (left : 0 < remaining) :
    IsGreatest { amount : Int | ∃ named : DtoAmount, named.val = amount ∧
      named.val ≤ remaining } (min remaining maxNamedAmount) := by
  unfold maxNamedAmount
  constructor
  · exact ⟨⟨min remaining 100000000, by omega, min_le_right _ _⟩, rfl, min_le_left _ _⟩
  · rintro amount ⟨named, rfl, within⟩
    exact le_min within named.property.2

theorem acceptedAmounts_eq {access : AccessibleJobFinancialRecord}
    (granted : getAccessibleJobOrThrow jobId actor store = .ok access)
    {intent : PaymentIntent} (latest : store.getLatestPaidIntent jobId = some intent)
    (isOpen : IsRefundable intent store.toBooks) (reason : String)
    (evidenceItems : List String) (later : Time) :
    acceptedAmounts jobId actor reason evidenceItems later store =
      { amount : Int | ∃ named : DtoAmount, named.val = amount ∧
        named.val ≤ refundable intent store.toBooks } := by
  ext amount
  simp only [acceptedAmounts, accepts_iff granted, latest, Set.mem_ofPred_eq,
    Option.some.injEq, Option.mem_def, forall_eq']
  constructor
  · rintro ⟨named, same, found, rfl, _, within⟩
    exact ⟨named, same, within⟩
  · rintro ⟨named, same, within⟩
    exact ⟨named, same, intent, rfl, isOpen, within⟩

end Operation

/-! ## The summary -/

section Summary

variable {jobId : JobId} {actor : IntentActorInput} {store : Store} {intent : PaymentIntent}

/-- Every request is about the job of its intent. -/
def RefundsInJob (books : Books) : Prop :=
  ∀ refund ∈ books.refunds, ∃ intent,
    books.intents.find? refund.paymentIntentId = some intent ∧ refund.jobId = intent.jobId

theorem reachable_refundsInJob (reachable : payments.Reachable Store.IsInitial store) :
    RefundsInJob store.toBooks := by
  refine (@reachable_invariant RefundsInJob ?_ ?_ store reachable).2
  · intro books movement _ admitted before refund member
    exact Movement.refund_job admitted before member
  · intro refund member
    exact absurd member (Table.not_mem_empty refund)

/-- The requests of a job are those of one intent and those of its other intents. -/
theorem inJob_iff (inJob : RefundsInJob store.toBooks) (present : intent ∈ store.intents)
    {refund : RefundRequest} (member : refund ∈ store.refunds) :
    refund.jobId = intent.jobId ↔
      refund.paymentIntentId = intent.id ∨ IsElsewhere intent refund := by
  have sameIntent : refund.paymentIntentId = intent.id → refund.jobId = intent.jobId := by
    intro same
    obtain ⟨owner, found, sameJob⟩ := inJob refund member
    have lookup : store.intents.find? intent.id = some intent :=
      store.intents.find?_eq_some_iff.mpr ⟨present, rfl⟩
    rw [same, lookup] at found
    rw [sameJob, Option.some.inj found]
  unfold IsElsewhere
  tauto

/-- What was paid back for the job is what was paid back of the intent and of the others. -/
theorem refundedAmount_eq (inJob : RefundsInJob store.toBooks)
    (present : intent ∈ store.intents) :
    (((store.refunds.rows.filter fun refund => refund.jobId = intent.jobId).filter
        fun refund => refund.status = .succeeded).map RefundRequest.amount).sum =
      store.refundSum intent.id [.succeeded] + refundedElsewhere intent store.toBooks := by
  have counted : ∀ refund ∈ store.refunds,
      (if refund.status = .succeeded ∧ refund.jobId = intent.jobId then refund.amount else 0) =
        (if refund.paymentIntentId = intent.id ∧ refund.status ∈ [RefundStatus.succeeded] then
          refund.amount else 0) +
        (if IsElsewhere intent refund ∧ refund.status = .succeeded then
          refund.amount else 0) := by
    intro refund member
    have owned := inJob_iff inJob present member
    simp only [List.mem_singleton, owned]
    by_cases ofIntent : refund.paymentIntentId = intent.id
    · have notElsewhere : ¬ IsElsewhere intent refund := fun elsewhere => elsewhere.2 ofIntent
      simp [ofIntent, notElsewhere]
    · simp [ofIntent, and_comm]
  have merged : (store.refunds.rows.filter fun refund => refund.jobId = intent.jobId).filter
      (fun refund => refund.status = .succeeded) =
        store.refunds.rows.filter fun refund =>
          refund.status = .succeeded ∧ refund.jobId = intent.jobId := by
    simp only [List.filter_filter, Bool.decide_and]
  rw [merged, Table.sum_filter_rows, Table.total_congr _ counted, Table.total_add]
  rfl

theorem refundedElsewhere_nonneg (consistent : store.Consistent) :
    0 ≤ refundedElsewhere intent store.toBooks := by
  apply Table.total_nonneg
  intro refund member
  have positive := consistent.refund_amount refund member
  split_ifs
  · omega
  · exact le_refl 0

/-- The summary that `getJobFinancialState` builds for a job. -/
def jobSummary (store : Store) (job : Job) (jobId : JobId) (actor : IntentActorInput)
    (now : Time) : RefundSummary :=
  buildRefundSummary store.market job
    (store.intents.rows.filter fun intent => intent.jobId = jobId)
    (store.refunds.rows.filter fun refund => refund.jobId = jobId) actor now

theorem getJobFinancialState_ok {now : Time} {state : JobFinancialState}
    (answered : getJobFinancialState jobId actor now store = .ok state) :
    ∃ access, getAccessibleJobOrThrow jobId actor store = .ok access ∧
      state.refundSummary = jobSummary store access.job jobId actor now := by
  unfold getJobFinancialState at answered
  simp only [gate_bind_eq_ok, gate_pure_eq_ok] at answered
  obtain ⟨access, granted, rfl⟩ := answered
  exact ⟨access, granted, rfl⟩

theorem find?_paid_eq (store : Store) (jobId : JobId) :
    (store.intents.rows.filter fun intent => intent.jobId = jobId).find?
        (fun intent => intent.status.isPaid) =
      store.getLatestPaidIntent jobId := by
  rw [List.find?_filter]
  simp [Store.getLatestPaidIntent, Table.findFirst?]

variable {now : Time} {job : Job}

theorem jobSummary_remaining (inJob : RefundsInJob store.toBooks)
    (latest : store.getLatestPaidIntent jobId = some intent) :
    (jobSummary store job jobId actor now).remainingRefundableAmount =
      max 0 (intent.amount - (store.refundSum intent.id [.succeeded] +
        refundedElsewhere intent store.toBooks)) := by
  obtain ⟨present, accepted⟩ := store.intents.mem_of_findFirst? latest
  simp only [Bool.and_eq_true, decide_eq_true_eq] at accepted
  have counted := refundedAmount_eq inJob present
  rw [accepted.1] at counted
  simp only [jobSummary, buildRefundSummary, find?_paid_eq, latest, Option.elim_some, counted]

theorem jobSummary_request (latest : store.getLatestPaidIntent jobId = some intent) :
    (jobSummary store job jobId actor now).canRequestRefund = true ↔
      0 < (jobSummary store job jobId actor now).remainingRefundableAmount ∧
        ∀ refund ∈ store.refunds, refund.jobId = jobId → ¬ RefundIsActive refund := by
  have inactive : (!(store.refunds.rows.filter fun refund => refund.jobId = jobId).any
      fun refund => [RefundStatus.pending, .approved, .processing].contains refund.status) =
        true ↔ ∀ refund ∈ store.refunds, refund.jobId = jobId → ¬ RefundIsActive refund := by
    simp [RefundIsActive, Table.mem_rows]
  rw [← inactive]
  simp only [jobSummary, buildRefundSummary, find?_paid_eq, latest, Bool.and_eq_true,
    Option.isSome_some, decide_eq_true_eq, true_and]

theorem jobSummary_unpaid (unpaid : store.getLatestPaidIntent jobId = none) :
    (jobSummary store job jobId actor now).canRequestRefund = false := by
  simp only [jobSummary, buildRefundSummary, find?_paid_eq, unpaid, Option.isSome_none,
    Bool.false_and]

end Summary

/-! ## Agreement -/

section Agreement

variable {jobId : JobId} {actor : IntentActorInput} {store : Store} {intent : PaymentIntent}
  {access : AccessibleJobFinancialRecord} {now : Time}

/-- Nothing of the job is open exactly when nothing of the intent and nothing elsewhere is. -/
theorem inactive_iff (inJob : RefundsInJob store.toBooks)
    (latest : store.getLatestPaidIntent jobId = some intent) :
    (∀ refund ∈ store.refunds, refund.jobId = jobId → ¬ RefundIsActive refund) ↔
      (∀ refund ∈ store.refunds, refund.paymentIntentId = intent.id →
        ¬ RefundIsActive refund) ∧
      ∀ refund ∈ store.refunds, IsElsewhere intent refund → ¬ RefundIsActive refund := by
  obtain ⟨present, accepted⟩ := store.intents.mem_of_findFirst? latest
  simp only [Bool.and_eq_true, decide_eq_true_eq] at accepted
  have split : ∀ refund ∈ store.refunds, refund.jobId = jobId ↔
      refund.paymentIntentId = intent.id ∨ IsElsewhere intent refund := by
    intro refund member
    rw [← accepted.1]
    exact inJob_iff inJob present member
  constructor
  · intro inactive
    constructor
    · intro refund member ofIntent
      exact inactive refund member ((split refund member).mpr (Or.inl ofIntent))
    · intro refund member elsewhere
      exact inactive refund member ((split refund member).mpr (Or.inr elsewhere))
  · intro ⟨ofIntent, elsewhere⟩ refund member inJob
    rcases (split refund member).mp inJob with same | other
    · exact ofIntent refund member same
    · exact elsewhere refund member other

theorem accepts_of_request (consistent : store.Consistent) (inJob : RefundsInJob store.toBooks)
    (granted : getAccessibleJobOrThrow jobId actor store = .ok access)
    (requested : (jobSummary store access.job jobId actor now).canRequestRefund = true)
    (reason : String) (evidenceItems : List String) (later : Time) :
    Accepts jobId actor ⟨none, reason, evidenceItems⟩ later store := by
  rw [accepts_iff granted]
  cases latest : store.getLatestPaidIntent jobId with
  | none =>
      rw [jobSummary_unpaid latest] at requested
      cases requested
  | some intent =>
      obtain ⟨left, inactive⟩ := (jobSummary_request latest).mp requested
      rw [jobSummary_remaining inJob latest] at left
      have elsewhere := @refundedElsewhere_nonneg store intent consistent
      have balance : 0 < refundable intent store.toBooks := by
        unfold refundable
        omega
      have ofIntent := ((inactive_iff inJob latest).mp inactive).1
      exact ⟨intent, rfl, ⟨ofIntent, balance⟩, fun named asked => by cases asked⟩

/-- The summary tells what the operation does exactly when the requests of the job count
for its latest paid intent only. -/
theorem summary_tells_iff {state : JobFinancialState}
    (reachable : payments.Reachable Store.IsInitial store)
    (answered : getJobFinancialState jobId actor now store = .ok state) :
    SummaryTells state.refundSummary jobId actor store ↔
      RefundsOfLatestOnly jobId store := by
  have consistent := reachable_consistent reachable
  have inJob := reachable_refundsInJob reachable
  obtain ⟨access, granted, built⟩ := getJobFinancialState_ok answered
  rw [built]
  constructor
  · intro tells intent latest isOpen
    have valid : ReasonIsValid "Late" := by decide
    have accepted : Accepts jobId actor ⟨none, "Late", []⟩ 0 store :=
      (accepts_iff granted _ _).mpr
        ⟨intent, latest, isOpen, fun named asked => by cases asked⟩
    have requested := (tells.request "Late" valid [] 0).mpr accepted
    have inactive := ((jobSummary_request latest).mp requested).2
    have greatest := tells.largest "Late" valid [] 0 accepted
    rw [acceptedAmounts_eq granted latest isOpen] at greatest
    have remaining := greatest.unique (isGreatest_namedAmounts isOpen.2)
    rw [jobSummary_remaining inJob latest] at remaining
    have balance := isOpen.2
    unfold refundable maxNamedAmount at *
    exact ⟨((inactive_iff inJob latest).mp inactive).2, by omega⟩
  · intro latestOnly
    have agree : ∀ intent, store.getLatestPaidIntent jobId = some intent →
        IsRefundable intent store.toBooks →
        (jobSummary store access.job jobId actor now).canRequestRefund = true ∧
          (jobSummary store access.job jobId actor now).remainingRefundableAmount =
            min (refundable intent store.toBooks) maxNamedAmount := by
      intro intent latest isOpen
      obtain ⟨elsewhere, counted⟩ := latestOnly intent latest isOpen
      have balance := isOpen.2
      have inactive := (inactive_iff inJob latest).mpr ⟨isOpen.1, elsewhere⟩
      rw [jobSummary_request latest, jobSummary_remaining inJob latest]
      unfold refundable maxNamedAmount at *
      refine ⟨⟨?_, inactive⟩, ?_⟩ <;> omega
    constructor
    · intro reason _ evidenceItems later
      constructor
      · intro requested
        exact accepts_of_request consistent inJob granted requested reason evidenceItems later
      · intro accepted
        obtain ⟨intent, latest, isOpen, _⟩ := (accepts_iff granted _ _).mp accepted
        exact (agree intent latest isOpen).1
    · intro reason _ evidenceItems later accepted
      obtain ⟨intent, latest, isOpen, _⟩ := (accepts_iff granted _ _).mp accepted
      rw [acceptedAmounts_eq granted latest isOpen, (agree intent latest isOpen).2]
      exact isGreatest_namedAmounts isOpen.2

end Agreement

/-! ## Samples -/

theorem ok_of_isSome {ε α : Type} {reply : Except ε α} (isSome : reply.toOption.isSome = true) :
    ∃ value, reply = .ok value := by
  cases reply with
  | error error =>
      cases isSome
  | ok value =>
      exact ⟨value, rfl⟩

/-- The client has paid the deposit. -/
def paidStore : Store :=
  payments.run (Store.initial sampleMarketplace)
    [sampleSelection, .payIntent 0 0 ⟨none⟩ (sampleAnswer .succeeded "first") 2]

theorem paid_job_summary_tells :
    ∃ state, getJobFinancialState 0 ⟨0, none⟩ 3 paidStore = .ok state ∧
      SummaryTells state.refundSummary 0 ⟨0, none⟩ paidStore := by
  have ⟨state, answered⟩ : ∃ state, getJobFinancialState 0 ⟨0, none⟩ 3 paidStore = .ok state :=
    ok_of_isSome (by decide +kernel)
  have latestOnly : RefundsOfLatestOnly 0 paidStore := by
    decide +kernel
  exact ⟨state, answered, (summary_tells_iff (reachable_run _ _) answered).mpr latestOnly⟩

/-- The client asks for the deposit back, the gateway then reports that it was never
charged, and the client pays for the job again. -/
def repaidStore : Store :=
  payments.run (Store.initial sampleMarketplace)
    [sampleSelection, .payIntent 0 0 ⟨none⟩ (sampleAnswer .succeeded "first") 2,
      .createJobRefundRequest 0 ⟨0, none⟩ ⟨none, "Late", []⟩ 3,
      .reconcileTransaction 0 (sampleAnswer .failed "first") 4,
      .createIntent samplePolicy 0 ⟨0, none⟩ 5,
      .payIntent 1 0 ⟨none⟩ (sampleAnswer .succeeded "second") 6]

/-- The summary still shows the old request as open, while a new one is accepted. -/
theorem repaid_job_summary_wrong :
    payments.Reachable Store.IsInitial repaidStore ∧
      ∃ state, getJobFinancialState 0 ⟨0, none⟩ 7 repaidStore = .ok state ∧
        ¬ SummaryTells state.refundSummary 0 ⟨0, none⟩ repaidStore := by
  have ⟨state, answered⟩ :
      ∃ state, getJobFinancialState 0 ⟨0, none⟩ 7 repaidStore = .ok state :=
    ok_of_isSome (by decide +kernel)
  have accepted : Accepts 0 ⟨0, none⟩ ⟨none, "Late", []⟩ 7 repaidStore :=
    ok_of_isSome (by decide +kernel)
  have shown : (getJobFinancialState 0 ⟨0, none⟩ 7 repaidStore).map
      (fun state => state.refundSummary.canRequestRefund) = .ok false := by
    decide +kernel
  rw [answered] at shown
  have refused : state.refundSummary.canRequestRefund = false := Except.ok.inj shown
  refine ⟨reachable_run _ _, state, answered, ?_⟩
  intro tells
  have requested := (tells.request "Late" (by decide) [] 7).mpr accepted
  rw [refused] at requested
  cases requested

end Tchuno.SupportOps
