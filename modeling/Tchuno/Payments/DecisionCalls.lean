import Tchuno.Payments.Decisions
import Tchuno.Payments.Refinement

/-!
# Calls which decide keep the discipline

The calls which settle a request or a payout, statement by statement.  Inside its
transaction a call knows the locks it holds, what it has learned of the rows it has
read, and what its writes make of the books; the commit lemmas turn this into a step
of the discipline.
-/

namespace Tchuno.Payments

open Tchuno.Library Tchuno.Library.Ecma

def ApiError.isConflict : ApiError → Bool
  | .conflict _ => true
  | _ => false

/-- The refusals of an approval whose payment cannot be paid back. -/
def paymentRefusals : List ApiError :=
  [.conflict "Only paid payment intents can be refunded",
    .conflict "Insufficient platform reserved balance for refund settlement",
    .conflict "Insufficient provider balance for refund"]

theorem isConflict_of_paymentRefusals {error : ApiError} (listed : error ∈ paymentRefusals) :
    error.isConflict = true := by
  simp only [paymentRefusals, List.mem_cons, List.not_mem_nil, or_false] at listed
  rcases listed with rfl | rfl | rfl <;> rfl

/-! ## Refusals -/

section Refusals

variable {store : Store} {refundRequestId : RefundId} {actor : IntentActorInput}
  {error : ApiError}

theorem cancelRefundGate_refused (may : store.MayCancel refundRequestId actor)
    (refused : cancelRefundGate refundRequestId actor store = .error error) :
    error.isConflict = true ∧ store.isPending refundRequestId = false := by
  obtain ⟨refund, job, access, stored, found, resolved, own⟩ := may
  simp only [cancelRefundGate, stored, found, resolved, own, orThrow, guardThat, if_true,
    Bind.bind, Except.bind] at refused
  split_ifs at refused with pending
  · cases refused
  · cases refused
    exact ⟨rfl, by simp [Books.isPending, stored, pending]⟩

/-- Whoever passes the gate may cancel the request. -/
theorem mayCancel_of_gate
    (passed : (cancelRefundGate refundRequestId actor store).toOption.isSome = true) :
    store.MayCancel refundRequestId actor := by
  cases gate : cancelRefundGate refundRequestId actor store with
  | error error =>
      rw [gate] at passed
      cases passed
  | ok terms =>
      simp only [cancelRefundGate, gate_bind_eq_ok, orThrow_eq_ok, guardThat_eq_ok] at gate
      obtain ⟨refund, found, job, foundJob, access, resolved, _, own, _⟩ := gate
      exact ⟨refund, job, access, found, foundJob, resolved, own⟩

theorem cancelRefundGate_id {terms : CancelRefundTerms}
    (passed : cancelRefundGate refundRequestId actor store = .ok terms) :
    terms.refund.id = refundRequestId := by
  simp only [cancelRefundGate, gate_bind_eq_ok, orThrow_eq_ok, guardThat_eq_ok,
    gate_pure_eq_ok] at passed
  obtain ⟨refund, found, _, _, _, _, _, _, _, _, rfl⟩ := passed
  exact Table.key_of_find? _ found

theorem pendingRefundGate_refused {refusal : String}
    (stored : (store.refunds.find? refundRequestId).isSome)
    (refused : pendingRefundGate refundRequestId refusal store = .error error) :
    error.isConflict = true ∧ store.isPending refundRequestId = false := by
  obtain ⟨refund, found⟩ := Option.isSome_iff_exists.mp stored
  simp only [pendingRefundGate, found, orThrow, guardThat, Bind.bind, Except.bind] at refused
  split_ifs at refused with pending
  · cases refused
  · cases refused
    exact ⟨rfl, by simp [Books.isPending, found, pending]⟩

/-- An administrator is refused only where a participant is missing. -/
theorem getAccessibleJobOrThrow_isConflict {jobId : JobId} {userId : UserId}
    (stored : (store.jobs.find? jobId).isSome)
    (refused : getAccessibleJobOrThrow jobId ⟨userId, some .admin⟩ store = .error error) :
    error.isConflict = true := by
  obtain ⟨job, found⟩ := Option.isSome_iff_exists.mp stored
  simp only [getAccessibleJobOrThrow, found, orThrow, Bind.bind, Except.bind] at refused
  simp only [resolveJobAccess] at refused
  split at refused
  · simp [AppRole.isAdmin] at refused
  · cases refused
    rfl

end Refusals

section Calls

variable {ι : Type} {watched : RefundId → Prop} {calls : ι → SettlementCall} {client : ι}

/-! ## Inside a transaction -/

/-- The client holds the locks, knows the condition, and its writes change the books
so. -/
structure Inside (watched : RefundId → Prop) (calls : ι → SettlementCall)
    (locks : List Target) (condition : Observed ι → Prop) (change : Books → Books)
    (standing : Standing (Observed ι) Database Target) : Prop where
  stable : (decisionDiscipline watched calls).Stable standing.held standing.know
  held : ∀ lock ∈ locks, lock ∈ standing.held
  knows : ∀ state, standing.know state → condition state
  rewrites : ∀ database : Database, database.Rewrites (standing.pending database)
    (change database.toBooks)

section Knowledge

variable {held : Set Target}

/-- What the growth of the database keeps stays known. -/
theorem decision_stable {know : Observed ι → Prop}
    (keeps : ∀ before after : Observed ι, before.database.Grows after.database →
      know before → know after) :
    (decisionDiscipline watched calls).Stable held know :=
  fun before after _ _ grows knows => keeps before after grows.1 knows

/-- A request whose row is locked stays pending. -/
theorem pending_stable {refundRequestId : RefundId}
    (locked : Target.refund refundRequestId ∈ held) :
    (decisionDiscipline watched calls).Stable held fun state =>
      watched refundRequestId → state.database.isPending refundRequestId = true := by
  intro before after _ same _ pending watches
  have sameRow := (same _ locked).2 refundRequestId watches rfl
  rw [Books.isPending, sameRow]
  exact pending watches

/-- The decision of the client stands, with this reply. -/
def DecidedAs (watched : RefundId → Prop) (client : ι) (refundRequestId : RefundId)
    (reply : RefundRequest) (state : Observed ι) : Prop :=
  watched refundRequestId →
    state.database.refunds.find? refundRequestId = some reply ∧
      state.owner refundRequestId = some client

theorem decidedAs_stable (client : ι) (refundRequestId : RefundId) (reply : RefundRequest) :
    (decisionDiscipline watched calls).Stable held
      (DecidedAs watched client refundRequestId reply) := by
  intro before after _ _ grows decided watches
  obtain ⟨stored, owned⟩ := decided watches
  exact grows.2 refundRequestId watches reply client stored owned

end Knowledge

/-- Someone has decided on the request. -/
def IsDecided (watched : RefundId → Prop) (refundRequestId : RefundId) (state : Observed ι) :
    Prop :=
  watched refundRequestId → ∃ row owner,
    state.database.refunds.find? refundRequestId = some row ∧
      state.owner refundRequestId = some owner

theorem isDecided_stable (refundRequestId : RefundId) :
    (decisionDiscipline watched calls).Stable held
      (IsDecided watched refundRequestId : Observed ι → Prop) := by
  intro before after _ _ grows decided watches
  obtain ⟨row, owner, stored, owned⟩ := decided watches
  exact ⟨row, owner, grows.2 refundRequestId watches row owner stored owned⟩

/-- A request which is not pending was decided on by a call. -/
theorem isDecided_of_closed {state : Observed ι} {refundRequestId : RefundId}
    (invariant : DecisionInvariant watched calls state)
    (closed : watched refundRequestId → state.database.isPending refundRequestId = false) :
    IsDecided watched refundRequestId state := by
  intro watches
  obtain ⟨row, decided⟩ := invariant.decided refundRequestId watches
  cases owner : state.owner refundRequestId with
  | none =>
      have pending := Books.isPending_iff.mpr
        ⟨row, decided.stored, decided.open_iff.mpr owner⟩
      rw [closed watches] at pending
      cases pending
  | some client =>
      exact ⟨row, client, decided.stored, rfl⟩

/-- A call on a watched request is refused with a conflict, and either it knows that the
request is decided or the payment cannot be paid back. -/
def Explains (watched : RefundId → Prop) (refundRequestId : RefundId) (error : ApiError)
    (know : Observed ι → Prop) : Prop :=
  watched refundRequestId → error.isConflict = true ∧
    (error ∈ paymentRefusals ∨ ∀ state, know state → IsDecided watched refundRequestId state)

theorem explains_of_decided {refundRequestId : RefundId} {error : ApiError}
    (conflict : watched refundRequestId → error.isConflict = true) :
    Explains watched refundRequestId error
      (IsDecided watched refundRequestId : Observed ι → Prop) :=
  fun watches => ⟨conflict watches, .inr fun _ decided => decided⟩

theorem keepsUnused_decisionDiscipline (keys : List Target) :
    KeepsUnused (decisionDiscipline watched calls) keys :=
  fun _ _ _ _ same unused => same.1 unused

/-! ## Statements of a decision -/

section Statements

variable {locks : List Target} {condition : Observed ι → Prop} {change : Books → Books}
  {standing : Standing (Observed ι) Database Target}

theorem Inside.look (inside : Inside watched calls locks condition change standing)
    (seen : Option Database) :
    Inside watched calls locks condition change { standing with seen := seen } :=
  ⟨inside.stable, inside.held, inside.knows, inside.rewrites⟩

/-- Entries are appended to the ledger. -/
theorem Inside.append (inside : Inside watched calls locks condition change standing)
    (entries : List LedgerEntry) {appended : Books → Books}
    (appends : ∀ books, appended books =
      { change books with ledger := (change books).ledger ++ entries }) :
    Inside watched calls locks condition appended
      { standing with
        pending := (fun database => { database with ledger := database.ledger ++ entries }) ∘
          standing.pending } where
  stable := inside.stable
  held := inside.held
  knows := inside.knows
  rewrites := by
    intro database
    obtain ⟨books, market, events, applied, incidents⟩ := inside.rewrites database
    refine ⟨?_, market, events, applied, incidents⟩
    rw [appends, ← books]
    rfl

/-- The case of a request is closed with the decision; the books do not change, and a
case which was found is still there when its row is locked. -/
theorem safe_syncRefundCaseDecision
    {finish : Except ApiError Unit → Standing (Observed ι) Database Target → Prop}
    (inside : Inside watched calls locks condition change standing)
    (untouched : ∀ database, (standing.pending database).incidents = database.incidents)
    (input : RefundDecisionInput) (now : Time)
    (ends : ∀ middle, Inside watched calls locks condition change middle →
      finish (.ok ()) middle) :
    (decisionDiscipline watched calls).Safe client finish standing
      (Procedure.syncRefundCaseDecision input now) := by
  refine Discipline.safe_select_bind fun state _ knows _ => ?_
  simp only [decisionDiscipline_data, untouched]
  cases opened : state.database.incidents.findFirst? fun incident =>
      incident.relatedRefundRequestId = some input.refundRequestId with
  | none =>
      exact ⟨standing.know, knows, inside.stable, ends _ (inside.look _)⟩
  | some incident =>
      have stored : (state.database.incidents.find? incident.id).isSome := by
        obtain ⟨member, _⟩ := Table.mem_of_findFirst? _ opened
        exact Option.isSome_iff_exists.mpr
          ⟨incident, (Table.find?_eq_some_iff _).mpr ⟨member, rfl⟩⟩
      have stable : ∀ held, standing.held ⊆ held →
          (decisionDiscipline watched calls).Stable held fun later =>
            standing.know later ∧ (later.database.incidents.find? incident.id).isSome :=
        fun held larger => (inside.stable.mono larger).and
          (decision_stable fun _ _ grows present => grows.incidents.isSome_find? present)
      refine ⟨_, ⟨knows, stored⟩, stable _ subset_rfl, ?_⟩
      have larger := Set.subset_insert (Target.incident incident.id) standing.held
      refine Discipline.safe_script_bind (Procedure.safe_update (fun _ _ knows _ => knows)
        (stable _ larger) (fun later row _ knows _ => ?_) fun later _ knows absent => ?_)
      · refine ⟨standing.know, knows.1, inside.stable.mono larger, ?_⟩
        exact ends _
          { stable := inside.stable.mono larger
            held := fun lock member => larger (inside.held lock member)
            knows := inside.knows
            rewrites := by
              intro database
              refine (inside.rewrites database).updateIncident ?_ _
              exact fun _ => rfl }
      · have present := knows.2
        rw [decisionDiscipline_data, untouched] at absent
        rw [absent] at present
        cases present

end Statements

/-! ## Decisions -/

section Decide

variable {refundRequestId : RefundId}
  {finish : Except ApiError RefundRequest → Standing (Observed ι) Database Target → Prop}

/-- The first update of a decision: the request is pending when its row is locked, as
the client has seen it. -/
theorem safe_updateRefund {seen : Database} {know : Observed ι → Prop}
    {change : RefundRequest → RefundRequest}
    {keyed : ∀ refund, Keyed.key (change refund) = Keyed.key refund}
    (opened : watched refundRequestId → seen.isPending refundRequestId = true)
    (stable : (decisionDiscipline watched calls).Stable ∅ know)
    (missing : ∀ middle, ¬ watched refundRequestId →
      finish (.error (.database "P2025")) middle)
    (found : ∀ row middle,
      Inside watched calls [.refund refundRequestId]
        (fun state => know state ∧
          (watched refundRequestId → state.database.isPending refundRequestId = true))
        (fun books => { books with
          refunds := books.refunds.update refundRequestId change keyed }) middle →
      (∀ database, middle.pending database = { database with
        refunds := database.refunds.update refundRequestId change keyed }) →
      finish (.ok (change row)) middle) :
    (decisionDiscipline watched calls).Safe client finish ⟨some seen, ∅, id, know⟩
      (Procedure.updateRefund refundRequestId change keyed) := by
  have locked : Target.refund refundRequestId ∈ insert (Target.refund refundRequestId) ∅ :=
    Set.mem_insert _ _
  have stableLocked := (stable.mono (Set.empty_subset _)).and
    (pending_stable locked : (decisionDiscipline watched calls).Stable _ _)
  refine Procedure.safe_update ?_ stableLocked ?_ ?_
  · exact fun state _ knows allowed =>
      ⟨knows, fun watches => allowed refundRequestId watches rfl seen rfl (opened watches)⟩
  · intro state row _ knows _
    refine ⟨_, knows, stableLocked, ?_⟩
    exact found row _ ⟨stableLocked, by simp, fun _ knows => knows,
      fun database => ⟨rfl, rfl, rfl, rfl, .refl _ _⟩⟩ fun _ => rfl
  · intro state _ knows absent
    refine missing _ fun watches => ?_
    obtain ⟨refund, present, _⟩ := Books.isPending_iff.mp (knows.2 watches)
    exact absurd (absent.symm.trans present) (by simp)

/-- Nothing of a failed transaction remains. -/
theorem closes_undone (client : ι) {α : Type}
    {finish : Except ApiError α → Standing (Observed ι) Database Target → Prop}
    {error : ApiError} (failed : ∀ middle, finish (.error error) middle)
    (middle : Standing (Observed ι) Database Target) :
    (decisionDiscipline watched calls).Closes client finish (.error error) middle :=
  ⟨fun _ => True, fun _ _ _ => trivial, Discipline.stable_true _, failed _⟩

/-- The request is read once more, and the decision is committed. -/
theorem safe_commitDecision {locks : List Target} {condition : Observed ι → Prop}
    {change : Books → Books} {standing : Standing (Observed ι) Database Target}
    {decide : RefundRequest → RefundRequest}
    (inside : Inside watched calls locks condition change standing)
    (locked : Target.refund refundRequestId ∈ locks)
    (missing : ∀ middle, ¬ watched refundRequestId →
      finish (.error (.database "P2025")) middle)
    (pending : ∀ state, condition state → watched refundRequestId →
      state.database.isPending refundRequestId = true)
    (decides : ∀ books : Books, (change books).refunds.find? refundRequestId =
      (books.refunds.find? refundRequestId).map decide)
    (keeps : ∀ state written, DecisionInvariant watched calls state → condition state →
      state.database.Rewrites written (change state.database.toBooks) →
      (decisionDiscipline watched calls).Keeps standing.held state
        ⟨written, Function.update state.owner refundRequestId (some client)⟩)
    (decided : ∀ refund seen, finish (.ok (decide refund))
      ⟨seen, ∅, id, DecidedAs watched client refundRequestId (decide refund)⟩) :
    (decisionDiscipline watched calls).Safe client
      ((decisionDiscipline watched calls).Closes client finish) standing
      (Script.consult (.refund refundRequestId) fun database =>
        orThrow (database.refunds.find? refundRequestId) (.database "P2025")) := by
  intro state _ knows _
  have reads : ∀ database : Database,
      (standing.pending database).refunds.find? refundRequestId =
        (database.refunds.find? refundRequestId).map decide := by
    intro database
    rw [(inside.rewrites database).books, decides]
  simp only [decisionDiscipline_data, reads]
  cases opened : state.database.refunds.find? refundRequestId with
  | none =>
      refine ⟨standing.know, knows, inside.stable, closes_undone client (fun middle => ?_) _⟩
      refine missing middle fun watches => ?_
      obtain ⟨refund, present, _⟩ :=
        Books.isPending_iff.mp (pending state (inside.knows state knows) watches)
      exact absurd (opened.symm.trans present) (by simp)
  | some refund =>
      have stable : (decisionDiscipline watched calls).Stable standing.held fun later =>
          watched refundRequestId →
            later.database.refunds.find? refundRequestId = some refund := by
        intro before after _ same _ stored watches
        exact ((same _ (inside.held _ locked)).2 refundRequestId watches rfl).trans
          (stored watches)
      refine ⟨_, ⟨knows, fun _ => opened⟩, inside.stable.and stable, ?_⟩
      rintro later invariant ⟨knowsLater, stored⟩ _
      refine ⟨⟨standing.pending later.database, _⟩, rfl,
        keeps later _ invariant (inside.knows later knowsLater) (inside.rewrites _), _,
        fun watches => ⟨?_, Function.update_self ..⟩, decidedAs_stable client _ _,
        decided refund _⟩
      rw [reads, stored watches]
      rfl

end Decide

/-! ## Cancellation and rejection -/

section Close

variable {refundRequestId : RefundId}
  {finish : Except ApiError RefundRequest → Standing (Observed ι) Database Target → Prop}

theorem safe_decideRefund {seen : Database} {know : Observed ι → Prop}
    (change : RefundRequest → RefundRequest)
    {keyed : ∀ refund, Keyed.key (change refund) = Keyed.key refund}
    (fixed : ∀ refund, (change refund).fixed = refund.fixed)
    (linked : ∀ refund, (change refund).transactionId = refund.transactionId)
    (final : ∀ refund, (change refund).status ≠ .pending ∧ (change refund).status ≠ .succeeded)
    (decision : RefundDecisionInput) (now : Time)
    (opened : watched refundRequestId → seen.isPending refundRequestId = true)
    (stable : (decisionDiscipline watched calls).Stable ∅ know)
    (missing : ∀ middle, ¬ watched refundRequestId →
      finish (.error (.database "P2025")) middle)
    (decided : ∀ refund seen, finish (.ok (change refund))
      ⟨seen, ∅, id, DecidedAs watched client refundRequestId (change refund)⟩) :
    (decisionDiscipline watched calls).Safe client finish ⟨some seen, ∅, id, know⟩
      (Procedure.decideRefund refundRequestId change keyed decision now) := by
  refine Discipline.safe_transaction (Discipline.safe_script_bind ?_)
  refine safe_updateRefund opened stable
    (fun middle unwatched => closes_undone client (fun _ => missing _ unwatched) middle)
    fun row middle inside written => ?_
  refine Discipline.safe_script_bind
    (safe_syncRefundCaseDecision inside (fun database => by rw [written]) decision now ?_)
  intro last inside
  refine safe_commitDecision inside List.mem_cons_self missing (fun _ knows => knows.2)
    (fun books => ?_) (fun state written invariant knows rewrites => ?_) decided
  · rw [Table.find?_update, if_pos rfl]
  · exact keeps_decide invariant rewrites rfl client (inside.held _ List.mem_cons_self) fixed
      linked final knows.2

/-- What is left to show when a decision on the request ends. -/
structure Concludes (watched : RefundId → Prop) (client : ι) (refundRequestId : RefundId)
    (outcome : RefundStatus → Prop)
    (finish : Except ApiError RefundRequest → Standing (Observed ι) Database Target → Prop) :
    Prop where
  failed : ∀ error middle, Explains watched refundRequestId error middle.know →
    finish (.error error) middle
  decided : ∀ reply seen, outcome reply.status →
    finish (.ok reply) ⟨seen, ∅, id, DecidedAs watched client refundRequestId reply⟩

theorem Concludes.missing {outcome : RefundStatus → Prop}
    (concludes : Concludes watched client refundRequestId outcome finish)
    (middle : Standing (Observed ι) Database Target) (unwatched : ¬ watched refundRequestId) :
    finish (.error (.database "P2025")) middle :=
  concludes.failed _ middle fun watches => absurd watches unwatched

theorem safe_cancelRefundRequest {actor : IntentActorInput} {now : Time}
    (call : calls client = .cancelRefundRequest refundRequestId actor now)
    (concludes : Concludes watched client refundRequestId (· = .canceled) finish) :
    (decisionDiscipline watched calls).Safe client finish (Standing.initial _ _ _)
      (Procedure.cancelRefundRequest refundRequestId actor now) := by
  refine Discipline.safe_consult_bind fun state invariant _ _ => ?_
  simp only [Standing.initial, decisionDiscipline_data, id_eq]
  cases gate : cancelRefundGate refundRequestId actor state.database.toStore with
  | error error =>
      have refused := fun watches => cancelRefundGate_refused
        (invariant.may_cancel refundRequestId watches client actor now call) gate
      exact ⟨_, isDecided_of_closed invariant fun watches => (refused watches).2,
        isDecided_stable _,
        concludes.failed _ _ (explains_of_decided fun watches => (refused watches).1)⟩
  | ok terms =>
      refine ⟨fun _ => True, trivial, Discipline.stable_true _, ?_⟩
      obtain ⟨found, pending⟩ := cancelRefundGate_ok gate
      obtain rfl := cancelRefundGate_id gate
      have final : ∀ refund, (canceledRefund now refund).status ≠ .pending ∧
          (canceledRefund now refund).status ≠ .succeeded := by simp [canceledRefund]
      refine safe_decideRefund (canceledRefund now) (fun _ => rfl) (fun _ => rfl) final _ now
        (fun _ => ?_) (Discipline.stable_true _) concludes.missing
        fun refund seen => concludes.decided _ seen rfl
      exact Books.isPending_iff.mpr ⟨terms.refund, found, pending⟩

/-- The first read of an administrator's decision. -/
theorem safe_findPendingRefund {α : Type}
    {finish : Except ApiError α → Standing (Observed ι) Database Target → Prop}
    {next : Procedure.PendingRefund → Procedure α} (actorUserId : UserId) (refusal : String)
    (failed : ∀ error middle, Explains watched refundRequestId error middle.know →
      finish (.error error) middle)
    (found : ∀ (state : Observed ι) (pending : Procedure.PendingRefund),
      pending.refund.id = refundRequestId →
      state.database.isPending refundRequestId = true →
      (watched refundRequestId → ∀ error, pending.access = .error error →
        error.isConflict = true) →
      (decisionDiscipline watched calls).Safe client finish
        ⟨some state.database, ∅, id, fun _ => True⟩ (next pending)) :
    (decisionDiscipline watched calls).Safe client finish (Standing.initial _ _ _)
      (Procedure.findPendingRefund refundRequestId actorUserId refusal >>= next :
        Procedure α) := by
  refine Discipline.safe_consult_bind fun state invariant _ _ => ?_
  simp only [Standing.initial, decisionDiscipline_data, id_eq]
  cases gate : pendingRefundGate refundRequestId refusal state.database.toStore with
  | error error =>
      have refused := fun watches =>
        pendingRefundGate_refused (invariant.isSome_refund watches) gate
      exact ⟨_, isDecided_of_closed invariant fun watches => (refused watches).2,
        isDecided_stable _,
        failed _ _ (explains_of_decided fun watches => (refused watches).1)⟩
  | ok refund =>
      refine ⟨fun _ => True, trivial, Discipline.stable_true _, ?_⟩
      obtain ⟨stored, pending⟩ := pendingRefundGate_eq_ok.mp gate
      refine found state _ (Table.key_of_find? _ stored)
        (Books.isPending_iff.mpr ⟨refund, stored, pending⟩) fun watches error refused => ?_
      obtain ⟨row, decided⟩ := invariant.decided refundRequestId watches
      obtain rfl : row = refund := Option.some.inj (decided.stored.symm.trans stored)
      exact getAccessibleJobOrThrow_isConflict decided.job refused

/-- The access of the administrator is checked when the decision is committed. -/
theorem safe_checkAccess {access : Except ApiError AccessibleJobFinancialRecord}
    {outcome : RefundStatus → Prop}
    (concludes : Concludes watched client refundRequestId outcome finish)
    (accessible : watched refundRequestId → ∀ error, access = .error error →
      error.isConflict = true)
    (reply : RefundRequest) (seen : Option Database) (status : outcome reply.status) :
    (decisionDiscipline watched calls).Safe client finish
      ⟨seen, ∅, id, DecidedAs watched client refundRequestId reply⟩
      (Script.check access >>= fun _ => pure reply : Procedure RefundRequest) := by
  cases access with
  | error error =>
      exact concludes.failed _ _ fun watches => ⟨accessible watches error rfl, .inr
        fun state decided watches => ⟨reply, client, decided watches⟩⟩
  | ok _ =>
      exact concludes.decided reply seen status

theorem safe_adminRejectRefund (actorUserId : UserId) (dto : RejectRefundRequestDto)
    (now : Time) (concludes : Concludes watched client refundRequestId (· = .failed) finish) :
    (decisionDiscipline watched calls).Safe client finish (Standing.initial _ _ _)
      (Procedure.adminRejectRefund actorUserId refundRequestId dto now) := by
  refine safe_findPendingRefund actorUserId _ concludes.failed
    fun state pending sameId opened accessible => ?_
  subst sameId
  have final : ∀ refund, (rejectedRefund actorUserId dto now refund).status ≠ .pending ∧
      (rejectedRefund actorUserId dto now refund).status ≠ .succeeded := by
    simp [rejectedRefund]
  refine Discipline.safe_script_bind (safe_decideRefund
    (rejectedRefund actorUserId dto now) (fun _ => rfl) (fun _ => rfl) final _ now
    (fun _ => opened) (Discipline.stable_true _) concludes.missing fun refund seen => ?_)
  exact safe_checkAccess concludes accessible _ seen rfl

end Close

/-! ## Approval -/

section Approve

variable {record : RefundRequest} {actorUserId : UserId} {decisionNote : Option String}
  {answer : GatewayResult} {transactionId : TransactionId} {now : Time}
  {finish : Except ApiError RefundRequest → Standing (Observed ι) Database Target → Prop}

/-- The locks of an approval. -/
def approvalLocks (record : RefundRequest) (answer : GatewayResult)
    (transactionId : TransactionId) (now : Time) : List Target :=
  .refund record.id :: Procedure.transactionKeys (refundRow record answer now transactionId)

/-- What an approval knows of the request it has locked. -/
def ReadPending (watched : RefundId → Prop) (record : RefundRequest) (state : Observed ι) :
    Prop :=
  state.database.refunds.Recalls RefundRequest.fixed record ∧
    (watched record.id → state.database.isPending record.id = true)

/-- What an approval knows once its transaction is written. -/
def Approvable (watched : RefundId → Prop) (record : RefundRequest) (answer : GatewayResult)
    (transactionId : TransactionId) (now : Time) (state : Observed ι) : Prop :=
  ReadPending watched record state ∧
    ∀ key ∈ Procedure.transactionKeys (refundRow record answer now transactionId),
      key.Unused state.database

theorem safe_commitRefund {entries : List LedgerEntry}
    {standing : Standing (Observed ι) Database Target}
    (inside : Inside watched calls (approvalLocks record answer transactionId now)
      (Approvable watched record answer transactionId now)
      (fun books => books.refunded record actorUserId decisionNote answer transactionId now
        entries) standing)
    (posts : record.Posts answer transactionId entries)
    (concludes : Concludes watched client record.id (· = nextRefundStatus answer.status)
      finish) :
    (decisionDiscipline watched calls).Safe client
      ((decisionDiscipline watched calls).Closes client finish) standing
      (Script.consult (.refund record.id) fun database =>
        orThrow (database.refunds.find? record.id) (.database "P2025")) := by
  have decides : ∀ books : Books, (books.refunded record actorUserId decisionNote answer
      transactionId now entries).refunds.find? record.id =
        (books.refunds.find? record.id).map
          (refundedRequest record actorUserId decisionNote answer transactionId now) := by
    intro books
    rw [find?_refunded, if_pos rfl]
  refine safe_commitDecision inside List.mem_cons_self concludes.missing
    (fun _ knows => knows.1.2) decides (fun state written invariant knows rewrites => ?_)
    fun refund seen => concludes.decided _ seen rfl
  · obtain ⟨stored, found, _⟩ := knows.1.1
    exact keeps_recordRefund invariant rewrites client (inside.held _ List.mem_cons_self)
      (fun key member => inside.held key (List.mem_cons_of_mem _ member)) knows.2
      (Option.isSome_iff_exists.mpr ⟨stored, found⟩) knows.1.2 posts

/-- The ledger part of an approval. -/
theorem safe_appendRefundLedgerEntries
    {standing : Standing (Observed ι) Database Target} (intent : PaymentIntent)
    (shares : RefundShares) (succeeded : answer.status = .succeeded)
    (inside : Inside watched calls (approvalLocks record answer transactionId now)
      (Approvable watched record answer transactionId now)
      (fun books => books.refunded record actorUserId decisionNote answer transactionId now [])
      standing)
    {finish : Except ApiError Unit → Standing (Observed ι) Database Target → Prop}
    (refused : ∀ error ∈ paymentRefusals, ∀ middle, finish (.error error) middle)
    (appended : ∀ entries middle, record.Posts answer transactionId entries →
      Inside watched calls (approvalLocks record answer transactionId now)
        (Approvable watched record answer transactionId now)
        (fun books => books.refunded record actorUserId decisionNote answer transactionId now
          entries) middle → finish (.ok ()) middle) :
    (decisionDiscipline watched calls).Safe client finish standing
      (Procedure.appendRefundLedgerEntries intent transactionId record.amount shares
        actorUserId) := by
  refine Discipline.safe_look_bind inside.stable fun platformReserved first => ?_
  refine Discipline.safe_require_bind (fun _ => ?_) fun _ => refused _ (by simp [paymentRefusals]) _
  refine Discipline.safe_look_bind inside.stable fun providerHeld second => ?_
  refine Discipline.safe_look_bind inside.stable fun providerAvailable third => ?_
  refine Discipline.safe_require_bind (fun _ => ?_) fun _ => refused _ (by simp [paymentRefusals]) _
  refine appended (refundEntries intent transactionId record.amount shares
    ⟨platformReserved, providerHeld, providerAvailable⟩ actorUserId) _ ?_
    ((inside.look third).append _ fun books => ?_)
  · rw [RefundRequest.Posts, if_pos succeeded]
    exact ⟨_, _, _, _, rfl⟩
  · simp [Books.refunded]

/-- The transaction of an approval is refused only if its keys are in use. -/
theorem admits_of_undisturbed {call : SettlementCall} {actor : UserId} {note : Option String}
    (approval : call = .adminApproveRefund actor record.id note answer transactionId now)
    {state : Observed ι} {seen : Option Database}
    (recalls : state.database.refunds.Recalls RefundRequest.fixed record)
    (undisturbed : call.Undisturbed record.id seen
      (.look (.transactionKey (refundIdempotencyKey record.id))) state.database) :
    state.database.transactions.find? transactionId = none ∧
      state.database.admitsTransaction (refundIdempotencyKey record.id) record.provider
        (some answer.providerReference) = true := by
  subst approval
  obtain ⟨refund, found, same⟩ := recalls
  rw [← field_eq same RefundRequest.provider fun _ => rfl]
  exact (undisturbed rfl refund found).2 rfl

/-- What follows once the transaction is created and the request is settled. -/
theorem safe_finishRefund (order : RefundOrder) (decisionNote : Option String)
    (decision : RefundDecisionInput)
    {standing : Standing (Observed ι) Database Target}
    (inside : Inside watched calls (approvalLocks record answer transactionId now)
      (Approvable watched record answer transactionId now)
      (fun books => books.refunded record actorUserId decisionNote answer transactionId now [])
      standing)
    (untouched : ∀ database, (standing.pending database).incidents = database.incidents)
    (concludes : Concludes watched client record.id (· = nextRefundStatus answer.status)
      finish) :
    (decisionDiscipline watched calls).Safe client
      ((decisionDiscipline watched calls).Closes client finish) standing
      (do
        Procedure.syncRefundCaseDecision decision now
        if (refundRow record answer now transactionId).status = .succeeded then
          Procedure.appendRefundLedgerEntries order.intent
            (refundRow record answer now transactionId).id record.amount
            (refundShares order.intent order.refund.amount) actorUserId
        else
          pure ()
        Script.consult (.refund record.id) fun database =>
          orThrow (database.refunds.find? record.id) (.database "P2025") :
        Procedure RefundRequest) := by
  refine Discipline.safe_script_bind (safe_syncRefundCaseDecision inside untouched decision now
    fun middle inside => ?_)
  simp only [Discipline.Continues]
  split_ifs with succeeded
  · refine Discipline.safe_script_bind (safe_appendRefundLedgerEntries order.intent _
      (mapGatewayToTransactionStatus_eq_succeeded.mp succeeded) inside
      (fun error listed middle => closes_undone client (fun last => concludes.failed _ last
        fun _ => ⟨isConflict_of_paymentRefusals listed, .inl listed⟩) middle)
      fun entries middle posts inside => ?_)
    exact safe_commitRefund inside posts concludes
  · refine safe_commitRefund inside ?_ concludes
    rw [RefundRequest.Posts,
      if_neg fun same => succeeded (mapGatewayToTransactionStatus_eq_succeeded.mpr same)]

/-- What is written after the gateway has answered. -/
theorem safe_recordRefund {actor : UserId} {note : Option String}
    (call : calls client = .adminApproveRefund actor record.id note answer transactionId now)
    (order : RefundOrder) {change : Books → Books}
    {standing : Standing (Observed ι) Database Target}
    (inside : Inside watched calls [.refund record.id] (ReadPending watched record) change
      standing)
    (written : ∀ database, standing.pending database = { database with
      refunds := database.refunds.update record.id
        (approvedRefund record actorUserId decisionNote) })
    (concludes : Concludes watched client record.id (· = nextRefundStatus answer.status)
      finish) :
    (decisionDiscipline watched calls).Safe client
      ((decisionDiscipline watched calls).Closes client finish) standing
      (Procedure.recordRefund order record actorUserId decisionNote answer transactionId
        now) := by
  refine Discipline.safe_script_bind ?_
  refine Procedure.safe_create (keepsUnused_decisionDiscipline _) inside.stable
    (fun state _ _ admitted => ?_) (fun state held larger keys stable => ?_)
    fun state held _ knows allowed refused _ => ?_
  · rw [written] at admitted
    obtain ⟨absent, admits⟩ := Bool.and_eq_true_iff.mp admitted
    exact unused_transactionKeys_iff.mpr
      ⟨Option.isNone_iff_eq_none.mp absent, admitsTransaction_iff_unshared.mp admits⟩
  · have locked : Target.refund record.id ∈ held :=
      larger (inside.held _ List.mem_cons_self)
    have moreLocked := Set.subset_insert (Target.refund record.id) held
    refine Discipline.safe_script_bind (Procedure.safe_update (fun _ _ knows _ => knows)
      (stable.mono moreLocked) (fun later row _ knows _ => ?_) fun later _ knows absent => ?_)
    · refine ⟨_, knows, stable.mono moreLocked, ?_⟩
      refine safe_finishRefund order decisionNote _
        ⟨stable.mono moreLocked, ?_, fun later knows => ?_, fun database => ?_⟩
        (fun database => ?_) concludes
      · intro lock member
        rcases List.mem_cons.mp member with rfl | key
        · exact Set.mem_insert _ _
        · exact moreLocked (keys lock key)
      · exact ⟨inside.knows later knows.1, knows.2⟩
      · simp only [Function.comp_apply, written]
        exact ⟨by simp [Books.refunded], rfl, rfl, rfl, .refl _ _⟩
      · simp only [Function.comp_apply, written]
    · refine closes_undone client (fun middle => ?_) _
      refine concludes.missing middle fun watches => ?_
      obtain ⟨refund, present, _⟩ :=
        Books.isPending_iff.mp ((inside.knows later knows.1).2 watches)
      simp only [decisionDiscipline_data, Function.comp_apply, written, Table.find?_update,
        if_pos, present] at absent
      cases absent
  · rw [written] at refused
    refine closes_undone client (fun middle => concludes.failed _ middle fun watches => ?_) _
    obtain ⟨absent, admits⟩ :=
      admits_of_undisturbed call (inside.knows state knows).1 (allowed record.id watches)
    have admitted := Bool.and_eq_true_iff.mpr ⟨Option.isNone_iff_eq_none.mpr absent, admits⟩
    exact absurd (refused.symm.trans admitted) (by simp)

/-- The database transaction of an approval reads the request again and locks it. -/
theorem safe_settleRefund {refundRequestId : RefundId} {actor : UserId} {note : Option String}
    (call : calls client = .adminApproveRefund actor refundRequestId note answer transactionId
      now)
    (order : RefundOrder) (sameId : order.refund.id = refundRequestId) (seen : Option Database)
    (know : Observed ι → Prop)
    (concludes : Concludes watched client refundRequestId
      (· = nextRefundStatus answer.status) finish) :
    (decisionDiscipline watched calls).Safe client
      ((decisionDiscipline watched calls).Closes client finish) ⟨seen, ∅, id, know⟩
      (Procedure.settleRefund order actorUserId decisionNote answer transactionId now) := by
  subst sameId
  have stable : ∀ record : RefundRequest, (decisionDiscipline watched calls).Stable ∅
      fun state => state.database.refunds.Recalls RefundRequest.fixed record :=
    fun record => decision_stable fun _ _ grows recalls => recalls.of_evolves grows.refunds
  refine Discipline.safe_consult_bind fun state invariant _ _ => ?_
  simp only [decisionDiscipline_data, id_eq]
  cases gate : pendingRefundGate order.refund.id
      "Only pending refund requests can be approved" state.database.toStore with
  | error error =>
      have refused := fun watches =>
        pendingRefundGate_refused (invariant.isSome_refund watches) gate
      exact ⟨_, isDecided_of_closed invariant fun watches => (refused watches).2,
        isDecided_stable _, _, fun _ _ decided => decided, isDecided_stable _,
        concludes.failed _ _ (explains_of_decided fun watches => (refused watches).1)⟩
  | ok record =>
      obtain ⟨found, pending⟩ := pendingRefundGate_eq_ok.mp gate
      have sameId : record.id = order.refund.id := Table.key_of_find? _ found
      rw [← sameId] at call concludes found
      refine ⟨_, Table.recalls_of_find? RefundRequest.fixed found, stable record, ?_⟩
      refine Discipline.safe_script_bind (safe_updateRefund
        (fun _ => Books.isPending_iff.mpr ⟨record, found, pending⟩) (stable record)
        (fun middle unwatched =>
          closes_undone client (fun last => concludes.missing last unwatched) middle)
        fun row middle inside written => ?_)
      exact safe_recordRefund call order inside written concludes

/-- What an approval checks before its transaction. -/
def refundOrderGate (refundRequestId : RefundId) (store : Store) :
    Except ApiError RefundOrder := do
  let refund ← pendingRefundGate refundRequestId
    "Only pending refund requests can be approved" store
  let intent ← orThrow (store.intents.find? refund.paymentIntentId) (.database "P2025")
  guardThat (intent.status.isPaid = true)
    (.conflict "Only paid payment intents can be refunded")
  pure ⟨refund, intent⟩

theorem refundOrderGate_ok {refundRequestId : RefundId} {store : Store} {order : RefundOrder}
    (passed : refundOrderGate refundRequestId store = .ok order) :
    store.refunds.find? refundRequestId = some order.refund ∧
      store.intents.find? order.refund.paymentIntentId = some order.intent := by
  simp only [refundOrderGate, gate_bind_eq_ok, pendingRefundGate_eq_ok, orThrow_eq_ok,
    guardThat_eq_ok, gate_pure_eq_ok] at passed
  obtain ⟨refund, ⟨found, _⟩, intent, stored, _, _, rfl⟩ := passed
  exact ⟨found, stored⟩

theorem refundOrderGate_refused {refundRequestId : RefundId} {store : Store}
    {refund : RefundRequest} (found : store.refunds.find? refundRequestId = some refund)
    (present : (store.intents.find? refund.paymentIntentId).isSome) {error : ApiError}
    (refused : refundOrderGate refundRequestId store = .error error) :
    error.isConflict = true ∧
      (error ∈ paymentRefusals ∨ store.isPending refundRequestId = false) := by
  obtain ⟨intent, foundIntent⟩ := Option.isSome_iff_exists.mp present
  simp only [refundOrderGate, pendingRefundGate, found, orThrow, guardThat, Bind.bind,
    Except.bind, pure, Except.pure] at refused
  split_ifs at refused with pending
  · simp only [foundIntent] at refused
    split_ifs at refused
    cases refused
    exact ⟨rfl, .inl (by simp [paymentRefusals])⟩
  · cases refused
    exact ⟨rfl, .inr (by simp [Books.isPending, found, pending])⟩

/-- The remaining amount is read after the intent; an approval which is not disturbed
finds that its amount is left. -/
theorem safe_checkRemaining {actor : UserId} {note : Option String}
    (call : calls client = .adminApproveRefund actor record.id note answer transactionId now)
    {intent : PaymentIntent} (linked : record.paymentIntentId = intent.id)
    {body : Procedure RefundRequest} {seen : Option Database}
    (failed : ∀ error middle, Explains watched record.id error middle.know →
      finish (.error error) middle)
    (continues : ∀ seen know,
      (decisionDiscipline watched calls).Safe client finish ⟨seen, ∅, id, know⟩ body) :
    (decisionDiscipline watched calls).Safe client finish
      ⟨seen, ∅, id, fun state =>
        state.database.refunds.Recalls RefundRequest.fixed record ∧
          state.database.intents.Recalls PaymentIntent.fixed intent⟩
      (do
        let remainingRefundable ← Procedure.getRemainingRefundableAmount intent.id
        Script.require (record.amount ≤ remainingRefundable)
          (.badRequest "Refund amount exceeds refundable balance")
        body : Procedure RefundRequest) := by
  have stable : ∀ held, (decisionDiscipline watched calls).Stable held fun state =>
      state.database.refunds.Recalls RefundRequest.fixed record ∧
        state.database.intents.Recalls PaymentIntent.fixed intent := fun held =>
    decision_stable fun _ _ grows recalls =>
      ⟨recalls.1.of_evolves grows.refunds, recalls.2.of_evolves grows.intents⟩
  simp only [Procedure.getRemainingRefundableAmount, Script.bind_assoc]
  refine Discipline.safe_consult_bind fun state _ knows _ => ?_
  obtain ⟨later, found, sameIntent⟩ := knows.2
  change state.database.intents.find? intent.id = some later at found
  simp only [decisionDiscipline_data, id_eq, found, orThrow, Discipline.Continues]
  refine ⟨_, knows, stable _, ?_⟩
  refine Discipline.safe_select_bind fun state _ knows allowed => ⟨_, knows, stable _, ?_⟩
  refine Discipline.safe_require_bind (fun _ => continues _ _) fun exceeds => ?_
  refine failed _ _ fun watches => absurd ?_ exceeds
  have undisturbed := allowed record.id watches
  rw [call] at undisturbed
  obtain ⟨⟨refund, foundRefund, sameRefund⟩, ⟨row, foundRow, sameRow⟩⟩ := knows
  have sameLink : refund.paymentIntentId = intent.id :=
    (field_eq sameRefund RefundRequest.paymentIntentId fun _ => rfl).trans linked
  have rowId : row.id = intent.id := Table.key_of_find? _ foundRow
  have left := (undisturbed rfl refund foundRefund).1 row (sameLink ▸ foundRow)
    (congrArg Target.refundsOf rowId.symm)
  have sameAmount : row.amount = later.amount :=
    field_eq (sameRow.trans sameIntent.symm) PaymentIntent.amount fun _ => rfl
  rw [field_eq sameRefund RefundRequest.amount fun _ => rfl, sameAmount, rowId] at left
  exact left

theorem safe_processRefundRequest {refundRequestId : RefundId} {actor : UserId}
    {note : Option String}
    (call : calls client = .adminApproveRefund actor refundRequestId note answer transactionId
      now)
    (seen : Option Database) (know : Observed ι → Prop)
    (concludes : Concludes watched client refundRequestId
      (· = nextRefundStatus answer.status) finish) :
    (decisionDiscipline watched calls).Safe client finish ⟨seen, ∅, id, know⟩
      (Procedure.processRefundRequest refundRequestId actorUserId decisionNote answer
        transactionId now) := by
  refine Discipline.safe_consult_bind fun state invariant _ _ => ?_
  change ∃ learned : Observed ι → Prop, learned state ∧ _ ∧
    (decisionDiscipline watched calls).Continues client finish _
      (refundOrderGate refundRequestId state.database.toStore) _
  cases gate : refundOrderGate refundRequestId state.database.toStore with
  | error error =>
      have refused : watched refundRequestId → error.isConflict = true ∧
          (error ∈ paymentRefusals ∨ state.database.isPending refundRequestId = false) := by
        intro watches
        obtain ⟨refund, decided⟩ := invariant.decided _ watches
        exact refundOrderGate_refused decided.stored decided.intent gate
      by_cases payment : error ∈ paymentRefusals
      · exact ⟨fun _ => True, trivial, Discipline.stable_true _, concludes.failed error _
          fun watches => ⟨(refused watches).1, .inl payment⟩⟩
      · exact ⟨_, isDecided_of_closed invariant
            fun watches => (refused watches).2.resolve_left payment,
          isDecided_stable _,
          concludes.failed _ _ (explains_of_decided fun watches => (refused watches).1)⟩
  | ok order =>
      obtain ⟨found, stored⟩ := refundOrderGate_ok gate
      obtain rfl : order.refund.id = refundRequestId := Table.key_of_find? _ found
      refine ⟨fun state => state.database.refunds.Recalls RefundRequest.fixed order.refund ∧
          state.database.intents.Recalls PaymentIntent.fixed order.intent,
        ⟨Table.recalls_of_find? _ found, Table.recalls_of_find? _ stored⟩,
        decision_stable fun _ _ grows recalls =>
          ⟨recalls.1.of_evolves grows.refunds, recalls.2.of_evolves grows.intents⟩, ?_⟩
      refine safe_checkRemaining call (Table.key_of_find? _ stored).symm concludes.failed
        fun seen know => ?_
      exact Discipline.safe_transaction
        (safe_settleRefund call order rfl seen know concludes)

theorem safe_adminApproveRefund {refundRequestId : RefundId}
    (call : calls client = .adminApproveRefund actorUserId refundRequestId decisionNote answer
      transactionId now)
    (concludes : Concludes watched client refundRequestId
      (· = nextRefundStatus answer.status) finish) :
    (decisionDiscipline watched calls).Safe client finish (Standing.initial _ _ _)
      (Procedure.adminApproveRefund actorUserId refundRequestId decisionNote answer
        transactionId now) := by
  refine safe_findPendingRefund actorUserId _ concludes.failed
    fun state pending sameId opened accessible => ?_
  subst sameId
  refine Discipline.safe_script_bind (safe_processRefundRequest call _ _
    ⟨fun error middle conflict => concludes.failed error middle conflict,
      fun reply seen status => ?_⟩)
  exact safe_checkAccess concludes accessible reply seen status

end Approve

/-! ## Payouts -/

section Payouts

variable {payoutId : PayoutId} {actorUserId : UserId}
  {finish : Except ApiError Payout → Standing (Observed ι) Database Target → Prop}
  (ends : ∀ result middle, finish result middle)

include ends

/-- The end of a transaction which decides on no request. -/
theorem closes_undecided {change : Books → Books} {locks : List Target}
    {condition : Observed ι → Prop} {standing : Standing (Observed ι) Database Target}
    (inside : Inside watched calls locks condition change standing)
    (keeps : ∀ state written, DecisionInvariant watched calls state → condition state →
      state.database.Rewrites written (change state.database.toBooks) →
      (decisionDiscipline watched calls).Keeps standing.held state ⟨written, state.owner⟩)
    (reply : Payout) :
    (decisionDiscipline watched calls).Closes client finish (.ok reply) standing := by
  intro state invariant knows _
  exact ⟨⟨standing.pending state.database, state.owner⟩, rfl,
    keeps state _ invariant (inside.knows state knows) (inside.rewrites _),
    fun _ => True, trivial, Discipline.stable_true _, ends _ _⟩

theorem safe_adminApprovePayout :
    (decisionDiscipline watched calls).Safe client finish (Standing.initial _ _ _)
      (Procedure.adminApprovePayout actorUserId payoutId) := by
  refine Discipline.safe_consult_bind fun state _ _ _ => ?_
  refine ⟨fun _ => True, trivial, Discipline.stable_true _, ?_⟩
  simp only [Standing.initial, decisionDiscipline_data, id_eq]
  cases gate : payoutGate payoutId .pending "Only pending payouts can be approved"
      state.database.toStore with
  | error error =>
      exact ends _ _
  | ok payout =>
      have stable : ∀ held, (decisionDiscipline watched calls).Stable held fun _ => True :=
        Discipline.stable_true
      refine Discipline.safe_transaction (Procedure.safe_update (fun _ _ _ _ => trivial)
        (stable _) (fun state row _ _ _ => ⟨_, trivial, stable _, ?_⟩)
        fun _ _ _ _ => closes_undone client (fun _ => ends _ _) _)
      refine closes_undecided ends
        (show Inside watched calls [] (fun _ => True) (fun books => { books with
            payouts := books.payouts.update payout.id (approvedPayout actorUserId) }) _ from
          ⟨stable _, by simp, fun _ _ => trivial,
            fun database => ⟨rfl, rfl, rfl, rfl, .refl _ _⟩⟩)
        (fun state written invariant _ rewrites => ?_) _
      exact keeps_approvePayout invariant rewrites rfl

section Record

variable {payoutRecord : Payout} {dto : ProcessPayoutDto} {answer : GatewayResult}
  {transactionId : TransactionId} {now : Time}

/-- What the settlement of a payout knows once its transaction is written. -/
def Payable (payoutRecord : Payout) (dto : ProcessPayoutDto) (answer : GatewayResult)
    (transactionId : TransactionId) (now : Time) (row : Payout) (state : Observed ι) : Prop :=
  (True ∧ ∀ key ∈ Procedure.transactionKeys (payoutRow payoutRecord dto answer now
    transactionId), key.Unused state.database) ∧
  state.database.payouts.Recalls Payout.fixed row

theorem closes_paidOut {row : Payout} (sameId : row.id = payoutRecord.id)
    {entries : List LedgerEntry} {standing : Standing (Observed ι) Database Target}
    (inside : Inside watched calls
      (Procedure.transactionKeys (payoutRow payoutRecord dto answer now transactionId))
      (Payable payoutRecord dto answer transactionId now row)
      (fun books => books.paidOut payoutRecord actorUserId dto answer transactionId now entries)
      standing)
    (posts : row.Posts answer transactionId actorUserId entries) (reply : Payout) :
    (decisionDiscipline watched calls).Closes client finish (.ok reply) standing := by
  refine closes_undecided ends inside (fun state written invariant knows rewrites => ?_) reply
  obtain ⟨stored, found, same⟩ := knows.2
  refine keeps_recordPayout invariant rewrites inside.held knows.1.2 ⟨stored, ?_, same.symm⟩
    posts
  rw [← sameId]
  exact found

/-- What follows once the transaction is created and the payout is settled. -/
theorem safe_finishPayout (dto : ProcessPayoutDto) (now : Time) {row updatedPayout : Payout}
    (sameId : row.id = payoutRecord.id)
    (sameEntries : payoutEntries updatedPayout transactionId actorUserId =
      payoutEntries row transactionId actorUserId)
    {standing : Standing (Observed ι) Database Target}
    (inside : Inside watched calls
      (Procedure.transactionKeys (payoutRow payoutRecord dto answer now transactionId))
      (Payable payoutRecord dto answer transactionId now row)
      (fun books => books.paidOut payoutRecord actorUserId dto answer transactionId now [])
      standing) :
    (decisionDiscipline watched calls).Safe client
      ((decisionDiscipline watched calls).Closes client finish) standing
      (if nextPayoutStatus answer.status = .paid then do
        let availableBalance ←
          Procedure.computeBucketNet .providerAvailable payoutRecord.paymentIntentId
        Script.require (updatedPayout.amount ≤ availableBalance)
          (.conflict "Payout amount exceeds currently available provider balance")
        Procedure.appendEntries (payoutEntries updatedPayout transactionId actorUserId)
        pure updatedPayout
      else
        pure updatedPayout : Procedure Payout) := by
  split_ifs with paid
  · refine Discipline.safe_look_bind inside.stable fun availableBalance seen => ?_
    refine Discipline.safe_require_bind (fun _ => ?_)
      fun _ => closes_undone client (fun _ => ends _ _) _
    have appends : ∀ books : Books, books.paidOut payoutRecord actorUserId dto answer
        transactionId now (payoutEntries updatedPayout transactionId actorUserId) =
          { books.paidOut payoutRecord actorUserId dto answer transactionId now [] with
            ledger := (books.paidOut payoutRecord actorUserId dto answer transactionId now
              []).ledger ++ payoutEntries updatedPayout transactionId actorUserId } := by
      simp [Books.paidOut]
    refine closes_paidOut ends sameId ((inside.look seen).append _ appends) ?_ updatedPayout
    rw [Payout.Posts, if_pos (nextPayoutStatus_eq_paid.mp paid)]
    exact sameEntries
  · refine closes_paidOut ends sameId inside ?_ updatedPayout
    rw [Payout.Posts, if_neg fun succeeded => paid (nextPayoutStatus_eq_paid.mpr succeeded)]

/-- The transaction of a payout is created, and the payout is settled with it. -/
theorem safe_recordPayout (seen : Option Database) :
    (decisionDiscipline watched calls).Safe client
      ((decisionDiscipline watched calls).Closes client finish)
      ⟨seen, ∅, id, fun _ => True⟩
      (Procedure.recordPayout payoutRecord actorUserId dto answer transactionId now) := by
  have failed : ∀ error middle,
      (decisionDiscipline watched calls).Closes client finish (.error error) middle :=
    fun error middle => closes_undone client (fun _ => ends _ _) middle
  refine Discipline.safe_script_bind (Procedure.safe_create (keepsUnused_decisionDiscipline _)
    (Discipline.stable_true _) (fun state _ _ admitted => ?_)
    (fun state held _ keys stable => ?_) fun _ _ _ _ _ _ _ => failed _ _)
  · obtain ⟨absent, admits⟩ := Bool.and_eq_true_iff.mp admitted
    exact unused_transactionKeys_iff.mpr
      ⟨Option.isNone_iff_eq_none.mp absent, admitsTransaction_iff_unshared.mp admits⟩
  have larger := Set.subset_insert (Target.payout payoutRecord.id) held
  refine Discipline.safe_script_bind (Procedure.safe_update (fun _ _ knows _ => knows)
    (stable.mono larger) (fun state row _ knows found => ?_) fun _ _ _ _ => failed _ _)
  have stableRow : (decisionDiscipline watched calls).Stable
      (insert (Target.payout payoutRecord.id) held)
      (Payable payoutRecord dto answer transactionId now row) :=
    (stable.mono larger).and
      (decision_stable fun _ _ grows recalls => recalls.of_evolves grows.payouts)
  refine ⟨_, ⟨knows, Table.recalls_of_find? Payout.fixed found⟩, stableRow, ?_⟩
  refine safe_finishPayout ends dto now (Table.key_of_find? _ found) ?_ ?_
  · rfl
  · refine ⟨stableRow, fun key member => larger (keys key member), fun _ knows => knows,
      fun database => ⟨?_, rfl, rfl, rfl, .refl _ _⟩⟩
    simp only [Books.paidOut, List.append_nil]
    rfl

/-- A read of the payout, after which nothing is written. -/
theorem safe_findPayoutOrThrow (seen : Option Database) (know : Observed ι → Prop) :
    (decisionDiscipline watched calls).Safe client finish ⟨seen, ∅, id, know⟩
      (Procedure.findPayoutOrThrow payoutId) :=
  fun _ _ _ _ => ⟨fun _ => True, trivial, Discipline.stable_true _, ends _ _⟩

theorem closes_unwritten (result : Except ApiError Payout) (seen : Option Database)
    (know : Observed ι → Prop) :
    (decisionDiscipline watched calls).Closes client finish result ⟨seen, ∅, id, know⟩ := by
  cases result with
  | error error =>
      exact closes_undone client (fun _ => ends _ _) _
  | ok reply =>
      exact fun state invariant _ _ => ⟨state, rfl, keeps_refl invariant, fun _ => True,
        trivial, Discipline.stable_true _, ends _ _⟩

theorem safe_settlePayout (seen : Option Database) (know : Observed ι → Prop) :
    (decisionDiscipline watched calls).Safe client finish ⟨seen, ∅, id, know⟩
      (Script.transaction (Procedure.settlePayout payoutId actorUserId dto answer
        transactionId now)) := by
  refine Discipline.safe_transaction (Discipline.safe_consult_bind fun state _ _ _ => ?_)
  refine ⟨fun _ => True, trivial, Discipline.stable_true _, ?_⟩
  simp only [decisionDiscipline_data, id_eq]
  cases payoutGate payoutId .approved "Only approved payouts can be processed"
      state.database.toStore with
  | error error =>
      exact closes_undone client (fun _ => ends _ _) _
  | ok payoutRecord =>
      simp only [Discipline.Continues]
      refine Discipline.safe_look_bind (Discipline.stable_true _) fun duplicate seen => ?_
      split_ifs
      · exact fun _ _ _ _ =>
          ⟨fun _ => True, trivial, Discipline.stable_true _, closes_unwritten ends _ _ _⟩
      · exact safe_recordPayout ends seen

theorem safe_adminProcessPayout :
    (decisionDiscipline watched calls).Safe client finish (Standing.initial _ _ _)
      (Procedure.adminProcessPayout actorUserId payoutId dto answer transactionId now) := by
  refine Discipline.safe_consult_bind fun state _ _ _ => ?_
  refine ⟨fun _ => True, trivial, Discipline.stable_true _, ?_⟩
  simp only [Standing.initial, decisionDiscipline_data, id_eq]
  cases payoutGate payoutId .approved "Only approved payouts can be processed"
      state.database.toStore with
  | error error =>
      exact ends _ _
  | ok payout =>
      simp only [Discipline.Continues]
      refine Discipline.safe_look_bind (Discipline.stable_true _) fun existing seen => ?_
      split_ifs
      · exact safe_findPayoutOrThrow ends seen _
      · exact safe_settlePayout ends seen _

end Record

end Payouts


end Calls

end Tchuno.Payments
