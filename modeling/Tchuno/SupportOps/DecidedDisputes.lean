import Tchuno.Payments.Refinement
import Tchuno.Payments.SettlementOutcomes
import Tchuno.SupportOps.IncidentRecords

/-!
# Decided disputes

A decision on a refund request reaches its cases through
`syncRefundCaseDecision`, which closes the newest of them.  A case opened before
the newest one stays as it was.
-/

namespace Tchuno.SupportOps

open Tchuno.Library Tchuno.Library.Ecma Tchuno.Payments

def Closed (incident : OperationalIncident) : Prop :=
  incident.status = .resolved ∨ incident.status = .canceled

instance (incident : OperationalIncident) : Decidable (Closed incident) :=
  inferInstanceAs (Decidable (_ ∨ _))

/-! ## Decisions -/

inductive RefundDecision where
  | approve (actorUserId : UserId) (decisionNote : Option String) (answer : GatewayResult)
  | reject (actorUserId : UserId) (dto : RejectRefundRequestDto)
  | cancel (actor : IntentActorInput)

def RefundDecision.operation (refundRequestId : RefundId) (now : Time) :
    RefundDecision → Operation
  | .approve actorUserId decisionNote answer =>
      .adminApproveRefund actorUserId refundRequestId decisionNote answer now
  | .reject actorUserId dto => .adminRejectRefund actorUserId refundRequestId dto now
  | .cancel actor => .cancelRefundRequest refundRequestId actor now

/-- Between the two stores the request was decided. -/
def Decided (refundRequestId : RefundId) (before after : Store) : Prop :=
  (∃ refund ∈ before.refunds, refund.id = refundRequestId ∧ refund.status = .pending) ∧
    ∃ refund ∈ after.refunds, refund.id = refundRequestId ∧ refund.status ≠ .pending

/-- The incidents after a decision has been recorded in them. -/
def decidedCases (input : RefundDecisionInput) (now : Time) (store : Store) :
    Table OperationalIncident :=
  match newestCase input.refundRequestId store with
  | none => store.incidents
  | some incident => store.incidents.update incident.id (decidedIncident input incident now)

theorem decidedCases_congr (input : RefundDecisionInput) (now : Time) {first second : Store}
    (same : first.incidents = second.incidents) :
    decidedCases input now first = decidedCases input now second := by
  simp only [decidedCases, newestCase, same]

theorem syncRefundCaseDecision_incidents (input : RefundDecisionInput) (now : Time)
    (store : Store) :
    ∃ middle, syncRefundCaseDecision input now store = ⟨.ok (), middle, []⟩ ∧
      middle.incidents = decidedCases input now store := by
  rw [syncRefundCaseDecision_apply, decidedCases]
  cases newestCase input.refundRequestId store with
  | none => exact ⟨store, rfl, rfl⟩
  | some incident => exact ⟨_, rfl, rfl⟩

/-- What a call of the refund services does to the incidents: nothing, or what
the decision of the request does. -/
def Settles (refundRequestId : RefundId) (now : Time) (before after : Store) : Prop :=
  after = before ∨
    ∃ input : RefundDecisionInput, input.refundRequestId = refundRequestId ∧
      after.incidents = decidedCases input now before

theorem decideRefund_settles (refundRequestId : RefundId)
    (change : RefundRequest → RefundRequest)
    (keeps : ∀ refund, Keyed.key (change refund) = Keyed.key refund)
    (input : RefundDecisionInput) (now : Time) (store : Store)
    (about : input.refundRequestId = refundRequestId) :
    Settles refundRequestId now store
      (decideRefund refundRequestId change keeps input now store).state := by
  obtain ⟨middle, recorded, same⟩ := syncRefundCaseDecision_incidents input now
    { store with refunds := store.refunds.update refundRequestId change keeps }
  unfold decideRefund Action.transaction
  simp only [Action.alter_bind_apply]
  rw [Action.bind_of_ok recorded]
  cases read : orThrow (middle.refunds.find? refundRequestId) (.database "P2025") with
  | error error =>
      simp only [Outcome.after_nil, Action.consult, read]
      exact .inl rfl
  | ok refund =>
      simp only [Outcome.after_nil, Action.consult, read]
      exact .inr ⟨input, about, same⟩

theorem cancelRefundRequest_settles (refundRequestId : RefundId) (actor : IntentActorInput)
    (now : Time) (store : Store) :
    Settles refundRequestId now store
      (cancelRefundRequest refundRequestId actor now store).state := by
  rw [cancelRefundRequest, Action.consult_bind_apply]
  cases gate : cancelRefundGate refundRequestId actor store with
  | error error =>
      exact .inl rfl
  | ok terms =>
      have same : terms.refund.id = refundRequestId := by
        simp only [cancelRefundGate, gate_bind_eq_ok, orThrow_eq_ok, guardThat_eq_ok,
          gate_pure_eq_ok] at gate
        obtain ⟨refund, lookup, _, _, _, _, _, _, _, _, rfl⟩ := gate
        exact store.refunds.key_of_find? lookup
      subst same
      exact decideRefund_settles terms.refund.id _ _ _ now store rfl

theorem adminRejectRefund_settles (actorUserId : UserId) (refundRequestId : RefundId)
    (dto : RejectRefundRequestDto) (now : Time) (store : Store) :
    Settles refundRequestId now store
      (adminRejectRefund actorUserId refundRequestId dto now store).state := by
  rw [adminRejectRefund, Action.consult_bind_apply]
  cases gate : pendingRefundGate refundRequestId
      "Only pending refund requests can be rejected" store with
  | error error =>
      exact .inl rfl
  | ok refund =>
      obtain rfl : refund.id = refundRequestId :=
        store.refunds.key_of_find? (pendingRefundGate_eq_ok.mp gate).1
      dsimp only
      rw [Action.state_bind_of_reads]
      · exact decideRefund_settles refund.id _ _ _ now store rfl
      · intro updated middle
        rw [Action.state_bind_of_reads fun _ _ => rfl]
        rfl

/-! ## Approvals -/

theorem appendRefundLedgerEntries_incidents (intent : PaymentIntent)
    (transactionId : TransactionId) (amount : Int) (shares : RefundShares)
    (actorUserId : UserId) (store : Store) :
    (appendRefundLedgerEntries intent transactionId amount shares actorUserId
      store).state.incidents = store.incidents := by
  unfold appendRefundLedgerEntries
  simp only [Action.inspect_bind_apply, Action.require_bind_apply]
  split_ifs <;> rfl

/-- The record of an answer either throws or leaves the decision in the case. -/
theorem recordRefund_incidents (order : RefundOrder) (record : RefundRequest)
    (actorUserId : UserId) (decisionNote : Option String) (answer : GatewayResult)
    (now : Time) (store : Store) :
    (∃ error, (recordRefund order record actorUserId decisionNote answer now store).result =
        .error error) ∨
      ∃ input : RefundDecisionInput, input.refundRequestId = record.id ∧
        (recordRefund order record actorUserId decisionNote answer now
          store).state.incidents = decidedCases input now store := by
  by_cases admitted : store.admitsTransaction (refundIdempotencyKey record.id)
      record.provider (some answer.providerReference) = true
  · right
    unfold recordRefund
    rw [Action.bind_of_ok (createTransaction_of_admitted admitted), Outcome.after_nil,
      Action.alter_bind_apply]
    generalize chosen : RefundDecisionInput.mk _ _ _ _ _ _ _ = input
    have about : input.refundRequestId = record.id := by
      rw [← chosen]
    refine ⟨input, about, ?_⟩
    obtain ⟨middle, decided, same⟩ := syncRefundCaseDecision_incidents input now
      { store with
        transactions := store.transactions.insert (refundRow record answer now)
        refunds := store.refunds.update record.id
          (settledRefund (refundRow record answer now store.transactions.nextId)
            answer.status) }
    rw [Action.bind_of_ok decided, Outcome.after_nil]
    have sameCases : middle.incidents = decidedCases input now store := by
      rw [same]
      exact decidedCases_congr input now rfl
    split_ifs
    · rw [Action.state_bind_of_reads fun _ _ => rfl, appendRefundLedgerEntries_incidents,
        sameCases]
    · exact sameCases
  · left
    unfold recordRefund
    exact ⟨_, congrArg Outcome.result
      (Action.bind_of_error (createTransaction_of_refused admitted))⟩

theorem transaction_settleRefund_settles (order : RefundOrder) (actorUserId : UserId)
    (decisionNote : Option String) (answer : GatewayResult) (now : Time) (store : Store) :
    Settles order.refund.id now store
      (Action.transaction (settleRefund order actorUserId decisionNote answer now)
        store).state := by
  cases gate : pendingRefundGate order.refund.id
      "Only pending refund requests can be approved" store with
  | error error =>
      left
      unfold settleRefund Action.transaction
      simp only [Action.consult_bind_apply, gate]
  | ok record =>
      obtain same : record.id = order.refund.id :=
        store.refunds.key_of_find? (pendingRefundGate_eq_ok.mp gate).1
      have opened : settleRefund order actorUserId decisionNote answer now store =
          (recordRefund order record actorUserId decisionNote answer now
            { store with
              refunds := store.refunds.update record.id
                (approvedRefund record actorUserId decisionNote) }).after
            [record.gatewayCall] := by
        unfold settleRefund
        simp only [Action.consult_bind_apply, gate, Action.alter_bind_apply,
          Action.call_bind_apply]
        rfl
      unfold Action.transaction
      simp only [opened, Outcome.after_result, Outcome.after_state]
      rcases recordRefund_incidents order record actorUserId decisionNote answer now _ with
        ⟨error, thrown⟩ | ⟨input, about, recorded⟩
      · rw [thrown]
        exact .inl rfl
      · split
        · exact .inr ⟨input, about.trans same,
            recorded.trans (decidedCases_congr input now rfl)⟩
        · exact .inl rfl

theorem adminApproveRefund_settles (actorUserId : UserId) (refundRequestId : RefundId)
    (decisionNote : Option String) (answer : GatewayResult) (now : Time) (store : Store) :
    Settles refundRequestId now store
      (adminApproveRefund actorUserId refundRequestId decisionNote answer now
        store).state := by
  rw [adminApproveRefund, Action.consult_bind_apply]
  cases gate : pendingRefundGate refundRequestId
      "Only pending refund requests can be approved" store with
  | error error =>
      exact .inl rfl
  | ok refund =>
      obtain rfl : refund.id = refundRequestId :=
        store.refunds.key_of_find? (pendingRefundGate_eq_ok.mp gate).1
      dsimp only
      rw [Action.state_bind_of_reads]
      · rw [processRefundRequest, Action.consult_bind_apply]
        cases passed : processRefundGate refund.id store with
        | error error =>
            exact .inl rfl
        | ok order =>
            have about : order.refund.id = refund.id := (processRefundGate_ok passed).1
            rw [← about]
            exact transaction_settleRefund_settles order actorUserId _ answer now store
      · intro processed middle
        rw [Action.state_bind_of_reads fun _ _ => rfl]
        rfl

theorem decision_settles (decision : RefundDecision) (refundRequestId : RefundId)
    (now : Time) (store : Store) :
    Settles refundRequestId now store
      ((decision.operation refundRequestId now).perform store) := by
  cases decision with
  | approve actorUserId decisionNote answer =>
      exact adminApproveRefund_settles actorUserId refundRequestId decisionNote answer now
        store
  | reject actorUserId dto =>
      exact adminRejectRefund_settles actorUserId refundRequestId dto now store
  | cancel actor =>
      exact cancelRefundRequest_settles refundRequestId actor now store

/-! ## Which cases are closed -/

theorem Decided.ne {refundRequestId : RefundId} {before after : Store}
    (decided : Decided refundRequestId before after) : after ≠ before := by
  rintro rfl
  obtain ⟨⟨early, earlyMember, earlyId, pending⟩, late, lateMember, lateId, settled⟩ := decided
  have same : early = late :=
    after.refunds.eq_of_key_eq earlyMember lateMember (earlyId.trans lateId.symm)
  exact settled (same ▸ pending)

theorem closed_decidedIncident (input : RefundDecisionInput)
    (existing : OperationalIncident) (now : Time) (row : OperationalIncident) :
    Closed (decidedIncident input existing now row) := by
  simp only [Closed, decidedIncident]
  split_ifs
  · exact .inr rfl
  · exact .inl rfl

/-- The decision closes the newest case and leaves the others as they were. -/
theorem decidedCases_closed_iff (input : RefundDecisionInput) (now : Time) (store : Store) :
    (∀ incident ∈ decidedCases input now store,
        incident.relatedRefundRequestId = some input.refundRequestId → Closed incident) ↔
      ∀ incident ∈ store.incidents,
        incident.relatedRefundRequestId = some input.refundRequestId →
          Closed incident ∨ newestCase input.refundRequestId store = some incident := by
  cases newest : newestCase input.refundRequestId store with
  | none =>
      simp only [decidedCases, newest, reduceCtorEq, or_false]
  | some found =>
      have foundMember : found ∈ store.incidents :=
        (store.incidents.mem_of_findFirst? newest).1
      simp only [decidedCases, newest]
      constructor
      · intro closed incident member related
        by_cases same : incident.id = found.id
        · right
          rw [store.incidents.eq_of_key_eq member foundMember same]
        · left
          refine closed incident ?_ related
          exact (store.incidents.mem_update (decidedIncident input found now)
            fun _ => rfl).mpr ⟨incident, member, (if_neg same).symm⟩
      · intro closed incident member related
        obtain ⟨old, oldMember, rfl⟩ :=
          (store.incidents.mem_update (decidedIncident input found now)
            fun _ => rfl).mp member
        split_ifs at related ⊢ with same
        · exact closed_decidedIncident input found now old
        · rcases closed old oldMember related with alreadyClosed | isNewest
          · exact alreadyClosed
          · obtain rfl : found = old := Option.some.inj isNewest
            exact absurd rfl same

/-- After a decision every case of the request is closed if and only if all of
them but the newest were closed before it. -/
theorem decided_cases_closed_iff (store : Store) (refundRequestId : RefundId)
    (decision : RefundDecision) (now : Time)
    (decided : Decided refundRequestId store
      ((decision.operation refundRequestId now).perform store)) :
    (∀ incident ∈ ((decision.operation refundRequestId now).perform store).incidents,
        incident.relatedRefundRequestId = some refundRequestId → Closed incident) ↔
      ∀ incident ∈ store.incidents, incident.relatedRefundRequestId = some refundRequestId →
        Closed incident ∨ newestCase refundRequestId store = some incident := by
  rcases decision_settles decision refundRequestId now store with unchanged | ⟨input, about, same⟩
  · exact absurd unchanged decided.ne
  · rw [same]
    subst about
    exact decidedCases_closed_iff input now store

/-! ## A case that stays open -/

section Sample

/-- A refund request with the case its customer opened. -/
def sampleDispute : Store :=
  support.run (Store.initial sampleMarketplace) (sampleRequest.map .payment)

/-- An administrator opens one more case for the same request. -/
def sampleSecondCase : Store :=
  support.run sampleDispute
    [.createIncident (fun _ => false) 2
      { sampleIncidentDto with
        source := some .refundDispute
        relatedRefundRequestId := some 0 } 4]

def sampleRejection : RefundDecision :=
  .reject 2 ⟨"No evidence", none⟩

theorem sampleDispute_decided :
    Decided 0 sampleDispute ((sampleRejection.operation 0 5).perform sampleDispute) := by
  have decided : (∃ refund ∈ sampleDispute.refunds.rows,
        refund.id = 0 ∧ refund.status = .pending) ∧
      ∃ refund ∈ ((sampleRejection.operation 0 5).perform sampleDispute).refunds.rows,
        refund.id = 0 ∧ refund.status ≠ .pending := by
    decide +kernel
  exact decided

theorem only_dispute_closed :
    Decided 0 sampleDispute ((sampleRejection.operation 0 5).perform sampleDispute) ∧
      ∀ incident ∈ ((sampleRejection.operation 0 5).perform sampleDispute).incidents,
        incident.relatedRefundRequestId = some 0 → Closed incident := by
  have newest : ∀ incident ∈ sampleDispute.incidents.rows,
      incident.relatedRefundRequestId = some 0 →
        Closed incident ∨ (newestCase 0 sampleDispute).map OperationalIncident.id =
          some incident.id := by
    decide +kernel
  refine ⟨sampleDispute_decided, (decided_cases_closed_iff sampleDispute 0 sampleRejection 5
    sampleDispute_decided).mpr ?_⟩
  intro incident member related
  refine (newest incident member related).imp_right fun same => ?_
  obtain ⟨found, isNewest, sameId⟩ := Option.map_eq_some_iff.mp same
  have foundMember : found ∈ sampleDispute.incidents :=
    (sampleDispute.incidents.mem_of_findFirst? isNewest).1
  rw [isNewest, sampleDispute.incidents.eq_of_key_eq foundMember member sameId]

theorem first_dispute_stays_open :
    support.Reachable Store.IsInitial sampleSecondCase ∧
      Decided 0 sampleSecondCase ((sampleRejection.operation 0 5).perform sampleSecondCase) ∧
      ∃ incident ∈ ((sampleRejection.operation 0 5).perform sampleSecondCase).incidents,
        incident.relatedRefundRequestId = some 0 ∧ ¬ Closed incident := by
  have decided : ((∃ refund ∈ sampleSecondCase.refunds.rows,
          refund.id = 0 ∧ refund.status = .pending) ∧
        ∃ refund ∈ ((sampleRejection.operation 0 5).perform sampleSecondCase).refunds.rows,
          refund.id = 0 ∧ refund.status ≠ .pending) ∧
      ∃ incident ∈ ((sampleRejection.operation 0 5).perform sampleSecondCase).incidents.rows,
        incident.relatedRefundRequestId = some 0 ∧ ¬ Closed incident := by
    decide +kernel
  have begins : Store.IsInitial (Store.initial sampleMarketplace) := ⟨sampleMarketplace, rfl⟩
  exact ⟨((Machine.Reachable.start begins).run _).run _, decided⟩

end Sample

end Tchuno.SupportOps
