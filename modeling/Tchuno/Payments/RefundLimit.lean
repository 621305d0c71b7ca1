import Tchuno.Payments.Conservation

/-!
# Refunds against the payment

What can still be refunded is the amount of the intent less its succeeded
refunds, at creation and again at approval.  Requests the gateway is still
processing are not counted.
-/

namespace Tchuno.Payments

open Tchuno.Library

/-- The statuses of a request that was handed to the gateway and has not failed. -/
def handedOver : List RefundStatus :=
  [.approved, .processing, .succeeded]

theorem nextRefundStatus_mem_handedOver {status : GatewayOperationStatus} :
    nextRefundStatus status ∈ handedOver ↔ status ≠ .failed := by
  cases status <;> simp [nextRefundStatus, mapGatewayToTransactionStatus, handedOver]

/-- No intent has more handed over for refund than was paid for it. -/
def Books.RefundsWithin (books : Books) : Prop :=
  ∀ intent ∈ books.intents, books.refundSum intent.id handedOver ≤ intent.amount

instance (books : Books) : Decidable books.RefundsWithin :=
  inferInstanceAs (Decidable (∀ intent ∈ books.intents, _))

namespace Movement

/-- The intent and the amount of a refund the gateway takes on. -/
def refund? : Movement → Option (PaymentIntent × Int)
  | .settleRefund order _ _ answer _ =>
      if answer.status = .failed then none else some (order.intent, order.refund.amount)
  | _ => none

/-- A refund the gateway takes on fits into what the others have left. -/
def FitsPayment (books : Books) (movement : Movement) : Prop :=
  ∀ taken ∈ movement.refund?,
    books.refundSum taken.1.id handedOver + taken.2 ≤ taken.1.amount

variable {books : Books} {movement : Movement}

theorem find?_of_refund (admitted : movement.Admitted books) {taken : PaymentIntent × Int}
    (takes : movement.refund? = some taken) :
    books.intents.find? taken.1.id = some taken.1 := by
  cases movement with
  | settleRefund order actorUserId decisionNote answer now =>
      simp only [refund?] at takes
      split_ifs at takes
      obtain rfl := Option.some.inj takes
      exact books.intents.find?_key admitted.2.2.1
  | _ =>
      cases takes

/-- A request counts from the moment the gateway takes it on. -/
theorem refundSum_apply (admitted : movement.Admitted books) (intentId : IntentId) :
    (movement.apply books).refundSum intentId handedOver =
      books.refundSum intentId handedOver +
        match movement.refund? with
        | some (intent, amount) => if intent.id = intentId then amount else 0
        | none => 0 := by
  cases movement with
  | openRefund intent requestedByUserId amount reason evidenceItems =>
      simp [apply, refunds, refund?, Books.refundSum, pendingRefund, handedOver]
  | cancelRefund refund now =>
      simp only [apply, refunds, refund?, Books.refundSum]
      rw [Table.total_update _ _ _ admitted.1]
      simp [admitted.2, canceledRefund, handedOver]
  | rejectRefund refund actorUserId dto now =>
      simp only [apply, refunds, refund?, Books.refundSum]
      rw [Table.total_update _ _ _ admitted.1]
      simp [admitted.2, rejectedRefund, handedOver]
  | settleRefund order actorUserId decisionNote answer now =>
      obtain ⟨stored, pending, foundIntent, _⟩ := admitted
      have linked : order.refund.paymentIntentId = order.intent.id :=
        (books.intents.key_of_find? foundIntent).symm
      have approved : (books.refunds.update order.refund.id
          (approvedRefund order.refund actorUserId decisionNote)).find? order.refund.id =
            some (approvedRefund order.refund actorUserId decisionNote order.refund) := by
        simp only [Table.find?_update, stored, if_true, Option.map_some]
      simp only [apply, refunds, Books.refundSum]
      rw [Table.total_update _ _ _ approved, Table.total_update _ _ _ stored]
      have uncounted : RefundStatus.pending ∉ handedOver := by decide
      by_cases failed : answer.status = .failed
      · have returned : nextRefundStatus .failed ∉ handedOver := by decide
        simp [refund?, settledRefund, approvedRefund, pending, uncounted, failed, returned]
      · have counted := nextRefundStatus_mem_handedOver.mpr failed
        simp [refund?, settledRefund, approvedRefund, pending, uncounted, failed, counted,
          linked]
  | _ =>
      exact (add_zero _).symm

/-- An intent which does not exist yet has nothing to refund. -/
theorem refundSum_of_absent (foreignKeys : books.ForeignKeys) {intentId : IntentId}
    (absent : books.intents.find? intentId = none) (statuses : List RefundStatus) :
    books.refundSum intentId statuses = 0 := by
  refine List.sum_eq_zero fun weight member => ?_
  obtain ⟨refund, present, rfl⟩ := List.mem_map.mp member
  refine if_neg fun counted => ?_
  have linked := foreignKeys.refund_intent refund present
  rw [counted.1, absent] at linked
  cases linked

theorem refundsWithin_apply_iff (consistent : books.Consistent)
    (admitted : movement.Admitted books) (before : books.RefundsWithin) :
    (movement.apply books).RefundsWithin ↔ movement.FitsPayment books := by
  constructor
  · intro after taken takes
    have takes' : movement.refund? = some taken := takes
    obtain ⟨later, foundLater, same⟩ := intents_evolve books movement _ _
      (find?_of_refund admitted takes')
    have sameId : later.id = taken.1.id := field_eq same PaymentIntent.id fun _ => rfl
    have sameAmount : later.amount = taken.1.amount :=
      field_eq same PaymentIntent.amount fun _ => rfl
    have within := after later ((movement.intents books).mem_of_find? foundLater)
    rw [refundSum_apply admitted, takes', sameId, sameAmount] at within
    simpa using within
  · intro fits intent member
    rw [refundSum_apply admitted]
    have known : books.refundSum intent.id handedOver ≤ intent.amount := by
      rcases intent_origin admitted member with ⟨old, older, same⟩ | ⟨newId, split, _⟩
      · have sameId : intent.id = old.id := field_eq same PaymentIntent.id fun _ => rfl
        have sameAmount : intent.amount = old.amount :=
          field_eq same PaymentIntent.amount fun _ => rfl
        rw [sameId, sameAmount]
        exact before old older
      · have absent : books.intents.find? intent.id = none := by
          rw [newId]
          exact books.intents.find?_nextId
        obtain ⟨fee_nonneg, fee_le, _⟩ := split
        rw [refundSum_of_absent consistent.toForeignKeys absent]
        exact fee_nonneg.trans fee_le
    cases takes : movement.refund? with
    | none =>
        simpa using known
    | some taken =>
        by_cases same : taken.1.id = intent.id
        · have fit := fits taken takes
          have found := find?_of_refund admitted takes
          rw [same] at found fit
          have sameAmount : intent.amount = taken.1.amount :=
            field_eq ((intents_evolve books movement).fixed_eq found member)
              PaymentIntent.amount fun _ => rfl
          simpa [same, sameAmount] using fit
        · simpa [same] using known

end Movement

/-- Along every run, the refunds handed over for an intent stay within its amount
exactly as long as every refund the gateway takes on fits into what the others
have left. -/
theorem refunds_within_iff (market : Marketplace) (operations : List Operation) :
    payments.Along (fun store operation => (operation.perform store).RefundsWithin)
        (Store.initial market) operations ↔
      payments.Along (fun store operation => operation.Meets Movement.FitsPayment store)
        (Store.initial market) operations := by
  refine @along_iff_meets (fun _ => True) Books.RefundsWithin _ ?_ ?_ ?_ trivial ?_ market
    operations
  · exact fun _ _ _ _ _ => trivial
  · intro books movement consistent admitted _ before
    exact Movement.refundsWithin_apply_iff consistent admitted before
  · intro books movement preparatory taken takes
    cases movement <;> first | cases takes | cases preparatory
  · simp [Books.initial, Books.RefundsWithin]

/-- Two refunds of the whole deposit, both of which the gateway leaves pending. -/
theorem deposit_refunded_twice :
    ¬ payments.Along (fun store operation => (operation.perform store).RefundsWithin)
      (Store.initial sampleMarketplace)
      [sampleSelection, .payIntent 0 0 ⟨none⟩ (sampleAnswer .succeeded "charge") 2,
        .adminCreateRefund 2 ⟨0, none, "Late", []⟩ (sampleAnswer .pending "first") 3,
        .adminCreateRefund 2 ⟨0, none, "Late", []⟩ (sampleAnswer .pending "second") 4] := by
  decide +kernel

/-! ## Refunds which are decided at once -/

/-- The gateway settles or refuses a refund at once. -/
def Operation.DecidesRefund : Operation → Prop
  | .adminApproveRefund _ _ _ answer _ | .adminCreateRefund _ _ answer _ =>
      answer.status = .succeeded ∨ answer.status = .failed
  | _ => True

namespace Movement

def DecidesRefund : Movement → Prop
  | .settleRefund _ _ _ answer _ => answer.status = .succeeded ∨ answer.status = .failed
  | _ => True

/-- What `processRefundRequest` has found when a refund is settled. -/
def FitsRemaining (books : Books) : Movement → Prop
  | .settleRefund order _ _ _ _ =>
      order.refund.amount ≤
        max 0 (order.intent.amount - books.refundSum order.intent.id [.succeeded])
  | _ => True

end Movement

theorem Operation.DecidesRefund.movement {store : Store} {operation : Operation}
    (decides : operation.DecidesRefund) {movement : Movement}
    (member : movement ∈ operation.movements store) : movement.DecidesRefund := by
  cases makes_of_mem member with
  | settleRefund gate =>
      exact decides
  | settleAdminRefund =>
      exact decides
  | _ =>
      trivial

theorem refundMovements_fit (store : Store) (refundRequestId : RefundId)
    (actorUserId : UserId) (decisionNote : Option String) (answer : GatewayResult)
    (now : Time) :
    bookkeeping.Along (fun books movement => movement.FitsRemaining books) store.toBooks
      (refundMovements store refundRequestId actorUserId decisionNote answer now) := by
  unfold refundMovements
  rcases gate : processRefundGate refundRequestId store with error | order
  · trivial
  · obtain ⟨_, _, _, _, fits⟩ := processRefundGate_ok gate
    dsimp only
    split_ifs
    · exact ⟨fits, trivial⟩
    · trivial

/-- Every refund that is settled fitted into what was left of the payment. -/
theorem movements_fit (store : Store) (operation : Operation) :
    bookkeeping.Along (fun books movement => movement.FitsRemaining books) store.toBooks
      (operation.movements store) := by
  have unrefunded : (∀ movement ∈ operation.movements store, ∀ books,
      movement.FitsRemaining books) →
        bookkeeping.Along (fun books movement => movement.FitsRemaining books) store.toBooks
          (operation.movements store) :=
    fun each => ((movements_admitted store operation).and_forall_mem each).mono
      fun books movement met => met.2 books
  cases operation with
  | adminApproveRefund actorUserId refundRequestId decisionNote answer now =>
      exact refundMovements_fit ..
  | adminCreateRefund actorUserId dto answer now =>
      simp only [Operation.movements]
      rcases gate : adminCreateRefundGate dto store with error | ⟨intent, amount⟩
      · trivial
      · refine ⟨trivial, ?_⟩
        have opened : bookkeeping.step store.toBooks
            (.openRefund intent actorUserId amount dto.reason dto.evidenceItems) =
            { store.toBooks with
              refunds := store.refunds.insert
                (pendingRefund intent actorUserId amount dto.reason dto.evidenceItems) } :=
          Movement.apply_of_silent _ _ rfl
        rw [opened]
        exact refundMovements_fit
          { store with
            refunds := store.refunds.insert
              (pendingRefund intent actorUserId amount dto.reason dto.evidenceItems) }
          store.refunds.nextId actorUserId none answer now
  | _ =>
      refine unrefunded fun movement member books => ?_
      cases makes_of_mem member <;> trivial

/-- No request waits for the gateway. -/
def Books.NoneOutstanding (books : Books) : Prop :=
  ∀ refund ∈ books.refunds, refund.status ≠ .approved ∧ refund.status ≠ .processing

theorem refundSum_handedOver {books : Books} (settled : books.NoneOutstanding)
    (intentId : IntentId) :
    books.refundSum intentId handedOver = books.refundSum intentId [.succeeded] := by
  refine books.refunds.total_congr fun refund present => ?_
  obtain ⟨unapproved, unprocessed⟩ := settled refund present
  simp [handedOver, unapproved, unprocessed]

namespace Movement

variable {books : Books} {movement : Movement}

theorem noneOutstanding_apply (admitted : movement.Admitted books)
    (decides : movement.DecidesRefund) (settled : books.NoneOutstanding) :
    (movement.apply books).NoneOutstanding := by
  intro refund member
  cases movement with
  | openRefund intent requestedByUserId amount reason evidenceItems =>
      simp only [apply, refunds] at member
      rcases Table.eq_or_mem_of_insert member with rfl | older
      · simp [pendingRefund]
      · exact settled refund older
  | cancelRefund target now =>
      simp only [apply, refunds] at member
      obtain ⟨old, older, rfl⟩ := Table.exists_of_update member
      split_ifs
      · simp [canceledRefund]
      · exact settled old older
  | rejectRefund target actorUserId dto now =>
      simp only [apply, refunds] at member
      obtain ⟨old, older, rfl⟩ := Table.exists_of_update member
      split_ifs
      · simp [rejectedRefund]
      · exact settled old older
  | settleRefund order actorUserId decisionNote answer now =>
      simp only [apply, refunds] at member
      obtain ⟨approved, later, rfl⟩ := Table.exists_of_update member
      obtain ⟨old, older, rfl⟩ := Table.exists_of_update later
      by_cases same : Keyed.key old = order.refund.id
      · have decided : ∀ refund : RefundRequest, (settledRefund (refundRow order.refund answer now
            books.transactions.nextId) answer.status refund).status ≠ .approved ∧
              (settledRefund (refundRow order.refund answer now books.transactions.nextId)
                answer.status refund).status ≠ .processing := by
          rcases decides with succeeded | failed
          · simp [settledRefund, succeeded, nextRefundStatus, mapGatewayToTransactionStatus]
          · simp [settledRefund, failed, nextRefundStatus, mapGatewayToTransactionStatus]
        rw [if_pos same, if_pos (show Keyed.key (approvedRefund order.refund actorUserId
          decisionNote old) = order.refund.id from same)]
        exact decided _
      · rw [if_neg same, if_neg same]
        exact settled old older
  | _ =>
      exact settled refund member

/-- A request which fits into what is left without those the gateway has taken on fits, as long
as there are none. -/
theorem fitsPayment_of_decided (consistent : books.Consistent)
    (admitted : movement.Admitted books) (settled : books.NoneOutstanding)
    (fits : movement.FitsRemaining books) : movement.FitsPayment books := by
  intro taken takes
  have takes' : movement.refund? = some taken := takes
  cases movement with
  | settleRefund order actorUserId decisionNote answer now =>
      simp only [refund?] at takes'
      split_ifs at takes'
      obtain rfl := Option.some.inj takes'
      have positive := consistent.refund_amount _ (books.refunds.mem_of_find? admitted.1)
      change books.refundSum order.intent.id handedOver + order.refund.amount ≤
        order.intent.amount
      rw [refundSum_handedOver settled]
      rcases le_max_iff.mp fits with nothing | left <;> omega
  | _ =>
      cases takes'

end Movement

/-- As long as the gateway settles or refuses every refund at once, the refunds of an intent
stay within its amount. -/
theorem refunds_within_of_decided (market : Marketplace) (operations : List Operation)
    (decided : ∀ operation ∈ operations, operation.DecidesRefund) :
    payments.Along (fun store operation => (operation.perform store).RefundsWithin)
      (Store.initial market) operations := by
  have along : payments.Along (fun store operation => operation.Meets
      (fun books movement => movement.FitsRemaining books ∧ movement.DecidesRefund) store)
        (Store.initial market) operations :=
    (Machine.Along.and_forall_mem (Machine.along_of_forall fun _ _ => trivial) decided).mono
      fun store operation (decides : True ∧ operation.DecidesRefund) =>
        (movements_fit store operation).and_forall_mem
          fun movement member => decides.2.movement member
  refine (@along_of_meets (fun books => books.NoneOutstanding ∧ books.RefundsWithin)
    _ ?_ ?_ _ _ along).mono fun _ _ kept => kept.2
  · rintro books movement consistent admitted ⟨settled, within⟩ ⟨fits, decides⟩
    exact ⟨Movement.noneOutstanding_apply admitted decides settled,
      (Movement.refundsWithin_apply_iff consistent admitted within).mpr
        (Movement.fitsPayment_of_decided consistent admitted settled fits)⟩
  · exact ⟨fun refund member => absurd member (Table.not_mem_empty refund),
      fun intent member => absurd member (Table.not_mem_empty intent)⟩

end Tchuno.Payments
