import Tchuno.Payments.Platform
import Tchuno.Payments.ReconciliationRuns
import Tchuno.Payments.Uniqueness

/-!
# Pending charges on the platform

The books agree with what the adapters remember, and reconciliation settles every pending
charge: the oldest are taken first, so that those which were there at some moment are all
queried before any that were written since.
-/

namespace Tchuno.Payments

open Tchuno.Library Tchuno.Library.Ecma

/-! ## The rows of charges -/

def Movement.isReport : Movement → Bool
  | .applyReport _ => true
  | _ => false

def Movement.isAttempt : Movement → Bool
  | .attemptCharge .. => true
  | _ => false

/-- What the operation makes of a row which was there. -/
def Operation.rewrites (row : PaymentTransaction) : Operation → PaymentTransaction
  | .reconcileTransaction transactionId answer now =>
      if row.id = transactionId then
        settledRow row answer.status answer.rawPayload answer.reason now row
      else
        row
  | _ => row

section Rows

variable {books : Books} {store : Store} {row : PaymentTransaction} {wanted : TransactionId}

/-- Only reports rewrite rows. -/
theorem find?_movement {movement : Movement} (unreported : movement.isReport = false)
    (found : books.transactions.find? wanted = some row) :
    (movement.apply books).transactions.find? wanted = some row := by
  cases movement with
  | applyReport report =>
      cases unreported
  | attemptCharge intent idempotencyKey answer now =>
      exact Table.find?_insert_of_some _ _ (fun _ => rfl) found
  | settleRefund order actorUserId decisionNote answer now =>
      exact Table.find?_insert_of_some _ _ (fun _ => rfl) found
  | settlePayout payout actorUserId dto answer now =>
      exact Table.find?_insert_of_some _ _ (fun _ => rfl) found
  | _ =>
      exact found

theorem find?_movements {movements : List Movement}
    (unreported : ∀ movement ∈ movements, movement.isReport = false)
    (found : books.transactions.find? wanted = some row) :
    (bookkeeping.run books movements).transactions.find? wanted = some row := by
  induction movements generalizing books with
  | nil =>
      exact found
  | cons movement rest inductionHypothesis =>
      exact inductionHypothesis
        (fun later member => unreported later (List.mem_cons_of_mem _ member))
        (find?_movement (unreported movement List.mem_cons_self) found)

/-- Only an attempt to pay adds the row of a charge. -/
theorem mem_movement {movement : Movement} (unreported : movement.isReport = false)
    (unattempted : movement.isAttempt = false) (charge : row.type = .charge)
    (member : row ∈ (movement.apply books).transactions) : row ∈ books.transactions := by
  cases movement with
  | applyReport report =>
      cases unreported
  | attemptCharge intent idempotencyKey answer now =>
      cases unattempted
  | settleRefund order actorUserId decisionNote answer now =>
      rcases (Table.mem_insert _ _ fun _ => rfl).mp member with rfl | older
      · cases charge
      · exact older
  | settlePayout payout actorUserId dto answer now =>
      rcases (Table.mem_insert _ _ fun _ => rfl).mp member with rfl | older
      · cases charge
      · exact older
  | _ =>
      exact member

theorem mem_movements {movements : List Movement}
    (quiet : ∀ movement ∈ movements, movement.isReport = false ∧ movement.isAttempt = false)
    (charge : row.type = .charge)
    (member : row ∈ (bookkeeping.run books movements).transactions) :
    row ∈ books.transactions := by
  induction movements generalizing books with
  | nil =>
      exact member
  | cons movement rest inductionHypothesis =>
      obtain ⟨unreported, unattempted⟩ := quiet movement List.mem_cons_self
      exact mem_movement unreported unattempted charge
        (inductionHypothesis (fun later inside => quiet later (List.mem_cons_of_mem _ inside))
          member)

def Operation.isPayment : Operation → Bool
  | .payIntent .. => true
  | _ => false

/-- Apart from payments, webhooks and queries, no operation concerns the row of a charge. -/
theorem quiet_movements {operation : Operation} (ours : operation.isWebhook = false)
    (unasked : operation.isQuery = false) (unpaid : operation.isPayment = false) :
    ∀ movement ∈ operation.movements store,
      movement.isReport = false ∧ movement.isAttempt = false := by
  intro movement member
  cases makes_of_mem member with
  | attemptCharge => cases unpaid
  | reportCharge => cases unpaid
  | reportWebhook => cases ours
  | reportReconciliation => cases unasked
  | _ => exact ⟨rfl, rfl⟩

/-- The row of an attempt to pay, when the answer has been applied. -/
def attemptedRow (intent : PaymentIntent) (idempotencyKey : String) (answer : GatewayResult)
    (now : Time) (transactionId : TransactionId) : PaymentTransaction :=
  let row := chargeRow intent idempotencyKey answer now transactionId
  settledRow row answer.status answer.rawPayload answer.reason now row

variable {intentId : IntentId} {actorUserId : UserId} {dto : PayPaymentIntentDto}
  {answer : GatewayResult} {now : Time}

/-- What a payment leaves of the transactions. -/
theorem transactions_payIntent (foreignKeys : store.ForeignKeys) :
    ((Operation.payIntent intentId actorUserId dto answer now).perform store).transactions =
        store.transactions ∨
      ∃ intent idempotencyKey, payIntentGate intentId actorUserId dto now store =
          .ok (.charge intent idempotencyKey) ∧
        ∀ wanted, ((Operation.payIntent intentId actorUserId dto answer now).perform
            store).transactions.find? wanted =
          if wanted = store.transactions.nextId then
            some (attemptedRow intent idempotencyKey answer now store.transactions.nextId)
          else
            store.transactions.find? wanted := by
  have books := perform_books foreignKeys (.payIntent intentId actorUserId dto answer now)
  rw [Operation.movements, chargeMovements] at books
  split at books
  · rename_i intent idempotencyKey gate
    split_ifs at books
    · refine .inr ⟨intent, idempotencyKey, gate, fun wanted => ?_⟩
      rw [books]
      change ((store.transactions.insert (chargeRow intent idempotencyKey answer now)).update
        store.transactions.nextId (settledRow (chargeRow intent idempotencyKey answer now
          store.transactions.nextId) answer.status answer.rawPayload answer.reason now)).find?
            wanted = _
      rw [Table.find?_update, Table.find?_insert]
      split_ifs with newest
      · rfl
      · rfl
    · left
      exact congrArg Books.transactions books
  · left
    exact congrArg Books.transactions books

/-- What a query leaves of the transactions. -/
theorem find?_reconcileTransaction (foreignKeys : store.ForeignKeys)
    {transactionId : TransactionId} (wanted : TransactionId) :
    ((Operation.reconcileTransaction transactionId answer now).perform
        store).transactions.find? wanted =
      (store.transactions.find? wanted).map fun row =>
        (Operation.reconcileTransaction transactionId answer now).rewrites row := by
  have books := perform_books foreignKeys (.reconcileTransaction transactionId answer now)
  change (Store.toBooks _).transactions.find? wanted = _
  rw [books, Operation.movements, reconciliationReport?]
  cases found : store.transactions.find? transactionId with
  | none =>
      change store.transactions.find? wanted = _
      cases other : store.transactions.find? wanted with
      | none =>
          rfl
      | some row =>
          have different : row.id ≠ transactionId := by
            rintro rfl
            have stored := store.transactions.find?_key other
            rw [key_transaction, found] at stored
            cases stored
          simp [Operation.rewrites, different]
  | some transaction =>
      have sameId : transaction.id = transactionId := store.transactions.key_of_find? found
      change (store.transactions.update transaction.id (settledRow transaction answer.status
        answer.rawPayload answer.reason now)).find? wanted = _
      rw [Table.find?_update, sameId]
      split_ifs with same
      · subst same
        rw [found]
        simp [Operation.rewrites, sameId]
      · cases other : store.transactions.find? wanted with
        | none =>
            rfl
        | some row =>
            have rowId : row.id = wanted := store.transactions.key_of_find? other
            simp [Operation.rewrites, rowId, same]

theorem find?_perform (foreignKeys : store.ForeignKeys) {operation : Operation}
    (ours : operation.isWebhook = false) (found : store.transactions.find? wanted = some row) :
    (operation.perform store).transactions.find? wanted = some (operation.rewrites row) := by
  by_cases asked : operation.isQuery = true
  · cases operation with
    | reconcileTransaction transactionId answer now =>
        rw [find?_reconcileTransaction foreignKeys, found]
        rfl
    | _ => cases asked
  · have same : operation.rewrites row = row := by
      cases operation with
      | reconcileTransaction transactionId answer now => exact absurd rfl asked
      | _ => rfl
    rw [same]
    by_cases paid : operation.isPayment = true
    · cases operation with
      | payIntent intentId actorUserId dto answer now =>
          rcases @transactions_payIntent store intentId actorUserId dto answer now foreignKeys
            with kept | ⟨intent, idempotencyKey, _, each⟩
          · rw [kept]
            exact found
          · rw [each, if_neg]
            · exact found
            · rintro rfl
              rw [Table.find?_nextId] at found
              cases found
      | _ => cases paid
    · have quiet := @quiet_movements store operation ours (Bool.eq_false_iff.mpr asked)
        (Bool.eq_false_iff.mpr paid)
      change (Store.toBooks _).transactions.find? wanted = _
      rw [perform_books foreignKeys]
      exact find?_movements (fun movement member => (quiet movement member).1) found

/-- Where the rows of charges come from. -/
theorem charge_origin (foreignKeys : store.ForeignKeys) {operation : Operation}
    (ours : operation.isWebhook = false) (charge : row.type = .charge)
    (member : row ∈ (operation.perform store).transactions) :
    (∃ older ∈ store.transactions, row = operation.rewrites older) ∨
      ∃ intentId actorUserId dto answer now intent idempotencyKey,
        operation = .payIntent intentId actorUserId dto answer now ∧
        payIntentGate intentId actorUserId dto now store =
          .ok (.charge intent idempotencyKey) ∧
        row = attemptedRow intent idempotencyKey answer now store.transactions.nextId := by
  have stored := (Table.find?_eq_some_iff _).mpr ⟨member, rfl⟩
  by_cases paid : operation.isPayment = true
  · cases operation with
    | payIntent intentId actorUserId dto answer now =>
        rcases @transactions_payIntent store intentId actorUserId dto answer now foreignKeys
          with kept | ⟨intent, idempotencyKey, gate, each⟩
        · rw [kept] at member
          exact .inl ⟨row, member, rfl⟩
        · rw [each] at stored
          split_ifs at stored
          · exact .inr ⟨intentId, actorUserId, dto, answer, now, intent, idempotencyKey, rfl,
              gate, (Option.some.inj stored).symm⟩
          · exact .inl ⟨row, Table.mem_of_find? _ stored, rfl⟩
    | _ => cases paid
  · left
    by_cases asked : operation.isQuery = true
    · cases operation with
      | reconcileTransaction transactionId answer now =>
          rw [find?_reconcileTransaction foreignKeys] at stored
          obtain ⟨older, found, same⟩ := Option.map_eq_some_iff.mp stored
          exact ⟨older, Table.mem_of_find? _ found, same.symm⟩
      | _ => cases asked
    · have quiet := @quiet_movements store operation ours (Bool.eq_false_iff.mpr asked)
        (Bool.eq_false_iff.mpr paid)
      change row ∈ (Store.toBooks _).transactions at member
      rw [perform_books foreignKeys] at member
      refine ⟨row, mem_movements quiet charge member, ?_⟩
      cases operation with
      | reconcileTransaction transactionId answer now => exact absurd rfl asked
      | _ => rfl

end Rows

/-! ## The books and the adapters -/

/-- The row of a charge is no newer than the clock, and its adapter, if it is a simulated
one, has an operation of its status, made no later than the row was written. -/
def Platform.Records (platform : Platform) (row : PaymentTransaction) : Prop :=
  row.updatedAt ≤ platform.clock ∧
    (row.provider.isSimulated = true → ∃ reference operation,
      row.providerReference = some reference ∧
        platform.gateways.lookup row.provider reference = some operation ∧
        row.status = mapGatewayToTransactionStatus operation.status ∧
        operation.createdAtMs ≤ row.updatedAt)

structure Platform.Agrees (platform : Platform) : Prop where
  reached : payments.Reachable Store.IsInitial platform.store
  recorded : ∀ row ∈ platform.store.transactions, row.type = .charge → platform.Records row

/-- The process goes on, webhooks and forced answers apart: requests draw references which
are new, and nothing is done earlier than what was done before. -/
def Platform.Ordinary (platform : Platform) : PlatformEvent → Prop
  | .operate operation asked =>
      operation.isWebhook = false ∧ (operation.isQuery = true → asked.simulate = none) ∧
        (∀ call ∈ (operation.calls platform.store).head?,
          platform.gateways.Unused asked call) ∧
        ∀ appliedAt ∈ operation.appliedAt?,
          platform.clock ≤ asked.now ∧ asked.now ≤ appliedAt
  | .reconcilePending _ startedAt times =>
      platform.clock ≤ startedAt ∧ startedAt ≤ (times 0).askedAt ∧
        ∀ index, (times index).askedAt ≤ (times index).appliedAt ∧
          (times index).appliedAt ≤ (times (index + 1)).askedAt
  | .restart => False

/-- Every transaction has a reference. -/
def Books.Referenced (books : Books) : Prop :=
  ∀ row ∈ books.transactions, row.providerReference.isSome = true

theorem Movement.referenced_apply {books : Books} {movement : Movement}
    (referenced : books.Referenced) : (movement.apply books).Referenced := by
  intro row member
  cases movement with
  | attemptCharge intent idempotencyKey answer now =>
      rcases (Table.mem_insert _ _ fun _ => rfl).mp member with rfl | older
      · rfl
      · exact referenced row older
  | settleRefund order actorUserId decisionNote answer now =>
      rcases (Table.mem_insert _ _ fun _ => rfl).mp member with rfl | older
      · rfl
      · exact referenced row older
  | settlePayout payout actorUserId dto answer now =>
      rcases (Table.mem_insert _ _ fun _ => rfl).mp member with rfl | older
      · rfl
      · exact referenced row older
  | applyReport report =>
      simp only [apply, transactions] at member
      obtain ⟨older, stored, same⟩ := Table.Evolves.origin_update PaymentTransaction.fixed member
        fun _ => rfl
      have reference := field_eq same PaymentTransaction.providerReference fun _ => rfl
      rw [reference]
      exact referenced older stored
  | _ =>
      exact referenced row member

theorem reachable_referenced {store : Store}
    (reachable : payments.Reachable Store.IsInitial store) : store.Referenced :=
  (reachable_invariant (fun _ _ _ _ referenced => Movement.referenced_apply referenced)
    (show Books.initial.Referenced from fun _ member =>
      absurd member (Table.not_mem_empty _)) reachable).2

namespace Platform

variable {settings : PlatformSettings} {platform : Platform} {operation : Operation}
  {asked : Asked}

/-- One equation for both kinds of operation. -/
theorem operate_eq (settings : PlatformSettings) (platform : Platform) (operation : Operation)
    (asked : Asked) :
    platform.operate settings operation asked =
      match operation.calls platform.store with
      | [] =>
          { platform with
            store := operation.perform platform.store
            clock := operation.appliedAt?.getD platform.clock }
      | call :: _ =>
          { store := (operation.answered
              (platform.gateways.answer settings.gateways asked call).1).perform platform.store
            gateways := (platform.gateways.answer settings.gateways asked call).2
            clock := operation.appliedAt?.getD platform.clock } := rfl

theorem isWebhook_answered (answer : GatewayResult) (operation : Operation) :
    (operation.answered answer).isWebhook = operation.isWebhook := by
  cases operation <;> rfl

/-- The clock never goes back. -/
theorem clock_operate (ordinary : platform.Ordinary (.operate operation asked)) :
    platform.clock ≤ (platform.operate settings operation asked).clock := by
  have moved : (platform.operate settings operation asked).clock =
      operation.appliedAt?.getD platform.clock := by
    rw [operate_eq]
    split <;> rfl
  rw [moved]
  cases written : operation.appliedAt? with
  | none =>
      exact le_rfl
  | some appliedAt =>
      obtain ⟨later, applied⟩ := ordinary.2.2.2 appliedAt written
      exact later.trans applied

/-- The store is left by the operation, with its own answer or with that of an adapter. -/
theorem store_operate (settings : PlatformSettings) (platform : Platform)
    (operation : Operation) (asked : Asked) :
    ∃ given, (given = operation ∨ ∃ answer, given = operation.answered answer) ∧
      (platform.operate settings operation asked).store = given.perform platform.store := by
  rw [operate_eq]
  split
  · exact ⟨operation, .inl rfl, rfl⟩
  · exact ⟨_, .inr ⟨_, rfl⟩, rfl⟩

theorem reached_operate (reached : payments.Reachable Store.IsInitial platform.store) :
    payments.Reachable Store.IsInitial (platform.operate settings operation asked).store := by
  obtain ⟨given, _, left⟩ := store_operate settings platform operation asked
  rw [left]
  exact reached.next given

/-- A row whose adapter still knows the operation. -/
theorem Records.keep {after : Platform} {row : PaymentTransaction}
    (records : platform.Records row) (later : platform.clock ≤ after.clock)
    (known : ∀ reference operation, row.providerReference = some reference →
      platform.gateways.lookup row.provider reference = some operation →
      after.gateways.lookup row.provider reference = some operation) :
    after.Records row := by
  refine ⟨records.1.trans later, fun simulated => ?_⟩
  obtain ⟨reference, operation, same, found, status, made⟩ := records.2 simulated
  exact ⟨reference, operation, same, known reference operation same found, status, made⟩

/-- An operation which asks no gateway. -/
theorem Agrees.operate_silent (agrees : platform.Agrees)
    (ordinary : platform.Ordinary (.operate operation asked))
    (silent : operation.calls platform.store = []) :
    (platform.operate settings operation asked).Agrees := by
  refine ⟨reached_operate agrees.reached, fun row member charge => ?_⟩
  have later := @clock_operate settings platform operation asked ordinary
  rw [operate_eq, silent] at member later ⊢
  have foreignKeys := (reachable_consistent agrees.reached).toForeignKeys
  rcases charge_origin foreignKeys ordinary.1 charge member with
    ⟨older, stored, rfl⟩ | ⟨intentId, actorUserId, dto, answer, now, intent, key, rfl, gate, _⟩
  · have same : operation.rewrites older = older := by
      cases operation with
      | reconcileTransaction transactionId answer now =>
          -- no call means that there is no such transaction
          have made := @calls_reconcileTransaction answer now platform.store transactionId
          have different : older.id ≠ transactionId := by
            rintro rfl
            have found : platform.store.transactions.find? older.id = some older :=
              (Table.find?_eq_some_iff _).mpr ⟨stored, rfl⟩
            rw [found] at made
            obtain ⟨_, calls⟩ := made
            rw [Operation.calls, calls] at silent
            cases silent
          rw [Operation.rewrites, if_neg different]
      | _ => rfl
    rw [same] at charge ⊢
    exact (agrees.recorded older stored charge).keep later fun _ _ _ found => found
  · have made := @calls_payIntent answer now actorUserId platform.store intentId dto
    rw [gate] at made
    obtain ⟨_, calls⟩ := made
    rw [Operation.calls, calls] at silent
    cases silent

/-- A request adds an operation to what an adapter knows, and a payment the row for it. -/
theorem Agrees.operate_request (agrees : platform.Agrees)
    (ordinary : platform.Ordinary (.operate operation asked)) {call : GatewayCall}
    {rest : List GatewayCall} (calls : operation.calls platform.store = call :: rest)
    (unasked : operation.isQuery = false) :
    (platform.operate settings operation asked).Agrees := by
  refine ⟨reached_operate agrees.reached, fun row member charge => ?_⟩
  have later := @clock_operate settings platform operation asked ordinary
  have requests := isRequest_of_calls calls unasked
  have unused := ordinary.2.2.1 call (by rw [calls]; rfl)
  rw [operate_eq, calls] at member later ⊢
  have foreignKeys := (reachable_consistent agrees.reached).toForeignKeys
  have ours := (isWebhook_answered (platform.gateways.answer settings.gateways asked call).1
    operation).trans ordinary.1
  rcases charge_origin foreignKeys ours charge member with
    ⟨older, stored, rfl⟩ | ⟨intentId, actorUserId, dto, answer, now, intent, key, same, gate, made⟩
  · have kept : (operation.answered
        (platform.gateways.answer settings.gateways asked call).1).rewrites older = older := by
      cases operation with
      | reconcileTransaction transactionId answer now => cases unasked
      | _ => rfl
    rw [kept] at charge ⊢
    exact (agrees.recorded older stored charge).keep later fun _ _ _ found =>
      Gateways.lookup_request requests unused found
  · cases operation with
    | payIntent intentId' actorUserId' dto' answer' now' =>
        obtain ⟨rfl, rfl, rfl, rfl, rfl⟩ := Operation.payIntent.inj same
        have paid := @calls_payIntent answer' now' actorUserId' platform.store intentId' dto'
        rw [gate] at paid
        obtain ⟨_, sameCalls⟩ := paid
        obtain rfl := (List.cons.inj (calls.symm.trans sameCalls)).1
        obtain ⟨_, applied⟩ := ordinary.2.2.2 now' rfl
        subst made
        refine ⟨le_rfl, fun simulated => ?_⟩
        have adapter : getAdapter intent.provider = intent.provider :=
          getAdapter_of_isSimulated simulated
        rw [adapter] at *
        obtain ⟨reason, known⟩ := @Gateways.lookup_requestCharge platform.gateways
          settings.gateways asked intent.provider simulated key intent.amount intent.currency
          intent.customerId intent.jobId
        exact ⟨_, _, rfl, known, rfl, applied⟩
    | _ => cases same

section Queries

variable {transactionId : TransactionId} {transaction : PaymentTransaction}
  {unanswered : GatewayResult} {now : Time}

/-- What the adapter of a transaction is asked about it. -/
def queryOf (transaction : PaymentTransaction) : GatewayCall :=
  .queryTransactionStatus (getAdapter transaction.provider)
    (transaction.providerReference.getD (renderId transaction.id))

theorem operate_query
    (found : platform.store.transactions.find? transactionId = some transaction) :
    platform.operate settings (.reconcileTransaction transactionId unanswered now) asked =
      { store := (Operation.reconcileTransaction transactionId
          (platform.gateways.answer settings.gateways asked (queryOf transaction)).1 now).perform
            platform.store
        gateways := (platform.gateways.answer settings.gateways asked (queryOf transaction)).2
        clock := now } := by
  have made := @calls_reconcileTransaction unanswered now platform.store transactionId
  rw [found] at made
  obtain ⟨rest, calls⟩ := made
  have sameCalls : (Operation.reconcileTransaction transactionId unanswered now).calls
      platform.store = queryOf transaction :: rest := calls
  rw [operate_eq, sameCalls]
  rfl

theorem operate_query_none
    (missing : platform.store.transactions.find? transactionId = none) :
    (Operation.reconcileTransaction transactionId unanswered now).calls platform.store = [] := by
  have made := @calls_reconcileTransaction unanswered now platform.store transactionId
  rw [missing] at made
  exact made

/-- A query settles the operation of its own transaction. -/
theorem Agrees.operate_query (agrees : platform.Agrees)
    (ordinary : platform.Ordinary
      (.operate (.reconcileTransaction transactionId unanswered now) asked))
    (found : platform.store.transactions.find? transactionId = some transaction) :
    (platform.operate settings (.reconcileTransaction transactionId unanswered now)
      asked).Agrees := by
  refine ⟨reached_operate agrees.reached, fun row member charge => ?_⟩
  have later := @clock_operate settings platform _ asked ordinary
  rw [Platform.operate_query found] at member later ⊢
  have consistent := reachable_consistent agrees.reached
  have unforced := ordinary.2.1 rfl
  obtain ⟨notBefore, applied⟩ := ordinary.2.2.2 now rfl
  have sameId : transaction.id = transactionId :=
    platform.store.transactions.key_of_find? found
  obtain ⟨reference, referenced⟩ := Option.isSome_iff_exists.mp
    (reachable_referenced agrees.reached transaction (Table.mem_of_find? _ found))
  rcases charge_origin consistent.toForeignKeys rfl charge member with
    ⟨older, stored, rfl⟩ | ⟨_, _, _, _, _, _, _, same, _⟩
  · rw [Operation.rewrites]
    split_ifs with own
    · -- the transaction itself
      obtain rfl : older = transaction := by
        refine platform.store.transactions.eq_of_key_eq stored
          (Table.mem_of_find? _ found) ?_
        rw [key_transaction, key_transaction, own, sameId]
      have chargeRow : older.type = .charge := by
        rw [Operation.rewrites, if_pos own] at charge
        exact charge
      refine ⟨le_rfl, fun simulated => ?_⟩
      have simulatedRow : older.provider.isSimulated = true := simulated
      obtain ⟨known, operation, same, recorded, status, made⟩ :=
        (agrees.recorded older stored chargeRow).2 simulatedRow
      have adapter := getAdapter_of_isSimulated simulatedRow
      have asking : queryOf older = .queryTransactionStatus older.provider known := by
        rw [queryOf, adapter, same, Option.getD_some]
      refine ⟨known, operation.settle (SimulatedExternalGateway.resolveSettlementDelayMs
        settings.gateways older.provider) asked.now, same, ?_, ?_, ?_⟩
      · change Gateways.lookup _ older.provider known = _
        rw [asking, Gateways.lookup_query unforced, if_pos ⟨rfl, rfl⟩, recorded]
        rfl
      · rw [asking]
        exact congrArg mapGatewayToTransactionStatus (Gateways.answer_query recorded unforced)
      · have before := (agrees.recorded older stored chargeRow).1
        rw [StoredOperation.settle]
        change _ ≤ now
        split_ifs <;> exact made.trans (before.trans (notBefore.trans applied))
    · -- another one has another reference
      have chargeRow : older.type = .charge := by
        rw [Operation.rewrites, if_neg own] at charge
        exact charge
      refine (agrees.recorded older stored chargeRow).keep later fun known operation same
        recorded => ?_
      rw [queryOf, referenced, Option.getD_some, Gateways.lookup_query unforced, if_neg]
      · exact recorded
      · rintro ⟨sameProvider, rfl⟩
        have simulated : older.provider.isSimulated = true := by
          by_contra internal
          rw [Gateways.lookup, Gateways.operations?_eq_none.mpr
            (Bool.eq_false_iff.mpr internal)] at recorded
          cases recorded
        have adapter : getAdapter transaction.provider = transaction.provider := by
          refine getAdapter_of_isSimulated ?_
          rw [← isSimulated_getAdapter, ← sameProvider]
          exact simulated
        have shares : older.SharesKey transaction := by
          refine .inr ⟨sameProvider.trans adapter, ?_, ?_⟩
          · rw [same]
            rfl
          · rw [same, referenced]
        have equal := reachable_uniqueKeys agrees.reached older stored transaction
          (Table.mem_of_find? _ found) shares
        exact own (equal ▸ sameId)
  · cases same

end Queries

/-- Whatever the operation, the books still agree with the adapters. -/
theorem Agrees.operate (agrees : platform.Agrees)
    (ordinary : platform.Ordinary (.operate operation asked)) :
    (platform.operate settings operation asked).Agrees := by
  cases calls : operation.calls platform.store with
  | nil =>
      exact agrees.operate_silent ordinary calls
  | cons call rest =>
      by_cases asks : operation.isQuery = true
      · cases operation with
        | reconcileTransaction transactionId unanswered now =>
            cases found : platform.store.transactions.find? transactionId with
            | none =>
                rw [operate_query_none found] at calls
                cases calls
            | some transaction =>
                exact agrees.operate_query ordinary found
        | _ => cases asks
      · exact agrees.operate_request ordinary calls (Bool.eq_false_iff.mpr asks)

theorem ordinary_query {transactionId : TransactionId} {times : QueryTimes}
    (notBefore : platform.clock ≤ times.askedAt) (applied : times.askedAt ≤ times.appliedAt) :
    platform.Ordinary (.operate
      (.reconcileTransaction transactionId unanswered times.appliedAt)
      ⟨none, "", times.askedAt⟩) := by
  refine ⟨rfl, fun _ => rfl, fun call first => ?_, fun appliedAt written => ?_⟩
  · cases found : platform.store.transactions.find? transactionId with
    | none =>
        rw [operate_query_none found] at first
        cases first
    | some transaction =>
        have made := @calls_reconcileTransaction unanswered times.appliedAt platform.store
          transactionId
        rw [found] at made
        obtain ⟨rest, calls⟩ := made
        rw [Operation.calls, calls] at first
        obtain rfl := Option.some.inj first
        intro drawn requested
        cases requested
  · obtain rfl := Option.some.inj written
    exact ⟨notBefore, applied⟩

theorem clock_query (transactionId : TransactionId) (times : QueryTimes) :
    (platform.query settings transactionId times).clock = times.appliedAt := by
  rw [query, operate_eq]
  split <;> rfl

/-- One query after another, each asked when the answer before it has been written. -/
def InTurn (clock : Time) (times : Nat → QueryTimes) : Prop :=
  clock ≤ (times 0).askedAt ∧
    ∀ index, (times index).askedAt ≤ (times index).appliedAt ∧
      (times index).appliedAt ≤ (times (index + 1)).askedAt

theorem InTurn.next {clock : Time} {times : Nat → QueryTimes} (inTurn : InTurn clock times) :
    InTurn (times 0).appliedAt fun index => times (index + 1) :=
  ⟨(inTurn.2 0).2, fun index => inTurn.2 (index + 1)⟩

/-- What queries preserve, a cycle preserves. -/
theorem reconcileEach_preserves {invariant : Platform → Prop}
    (preserved : ∀ platform transactionId times, platform.clock ≤ times.askedAt →
      times.askedAt ≤ times.appliedAt → invariant platform →
      invariant (platform.query settings transactionId times))
    (holds : invariant platform) (transactionIds : List TransactionId)
    {times : Nat → QueryTimes} (inTurn : InTurn platform.clock times) :
    invariant (platform.reconcileEach settings transactionIds times) := by
  induction transactionIds generalizing platform times with
  | nil =>
      exact holds
  | cons transactionId rest inductionHypothesis =>
      refine inductionHypothesis
        (preserved platform transactionId (times 0) inTurn.1 (inTurn.2 0).1 holds) ?_
      rw [clock_query]
      exact inTurn.next

theorem Agrees.query (agrees : platform.Agrees) {transactionId : TransactionId}
    {times : QueryTimes} (notBefore : platform.clock ≤ times.askedAt)
    (applied : times.askedAt ≤ times.appliedAt) :
    (platform.query settings transactionId times).Agrees :=
  agrees.operate (ordinary_query notBefore applied)

theorem Agrees.step (agrees : platform.Agrees) {event : PlatformEvent}
    (ordinary : platform.Ordinary event) :
    ((platformMachine settings).step platform event).Agrees := by
  cases event with
  | operate operation asked =>
      exact agrees.operate ordinary
  | reconcilePending input startedAt times =>
      obtain ⟨notBefore, first, each⟩ := ordinary
      exact reconcileEach_preserves (fun _ _ _ later applied agrees => agrees.query later applied)
        agrees _ ⟨notBefore.trans first, each⟩
  | restart =>
      exact ordinary.elim

/-- The cycle is the loop of the service, with the answers of the adapters. -/
theorem store_reconcileEach (platform : Platform) (transactionIds : List TransactionId)
    (times : Nat → QueryTimes) :
    ∃ turns, ∀ summary, (platform.reconcileEach settings transactionIds times).store =
      (Payments.reconcileEach transactionIds turns summary platform.store).state := by
  induction transactionIds generalizing platform times with
  | nil =>
      exact ⟨fun _ => ⟨.threw none, 0⟩, fun _ => rfl⟩
  | cons transactionId rest inductionHypothesis =>
      obtain ⟨turns, same⟩ := inductionHypothesis (platform.query settings transactionId (times 0))
        fun index => times (index + 1)
      obtain ⟨given, kind, left⟩ := store_operate settings platform
        (.reconcileTransaction transactionId unanswered (times 0).appliedAt)
        ⟨none, "", (times 0).askedAt⟩
      have replied : ∃ answer,
          given = .reconcileTransaction transactionId answer (times 0).appliedAt := by
        rcases kind with rfl | ⟨answer, rfl⟩
        · exact ⟨_, rfl⟩
        · exact ⟨answer, rfl⟩
      obtain ⟨answer, rfl⟩ := replied
      refine ⟨fun index => index.casesOn ⟨.answered answer, (times 0).appliedAt⟩ turns,
        fun summary => ?_⟩
      rw [Payments.reconcileEach, Action.attempt_bind_apply, Outcome.after_state]
      refine (same _).trans (congrArg (fun store => (Payments.reconcileEach rest turns _
        store).state) ?_)
      exact left

theorem store_reconcilePending (platform : Platform) (input : PendingReconciliationInput)
    (startedAt : Time) (times : Nat → QueryTimes) :
    ∃ turns, ((platformMachine settings).step platform
        (.reconcilePending input startedAt times)).store =
      (reconcilePendingChargeTransactions settings.reconciliation input startedAt turns
        platform.store).state := by
  obtain ⟨turns, same⟩ := @store_reconcileEach settings platform
    ((platform.batch settings input startedAt).map PaymentTransaction.id) times
  refine ⟨turns, ?_⟩
  unfold reconcilePendingChargeTransactions
  rw [Action.inspect_bind_apply]
  exact same _

theorem agrees_initial (market : Marketplace) (clock : Time) :
    (Platform.initial market clock).Agrees :=
  ⟨.start ⟨market, rfl⟩, fun _ member => absurd member (Table.not_mem_empty _)⟩

end Platform

/-- As long as the process goes on without webhooks and forced answers, every charge of a
simulated provider has the status which its adapter remembers. -/
theorem books_match_adapters (settings : PlatformSettings) (market : Marketplace)
    (clock : Time) (events : List PlatformEvent)
    (ordinary : (platformMachine settings).Along Platform.Ordinary
      (Platform.initial market clock) events) :
    let platform := (platformMachine settings).run (Platform.initial market clock) events
    ∀ row ∈ platform.store.transactions, row.type = .charge →
      row.provider.isSimulated = true → ∃ reference operation,
        row.providerReference = some reference ∧
          platform.gateways.lookup row.provider reference = some operation ∧
          row.status = mapGatewayToTransactionStatus operation.status := by
  intro platform row member charge simulated
  have agrees : platform.Agrees := @Machine.run_invariant _ _ (platformMachine settings)
    Platform.Agrees Platform.Ordinary (fun _ _ agrees ordinary => agrees.step ordinary) _
    (Platform.agrees_initial market clock) _ ordinary
  obtain ⟨reference, operation, same, known, status, _⟩ :=
    (agrees.recorded row member charge).2 simulated
  exact ⟨reference, operation, same, known, status⟩

section Sample

/-- No variable is set: the delay is half a minute, and a charge is stale after one. -/
def samplePlatformSettings : PlatformSettings := ⟨⟨fun _ => none, none⟩, ⟨none, none, none⟩⟩

/-- The deposit of a job is to be paid through M-Pesa, and two attempts are made. -/
def sampleAttempts : List PlatformEvent :=
  [.operate (.selectProposal (PaymentEnvironment.policy ⟨none, none, none, some "MPESA"⟩) 0 0 0
      none 1) ⟨none, "", 1⟩,
    .operate (.payIntent 0 0 ⟨none⟩ Platform.unanswered 3) ⟨none, "first", 2⟩,
    .operate (.payIntent 0 0 ⟨none⟩ Platform.unanswered 5) ⟨none, "second", 4⟩]

/-- A cycle a little later. -/
def sampleCycle : PlatformEvent :=
  .reconcilePending ⟨none, none, none⟩ 100000 fun _ => ⟨100000, 100000⟩

theorem sampleAttempts_ordinary :
    (platformMachine samplePlatformSettings).Along Platform.Ordinary
      (Platform.initial sampleMarketplace 0) (sampleAttempts ++ [sampleCycle]) := by
  refine ⟨⟨rfl, nofun, nofun, nofun⟩, ⟨rfl, nofun, ?_, ?_⟩, ⟨rfl, nofun, ?_, ?_⟩,
    ⟨?_, ?_, fun _ => ⟨le_rfl, le_rfl⟩⟩, trivial⟩
  all_goals decide +kernel

theorem sampleAttempts_match :
    let platform := (platformMachine samplePlatformSettings).run
      (Platform.initial sampleMarketplace 0) (sampleAttempts ++ [sampleCycle])
    (platform.store.transactions.findMany fun row => row.type = .charge).length = 2 ∧
    ∀ row ∈ platform.store.transactions, row.type = .charge →
      row.provider.isSimulated = true → ∃ reference operation,
        row.providerReference = some reference ∧
          platform.gateways.lookup row.provider reference = some operation ∧
          row.status = mapGatewayToTransactionStatus operation.status :=
  ⟨by decide +kernel, books_match_adapters samplePlatformSettings sampleMarketplace 0
    (sampleAttempts ++ [sampleCycle]) sampleAttempts_ordinary⟩

end Sample

/-! ## Settling what is pending -/

def PaymentTransaction.isPendingCharge (providers : List PaymentProvider)
    (row : PaymentTransaction) : Bool :=
  row.type = .charge && providers.contains row.provider &&
    [.pending, .processing].contains row.status

def PlatformSettings.providers (settings : PlatformSettings) : List PaymentProvider :=
  resolvePendingReconciliationProviders settings.reconciliation.providers

def PlatformSettings.limit (settings : PlatformSettings) (input : PendingReconciliationInput) :
    Nat :=
  resolvePendingReconciliationLimit settings.reconciliation.batchSize input.limit

def PlatformSettings.minAge (settings : PlatformSettings)
    (input : PendingReconciliationInput) : Nat :=
  resolvePendingReconciliationMinAgeMinutes settings.reconciliation.minAgeMinutes
    input.minAgeMinutes * 60000

def PlatformSettings.settlementDelay (settings : PlatformSettings)
    (provider : PaymentProvider) : Int :=
  SimulatedExternalGateway.resolveSettlementDelayMs settings.gateways provider

/-- The pending charges of the providers which are reconciled. -/
def pendingCharges (settings : PlatformSettings) (platform : Platform) :
    List PaymentTransaction :=
  platform.store.transactions.findMany
    (PaymentTransaction.isPendingCharge settings.providers)

/-- The charge has succeeded, and its whole amount is confirmed. -/
def PaymentTransaction.isSettledAs (row now : PaymentTransaction) : Bool :=
  now.status = .succeeded && now.confirmedAmount = some row.requestedAmount &&
    now.requestedAmount = row.requestedAmount && now.type = row.type

def Platform.settled (platform : Platform) (row : PaymentTransaction) : Bool :=
  (platform.store.transactions.find? row.id).any row.isSettledAs

/-- How many charges the event queries at most. -/
def PlatformEvent.capacity (settings : PlatformSettings) : PlatformEvent → Nat
  | .reconcilePending input _ _ => settings.limit input
  | _ => 0

/-- The event is later than the clock: cycles by their minimum age and by the settlement
delays, single queries by the delays. -/
def PlatformEvent.Due (settings : PlatformSettings) (clock : Time) : PlatformEvent → Prop
  | .operate operation asked =>
      (operation.appliedAt?.isSome = true → clock < asked.now) ∧
        (operation.isQuery = true →
          ∀ provider, clock + settings.settlementDelay provider ≤ asked.now)
  | .reconcilePending input startedAt _ =>
      clock < startedAt ∧ clock + settings.minAge input ≤ startedAt ∧
        ∀ provider, clock + settings.settlementDelay provider ≤ startedAt
  | .restart => True

/-- What has become of the charges that were pending at the start. -/
structure Platform.Since (settings : PlatformSettings) (start platform : Platform) : Prop where
  agrees : platform.Agrees
  later : start.clock ≤ platform.clock
  kept : ∀ row ∈ pendingCharges settings start,
    platform.store.transactions.find? row.id = some row ∨ platform.settled row = true
  /-- whatever else there is was written since -/
  fresh : ∀ row ∈ platform.store.transactions, row.type = .charge →
    row ∈ start.store.transactions ∨ start.clock < row.updatedAt

namespace Platform

variable {settings : PlatformSettings} {start platform : Platform} {operation : Operation}
  {asked : Asked} {row : PaymentTransaction}

theorem answered_appliedAt? (answer : GatewayResult) (operation : Operation) :
    (operation.answered answer).appliedAt? = operation.appliedAt? := by
  cases operation <;> rfl

/-- Rows of charges which an operation does not leave as they are carry its time. -/
theorem charge_of_operate (agrees : platform.Agrees)
    (ordinary : platform.Ordinary (.operate operation asked)) (charge : row.type = .charge)
    (member : row ∈ (platform.operate settings operation asked).store.transactions) :
    row ∈ platform.store.transactions ∨ operation.appliedAt? = some row.updatedAt := by
  have foreignKeys := (reachable_consistent agrees.reached).toForeignKeys
  obtain ⟨given, kind, left⟩ := store_operate settings platform operation asked
  rw [left] at member
  have shared : given.isWebhook = false ∧ given.appliedAt? = operation.appliedAt? := by
    rcases kind with rfl | ⟨answer, rfl⟩
    · exact ⟨ordinary.1, rfl⟩
    · exact ⟨(isWebhook_answered answer operation).trans ordinary.1,
        answered_appliedAt? answer operation⟩
  rw [← shared.2]
  rcases charge_origin foreignKeys shared.1 charge member with
    ⟨older, stored, rfl⟩ | ⟨intentId, actorUserId, dto, answer, now, intent, key, rfl, _, rfl⟩
  · cases given with
    | reconcileTransaction transactionId answer now =>
        rw [Operation.rewrites]
        split_ifs
        · exact .inr rfl
        · exact .inl stored
    | _ => exact .inl stored
  · exact .inr rfl

/-- The row of a transaction stays, or the adapter was asked about it. -/
theorem find?_operate (agrees : platform.Agrees)
    (ordinary : platform.Ordinary (.operate operation asked))
    (found : platform.store.transactions.find? row.id = some row) :
    (platform.operate settings operation asked).store.transactions.find? row.id = some row ∧
        (∀ unanswered now, operation ≠ .reconcileTransaction row.id unanswered now) ∨
      ∃ unanswered now, operation = .reconcileTransaction row.id unanswered now ∧
        (platform.operate settings operation asked).store.transactions.find? row.id =
          some (settledRow row
            (platform.gateways.answer settings.gateways asked (queryOf row)).1.status
            (platform.gateways.answer settings.gateways asked (queryOf row)).1.rawPayload
            (platform.gateways.answer settings.gateways asked (queryOf row)).1.reason now row) := by
  have foreignKeys := (reachable_consistent agrees.reached).toForeignKeys
  by_cases own : ∃ unanswered now, operation = .reconcileTransaction row.id unanswered now
  · obtain ⟨unanswered, now, rfl⟩ := own
    refine .inr ⟨unanswered, now, rfl, ?_⟩
    rw [operate_query found]
    have written := @find?_perform platform.store row row.id foreignKeys
      (.reconcileTransaction row.id
        (platform.gateways.answer settings.gateways asked (queryOf row)).1 now) rfl found
    rw [Operation.rewrites, if_pos rfl] at written
    exact written
  · have other : ∀ unanswered now, operation ≠ .reconcileTransaction row.id unanswered now :=
      fun unanswered now same => own ⟨unanswered, now, same⟩
    refine .inl ⟨?_, other⟩
    obtain ⟨given, kind, left⟩ := store_operate settings platform operation asked
    have shared : given.isWebhook = false ∧ given.rewrites row = row := by
      cases operation with
      | reconcileTransaction transactionId unanswered now =>
          have different : row.id ≠ transactionId := by
            rintro rfl
            exact other unanswered now rfl
          rcases kind with rfl | ⟨answer, rfl⟩
          · exact ⟨rfl, if_neg different⟩
          · exact ⟨rfl, if_neg different⟩
      | _ =>
          rcases kind with rfl | ⟨answer, rfl⟩
          · exact ⟨ordinary.1, rfl⟩
          · exact ⟨ordinary.1, rfl⟩
    have written := find?_perform foreignKeys shared.1 found
    rw [left, written, shared.2]

/-- A query of a charge which was settled, or whose delay is over, reports a success. -/
theorem status_query (records : platform.Records row) (unforced : asked.simulate = none)
    (ready : row.status = .succeeded ∨
      [TransactionStatus.pending, .processing].contains row.status = true ∧
        row.updatedAt + settings.settlementDelay row.provider ≤ asked.now) :
    (platform.gateways.answer settings.gateways asked (queryOf row)).1.status =
      .succeeded := by
  cases simulated : row.provider.isSimulated with
  | false =>
      -- the internal adapter always does
      have none : platform.gateways.operations? (getAdapter row.provider) = none :=
        Gateways.operations?_eq_none.mpr ((isSimulated_getAdapter _).trans simulated)
      have desired : parseDesiredStatus asked.simulate = Option.none := by
        rw [unforced]
        rfl
      simp [queryOf, Gateways.answer, Gateways.ask, none,
        InternalMockGateway.queryTransactionStatus, desired]
  | true =>
      obtain ⟨reference, operation, same, known, status, made⟩ := records.2 simulated
      have adapter := getAdapter_of_isSimulated simulated
      rw [queryOf, adapter, same, Option.getD_some, Gateways.answer_query known unforced]
      rcases ready with done | ⟨pending, waited⟩
      · have succeeded := mapGatewayToTransactionStatus_eq_succeeded.mp (status.symm.trans done)
        rw [StoredOperation.settle, if_neg]
        · exact succeeded
        · rintro ⟨pending, _⟩
          rw [succeeded] at pending
          cases pending
      · have stillOpen : operation.status = .pending := by
          rw [status] at pending
          cases state : operation.status <;> rw [state] at pending <;>
            first | rfl | cases pending
        have elapsed : SimulatedExternalGateway.resolveSettlementDelayMs settings.gateways
            row.provider ≤ asked.now - operation.createdAtMs := by
          have waitedFor : row.updatedAt + SimulatedExternalGateway.resolveSettlementDelayMs
              settings.gateways row.provider ≤ asked.now := waited
          linarith
        rw [StoredOperation.settle, if_pos ⟨stillOpen, elapsed⟩]

theorem isSettledAs_settledRow {row now : PaymentTransaction} {answer : GatewayResult}
    {at' : Time} (succeeded : answer.status = .succeeded)
    (sameAmount : now.requestedAmount = row.requestedAmount) (sameType : now.type = row.type) :
    row.isSettledAs (settledRow now answer.status answer.rawPayload answer.reason at' now) =
      true := by
  simp [PaymentTransaction.isSettledAs, settledRow, succeeded, mapGatewayToTransactionStatus,
    sameAmount, sameType]

theorem pendingCharges_spec (member : row ∈ pendingCharges settings start) :
    start.store.transactions.find? row.id = some row ∧ row.type = .charge ∧
      row.provider ∈ settings.providers ∧
      [TransactionStatus.pending, .processing].contains row.status = true := by
  obtain ⟨stored, accepted⟩ := List.mem_filter.mp member
  simp only [PaymentTransaction.isPendingCharge, Bool.and_eq_true, decide_eq_true_eq] at accepted
  exact ⟨(Table.find?_eq_some_iff _).mpr ⟨stored, rfl⟩, accepted.1.1,
    List.contains_iff_mem.mp accepted.1.2, accepted.2⟩

theorem settled_iff : platform.settled row = true ↔
    ∃ now, platform.store.transactions.find? row.id = some now ∧ row.isSettledAs now = true :=
  Option.any_eq_true _ _

/-- Settled charges stay settled. -/
theorem settled_operate (agrees : platform.Agrees)
    (ordinary : platform.Ordinary (.operate operation asked)) (charge : row.type = .charge)
    (settled : platform.settled row = true) :
    (platform.operate settings operation asked).settled row = true := by
  obtain ⟨now, found, same⟩ := settled_iff.mp settled
  have sameId : now.id = row.id := platform.store.transactions.key_of_find? found
  have stored := platform.store.transactions.mem_of_find? found
  rw [settled_iff, ← sameId]
  rw [← sameId] at found
  rcases @find?_operate settings platform operation asked now agrees ordinary found with
    ⟨kept, _⟩ | ⟨unanswered, at', rfl, rewritten⟩
  · exact ⟨now, kept, same⟩
  · simp only [PaymentTransaction.isSettledAs, Bool.and_eq_true, decide_eq_true_eq] at same
    obtain ⟨⟨⟨status, _⟩, sameAmount⟩, sameType⟩ := same
    have records := agrees.recorded now stored (sameType.trans charge)
    have succeeded := @status_query settings platform asked now records (ordinary.2.1 rfl)
      (.inl status)
    exact ⟨_, rewritten, isSettledAs_settledRow succeeded sameAmount sameType⟩

/-- The query of a pending charge whose delay is over settles it. -/
theorem settled_of_query (agrees : platform.Agrees) {unanswered : GatewayResult} {now : Time}
    (ordinary : platform.Ordinary
      (.operate (.reconcileTransaction row.id unanswered now) asked))
    (found : platform.store.transactions.find? row.id = some row) (charge : row.type = .charge)
    (pending : [TransactionStatus.pending, .processing].contains row.status = true)
    (waited : row.updatedAt + settings.settlementDelay row.provider ≤ asked.now) :
    (platform.operate settings (.reconcileTransaction row.id unanswered now) asked).settled row =
      true := by
  have stored := platform.store.transactions.mem_of_find? found
  rcases @find?_operate settings platform _ asked row agrees ordinary found with
    ⟨_, other⟩ | ⟨_, _, same, rewritten⟩
  · exact absurd rfl (other unanswered now)
  · have succeeded := @status_query settings platform asked row
      (agrees.recorded row stored charge) (ordinary.2.1 rfl) (.inr ⟨pending, waited⟩)
    exact settled_iff.mpr ⟨_, rewritten, isSettledAs_settledRow succeeded rfl rfl⟩

theorem Since.operate (startAgrees : start.Agrees) (since : Since settings start platform)
    (ordinary : platform.Ordinary (.operate operation asked))
    (due : PlatformEvent.Due settings start.clock (.operate operation asked)) :
    Since settings start (platform.operate settings operation asked) := by
  refine ⟨since.agrees.operate ordinary, since.later.trans (clock_operate ordinary), ?_, ?_⟩
  · intro row member
    obtain ⟨started, charge, _, pending⟩ := pendingCharges_spec member
    rcases since.kept row member with found | settled
    · rcases @find?_operate settings platform operation asked row since.agrees ordinary found
        with ⟨kept, _⟩ | ⟨unanswered, now, rfl, _⟩
      · exact .inl kept
      · have written := (startAgrees.recorded row
          (start.store.transactions.mem_of_find? started) charge).1
        have waited := due.2 rfl row.provider
        exact .inr (settled_of_query since.agrees ordinary found charge pending (by linarith))
    · exact .inr (settled_operate since.agrees ordinary charge settled)
  · intro row member charge
    rcases charge_of_operate since.agrees ordinary charge member with older | written
    · exact since.fresh row older charge
    · have applied := ordinary.2.2.2 _ written
      have begun := due.1 (by rw [written]; rfl)
      exact .inr (by linarith [applied.2])

theorem since_self (agrees : platform.Agrees) : Since settings platform platform where
  agrees := agrees
  later := le_rfl
  kept _ member := .inl (pendingCharges_spec member).1
  fresh _ member _ := .inl member

/-- The queries of a cycle are late enough. -/
def Late (settings : PlatformSettings) (start : Platform) (times : Nat → QueryTimes) : Prop :=
  start.clock < (times 0).askedAt ∧
    ∀ provider, start.clock + settings.settlementDelay provider ≤ (times 0).askedAt

theorem Late.next {times : Nat → QueryTimes} {clock : Time} (late : Late settings start times)
    (inTurn : InTurn clock times) : Late settings start fun index => times (index + 1) := by
  obtain ⟨applied, afterwards⟩ := inTurn.2 0
  refine ⟨?_, fun provider => ?_⟩
  · exact late.1.trans_le (applied.trans afterwards)
  · exact (late.2 provider).trans (applied.trans afterwards)

/-- A cycle settles the pending charges it takes, and unsettles none. -/
theorem Since.reconcileEach (startAgrees : start.Agrees) (since : Since settings start platform)
    (transactionIds : List TransactionId) {times : Nat → QueryTimes}
    (inTurn : InTurn platform.clock times) (late : Late settings start times) :
    Since settings start (platform.reconcileEach settings transactionIds times) ∧
      ∀ row ∈ pendingCharges settings start,
        row.id ∈ transactionIds ∨ platform.settled row = true →
          (platform.reconcileEach settings transactionIds times).settled row = true := by
  induction transactionIds generalizing platform times with
  | nil =>
      refine ⟨since, fun row _ known => ?_⟩
      rcases known with listed | settled
      · cases listed
      · exact settled
  | cons transactionId rest inductionHypothesis =>
      have ordinary := @ordinary_query platform transactionId (times 0) inTurn.1 (inTurn.2 0).1
      have queried : Since settings start (platform.query settings transactionId (times 0)) :=
        since.operate startAgrees ordinary ⟨fun _ => late.1, fun _ => late.2⟩
      have nextTurn : InTurn (platform.query settings transactionId (times 0)).clock
          fun index => times (index + 1) := by
        rw [clock_query]
        exact inTurn.next
      obtain ⟨final, settles⟩ := inductionHypothesis queried nextTurn (late.next inTurn)
      refine ⟨final, fun row member known => settles row member ?_⟩
      obtain ⟨started, charge, _, pending⟩ := pendingCharges_spec member
      have persists : platform.settled row = true →
          (platform.query settings transactionId (times 0)).settled row = true :=
        fun settled => settled_operate since.agrees ordinary charge settled
      rcases known with listed | settled
      · rcases List.mem_cons.mp listed with rfl | later
        · right
          rcases since.kept row member with found | settled
          · have written := (startAgrees.recorded row
              (start.store.transactions.mem_of_find? started) charge).1
            have waited := late.2 row.provider
            exact settled_of_query since.agrees ordinary found charge pending (by linarith)
          · exact persists settled
        · exact .inl later
      · exact .inr (persists settled)

/-- The charges which were pending at the start and are not settled. -/
def unsettled (settings : PlatformSettings) (start platform : Platform) :
    List PaymentTransaction :=
  (pendingCharges settings start).filter fun row => !platform.settled row

theorem nodup_unsettled :
    ((unsettled settings start platform).map PaymentTransaction.id).Nodup := by
  have sublist : (unsettled settings start platform).Sublist start.store.transactions.rows :=
    List.filter_sublist.trans List.filter_sublist
  exact (sublist.map _).nodup start.store.transactions.distinct

theorem mem_unsettled : row ∈ unsettled settings start platform ↔
    row ∈ pendingCharges settings start ∧ platform.settled row = false := by
  rw [unsettled, List.mem_filter, Bool.not_eq_true']

/-- The row is one of those which were pending at the start. -/
def waits (settings : PlatformSettings) (start : Platform) (row : PaymentTransaction) : Bool :=
  (pendingCharges settings start).any fun older => older.id = row.id

/-- What a cycle finds of the start is what has not been settled. -/
theorem Since.mem_unsettled_of_waits (since : Since settings start platform)
    (stored : row ∈ platform.store.transactions)
    (pending : [TransactionStatus.pending, .processing].contains row.status = true)
    (waiting : waits settings start row = true) :
    row ∈ unsettled settings start platform := by
  obtain ⟨older, member, sameId⟩ := List.any_eq_true.mp waiting
  have sameId : older.id = row.id := of_decide_eq_true sameId
  have found : platform.store.transactions.find? older.id = some row :=
    (Table.find?_eq_some_iff _).mpr ⟨stored, sameId.symm⟩
  rcases since.kept older member with kept | settled
  · obtain rfl := Option.some.inj (kept.symm.trans found)
    refine mem_unsettled.mpr ⟨member, ?_⟩
    rw [Platform.settled, found, Option.any_some, PaymentTransaction.isSettledAs]
    cases status : older.status <;> rw [status] at pending <;> first | rfl | cases pending
  · obtain ⟨now, current, same⟩ := settled_iff.mp settled
    obtain rfl := Option.some.inj (current.symm.trans found)
    simp only [PaymentTransaction.isSettledAs, Bool.and_eq_true, decide_eq_true_eq] at same
    rw [same.1.1.1] at pending
    cases pending

section Cycle

variable {input : PendingReconciliationInput} {startedAt : Time}

/-- The stale charges which a cycle finds, oldest first. -/
def stale (settings : PlatformSettings) (platform : Platform)
    (input : PendingReconciliationInput) (startedAt : Time) : List PaymentTransaction :=
  stalePendingCharges settings.providers (startedAt - settings.minAge input) platform.store

theorem batch_eq : platform.batch settings input startedAt =
    (stale settings platform input startedAt).take (settings.limit input) := by
  rw [batch, stale, PlatformSettings.minAge, PlatformSettings.limit, PlatformSettings.providers]
  push_cast
  rfl

theorem mem_stale (member : row ∈ stale settings platform input startedAt) :
    row ∈ platform.store.transactions ∧ row.type = .charge ∧ row.provider ∈ settings.providers ∧
      [TransactionStatus.pending, .processing].contains row.status = true := by
  obtain ⟨stored, accepted⟩ := mem_stalePendingCharges.mp member
  simp only [PaymentTransaction.isStalePending, Bool.and_eq_true, decide_eq_true_eq] at accepted
  exact ⟨stored, accepted.1.1.1, List.contains_iff_mem.mp accepted.1.1.2, accepted.1.2⟩

/-- What is not settled is old enough for a cycle which is due. -/
theorem Since.mem_stale_of_unsettled (startAgrees : start.Agrees)
    (since : Since settings start platform)
    (aged : start.clock + settings.minAge input ≤ startedAt)
    (member : row ∈ unsettled settings start platform) :
    row ∈ stale settings platform input startedAt := by
  obtain ⟨pendingRow, unsettledRow⟩ := mem_unsettled.mp member
  obtain ⟨started, charge, provider, pending⟩ := pendingCharges_spec pendingRow
  have written := (startAgrees.recorded row
    (start.store.transactions.mem_of_find? started) charge).1
  rcases since.kept row pendingRow with found | settled
  · refine mem_stalePendingCharges.mpr ⟨platform.store.transactions.mem_of_find? found, ?_⟩
    simp only [PaymentTransaction.isStalePending, Bool.and_eq_true, decide_eq_true_eq]
    exact ⟨⟨⟨charge, List.contains_iff_mem.mpr provider⟩, pending⟩, by linarith⟩
  · rw [settled] at unsettledRow
    cases unsettledRow

/-- They were written before everything else that a cycle finds. -/
theorem Since.oldest (startAgrees : start.Agrees) (since : Since settings start platform)
    {older newer : PaymentTransaction}
    (waiting : older ∈ unsettled settings start platform)
    (found : newer ∈ stale settings platform input startedAt)
    (other : waits settings start newer = false) : older.stamp < newer.stamp := by
  obtain ⟨stored, charge, provider, pending⟩ := mem_stale found
  obtain ⟨started, olderCharge, _, _⟩ := pendingCharges_spec (mem_unsettled.mp waiting).1
  have written := (startAgrees.recorded older
    (start.store.transactions.mem_of_find? started) olderCharge).1
  rcases since.fresh newer stored charge with present | since
  · have listed : newer ∈ pendingCharges settings start := by
      refine List.mem_filter.mpr ⟨present, ?_⟩
      simp only [PaymentTransaction.isPendingCharge, Bool.and_eq_true, decide_eq_true_eq]
      exact ⟨⟨charge, List.contains_iff_mem.mpr provider⟩, pending⟩
    have waitsToo : waits settings start newer = true :=
      List.any_eq_true.mpr ⟨newer, listed, decide_eq_true rfl⟩
    rw [waitsToo] at other
    cases other
  · exact Prod.Lex.toLex_lt_toLex.mpr (.inl (written.trans_lt since))

/-- Rows with different identifiers which all occur among others are no more than these. -/
theorem length_le_of_ids {rows others : List PaymentTransaction}
    (distinct : (rows.map PaymentTransaction.id).Nodup) (within : rows ⊆ others) :
    rows.length ≤ others.length :=
  (List.Nodup.of_map _ distinct).subperm within |>.length_le

/-- A cycle takes as many of the unsettled charges as it has room for. -/
theorem Since.length_unsettled (startAgrees : start.Agrees)
    (since : Since settings start platform) {times : Nat → QueryTimes}
    (ordinary : platform.Ordinary (.reconcilePending input startedAt times))
    (due : PlatformEvent.Due settings start.clock (.reconcilePending input startedAt times)) :
    let after := (platformMachine settings).step platform (.reconcilePending input startedAt times)
    Since settings start after ∧
      (unsettled settings start after).length ≤
        (unsettled settings start platform).length - settings.limit input := by
  intro after
  obtain ⟨notBefore, first, each⟩ := ordinary
  obtain ⟨begun, aged, waited⟩ := due
  have late : Late settings start times :=
    ⟨begun.trans_le first, fun provider => (waited provider).trans first⟩
  obtain ⟨final, settles⟩ := since.reconcileEach startAgrees
    ((platform.batch settings input startedAt).map PaymentTransaction.id)
    ⟨notBefore.trans first, each⟩ late
  refine ⟨final, ?_⟩
  have sorted : (stale settings platform input startedAt).Pairwise
      fun left right => left.stamp ≤ right.stamp := pairwise_stalePendingCharges
  have counted := @countP_drop_of_oldest _ _ _ PaymentTransaction.stamp
    (waits settings start) _ sorted (fun older member waiting newer found other =>
      since.oldest startAgrees (since.mem_unsettled_of_waits (mem_stale member).1
        (mem_stale member).2.2.2 waiting) found other) (settings.limit input)
  -- what is left was left by the batch as well
  have left : unsettled settings start after ⊆
      ((stale settings platform input startedAt).drop (settings.limit input)).filter
        (waits settings start) := by
    intro row member
    obtain ⟨pendingRow, unsettledRow⟩ := mem_unsettled.mp member
    have before : row ∈ unsettled settings start platform := by
      refine mem_unsettled.mpr ⟨pendingRow, ?_⟩
      by_contra settled
      have still := settles row pendingRow (.inr (Bool.not_eq_false _ ▸ settled))
      exact Bool.false_ne_true (unsettledRow.symm.trans still)
    have waiting : waits settings start row = true :=
      List.any_eq_true.mpr ⟨row, pendingRow, decide_eq_true rfl⟩
    refine List.mem_filter.mpr ⟨?_, waiting⟩
    have found := since.mem_stale_of_unsettled startAgrees aged before
    rw [← List.take_append_drop (settings.limit input)
      (stale settings platform input startedAt)] at found
    rcases List.mem_append.mp found with taken | dropped
    · have still := settles row pendingRow
        (.inl (List.mem_map_of_mem (batch_eq ▸ taken)))
      exact absurd (unsettledRow.symm.trans still) Bool.false_ne_true
    · exact dropped
  have all : (stale settings platform input startedAt).filter (waits settings start) ⊆
      unsettled settings start platform := by
    intro row member
    obtain ⟨found, waiting⟩ := List.mem_filter.mp member
    exact since.mem_unsettled_of_waits (mem_stale found).1 (mem_stale found).2.2.2 waiting
  have distinct : (((stale settings platform input startedAt).filter
      (waits settings start)).map PaymentTransaction.id).Nodup :=
    (List.filter_sublist.map _).nodup nodup_stalePendingCharges
  have fewer := length_le_of_ids nodup_unsettled left
  have within := length_le_of_ids distinct all
  rw [← List.countP_eq_length_filter] at fewer within
  omega

end Cycle

theorem Since.step (startAgrees : start.Agrees) (since : Since settings start platform)
    {event : PlatformEvent} (ordinary : platform.Ordinary event)
    (due : event.Due settings start.clock) :
    Since settings start ((platformMachine settings).step platform event) ∧
      (unsettled settings start ((platformMachine settings).step platform event)).length ≤
        (unsettled settings start platform).length - event.capacity settings := by
  cases event with
  | operate operation asked =>
      refine ⟨since.operate startAgrees ordinary due, ?_⟩
      change (unsettled settings start (platform.operate settings operation asked)).length ≤
        (unsettled settings start platform).length - 0
      rw [unsettled, unsettled, ← List.countP_eq_length_filter, ← List.countP_eq_length_filter]
      refine List.countP_mono_left fun row member left => ?_
      obtain ⟨_, charge, _, _⟩ := pendingCharges_spec member
      cases before : platform.settled row with
      | false =>
          rfl
      | true =>
          rw [settled_operate since.agrees ordinary charge before] at left
          cases left
  | reconcilePending input startedAt times =>
      exact since.length_unsettled startAgrees ordinary due
  | restart =>
      exact ordinary.elim

/-- Over a run, the cycles settle as many as they have room for. -/
theorem Since.run (startAgrees : start.Agrees) (since : Since settings start platform)
    {events : List PlatformEvent}
    (ordinary : (platformMachine settings).Along Platform.Ordinary platform events)
    (due : ∀ event ∈ events, event.Due settings start.clock) :
    Since settings start ((platformMachine settings).run platform events) ∧
      (unsettled settings start ((platformMachine settings).run platform events)).length ≤
        (unsettled settings start platform).length -
          (events.map (PlatformEvent.capacity settings)).sum := by
  induction events generalizing platform with
  | nil =>
      exact ⟨since, le_rfl⟩
  | cons event rest inductionHypothesis =>
      obtain ⟨ordinaryEvent, ordinaryRest⟩ := ordinary
      obtain ⟨stepped, fewer⟩ := since.step startAgrees ordinaryEvent (due event List.mem_cons_self)
      obtain ⟨final, counted⟩ := inductionHypothesis stepped ordinaryRest
        fun later member => due later (List.mem_cons_of_mem _ member)
      refine ⟨final, ?_⟩
      rw [List.map_cons, List.sum_cons, Machine.run_cons]
      omega

end Platform

/-- Reconciliation settles what is pending: once the settlement delays are over, cycles with
room for all charges which were pending have made each of them a success, whatever else is
done in between.  What a cycle leaves in the store is what the service leaves there, with the
answers of the adapters. -/
theorem pending_charges_settle (settings : PlatformSettings) (market : Marketplace)
    (clock : Time) (past future : List PlatformEvent)
    (ordinary : (platformMachine settings).Along Platform.Ordinary
      (Platform.initial market clock) (past ++ future))
    (due : ∀ event ∈ future, event.Due settings
      ((platformMachine settings).run (Platform.initial market clock) past).clock)
    (room : (pendingCharges settings ((platformMachine settings).run
        (Platform.initial market clock) past)).length ≤
      (future.map (PlatformEvent.capacity settings)).sum) :
    (∀ row ∈ pendingCharges settings
        ((platformMachine settings).run (Platform.initial market clock) past),
      ∃ now, ((platformMachine settings).run (Platform.initial market clock)
          (past ++ future)).store.transactions.find? row.id = some now ∧
        now.status = .succeeded ∧ now.confirmedAmount = some row.requestedAmount) ∧
    ∀ (platform : Platform) input startedAt times, ∃ turns,
      ((platformMachine settings).step platform (.reconcilePending input startedAt times)).store =
        (reconcilePendingChargeTransactions settings.reconciliation input startedAt turns
          platform.store).state := by
  refine ⟨fun row member => ?_, Platform.store_reconcilePending⟩
  obtain ⟨before, afterwards⟩ := (Machine.along_append _ _ _ _ _).mp ordinary
  have agrees : ((platformMachine settings).run (Platform.initial market clock) past).Agrees :=
    @Machine.run_invariant _ _ (platformMachine settings) Platform.Agrees Platform.Ordinary
      (fun _ _ agrees ordinary => agrees.step ordinary) _ (Platform.agrees_initial market clock)
      _ before
  obtain ⟨_, counted⟩ := Platform.Since.run agrees (Platform.since_self agrees) afterwards due
  rw [Machine.run_append]
  have most : (Platform.unsettled settings
      ((platformMachine settings).run (Platform.initial market clock) past)
      ((platformMachine settings).run (Platform.initial market clock) past)).length ≤
      (pendingCharges settings
        ((platformMachine settings).run (Platform.initial market clock) past)).length :=
    List.length_filter_le _ _
  have none := List.length_eq_zero_iff.mp (Nat.le_zero.mp (by omega :
    (Platform.unsettled settings
      ((platformMachine settings).run (Platform.initial market clock) past)
      ((platformMachine settings).run ((platformMachine settings).run
        (Platform.initial market clock) past) future)).length ≤ 0))
  have settled : ((platformMachine settings).run ((platformMachine settings).run
      (Platform.initial market clock) past) future).settled row = true := by
    by_contra unsettledRow
    have listed := Platform.mem_unsettled.mpr ⟨member, Bool.eq_false_iff.mpr unsettledRow⟩
    rw [none] at listed
    cases listed
  obtain ⟨now, found, same⟩ := Platform.settled_iff.mp settled
  simp only [PaymentTransaction.isSettledAs, Bool.and_eq_true, decide_eq_true_eq] at same
  exact ⟨now, found, same.1.1.1, same.1.1.2⟩

section Sample

theorem sampleAttempts_settled :
    (pendingCharges samplePlatformSettings ((platformMachine samplePlatformSettings).run
        (Platform.initial sampleMarketplace 0) sampleAttempts)).length = 2 ∧
    ∀ row ∈ pendingCharges samplePlatformSettings ((platformMachine samplePlatformSettings).run
        (Platform.initial sampleMarketplace 0) sampleAttempts),
      ∃ now, ((platformMachine samplePlatformSettings).run (Platform.initial sampleMarketplace 0)
          (sampleAttempts ++ [sampleCycle])).store.transactions.find? row.id = some now ∧
        now.status = .succeeded ∧ now.confirmedAmount = some row.requestedAmount :=
  ⟨by decide +kernel,
    (pending_charges_settle samplePlatformSettings sampleMarketplace 0 sampleAttempts [sampleCycle]
      sampleAttempts_ordinary
      (List.forall_mem_singleton.mpr ⟨by decide +kernel, by decide +kernel, fun provider => by
        cases provider <;> decide +kernel⟩)
      (by decide +kernel)).1⟩

end Sample

end Tchuno.Payments
