import Mathlib.Data.List.Sort
import Tchuno.Payments.Consistency

/-!
# Reconciliation of pending charges

`reconcilePendingChargeTransactions`: the stale pending charges, those written longest ago
first, are queried one by one.  What the gateway replies, or that it throws, is an input of
each query, as is the time at which the reply is applied.
-/

namespace Tchuno.Payments

open Tchuno.Library Tchuno.Library.Ecma

/-! ## The configuration -/

structure ReconciliationEnvironment where
  batchSize : EnvNumber
  minAgeMinutes : EnvNumber
  providers : Option String

def resolvePendingReconciliationLimit (parsed override : EnvNumber) : Nat :=
  match override, parsed with
  | some value, _ => (min 500 (max 1 (mathTrunc value))).toNat
  | none, some value => (min 500 (max 1 (mathTrunc value))).toNat
  | none, none => 50

def resolvePendingReconciliationMinAgeMinutes (parsed override : EnvNumber) : Nat :=
  match override, parsed with
  | some value, _ => (min (24 * 60) (max 0 (mathTrunc value))).toNat
  | none, some value => (min (24 * 60) (max 0 (mathTrunc value))).toNat
  | none, none => 1

def resolvePendingReconciliationProviders (configured : Option String) : List PaymentProvider :=
  let raw := (configured.map trim).getD "MPESA,EMOLA"
  let candidates := ((raw.toList.splitOn ',').map fun item =>
    toUpperCase (trim (String.ofList item))).filter fun item => item ≠ ""
  if candidates = [] then [.mpesa, .emola]
  else
    let resolved := (candidates.filterMap fun item =>
      [PaymentProvider.internal, .mpesa, .emola, .mkesh, .bankTransfer, .manual].find?
        fun provider => provider.name == item).filter fun provider => provider ≠ .internal
    if resolved = [] then [.mpesa, .emola] else resolved

theorem resolvePendingReconciliationLimit_pos (parsed override : EnvNumber) :
    0 < resolvePendingReconciliationLimit parsed override := by
  unfold resolvePendingReconciliationLimit
  split <;> omega

/-! ## The selection -/

/-- The filter of `reconcilePendingChargeTransactions`. -/
def PaymentTransaction.isStalePending (providers : List PaymentProvider) (staleBefore : Time)
    (row : PaymentTransaction) : Bool :=
  row.type = .charge && providers.contains row.provider &&
    [.pending, .processing].contains row.status && row.updatedAt ≤ staleBefore

/-- `updatedAt`, then `id`. -/
def PaymentTransaction.stamp (row : PaymentTransaction) : Time ×ₗ TransactionId :=
  toLex (row.updatedAt, row.id)

def stalePendingCharges (providers : List PaymentProvider) (staleBefore : Time)
    (store : Store) : List PaymentTransaction :=
  (store.transactions.findMany (PaymentTransaction.isStalePending providers staleBefore)
    ).insertionSort fun left right => left.stamp ≤ right.stamp

/-! ## One query -/

/-- What `queryTransactionStatus` does; `threw` carries the message of an `Error`. -/
inductive GatewayReply where
  | answered (answer : GatewayResult)
  | threw (message : Option String)

structure QueryTurn where
  reply : GatewayReply
  appliedAt : Time

/-- What reaches the `catch` of the loop. -/
inductive ReconciliationFailure where
  | api (error : ApiError)
  | gateway (message : Option String)

/-- `error instanceof Error ? error.message : 'unknown_reconcile_error'`.  The text Prisma
writes for one of its codes is not reproduced: the code stands for it. -/
def ReconciliationFailure.message : ReconciliationFailure → String
  | .api (.notFound message) => message
  | .api (.forbidden message) => message
  | .api (.conflict message) => message
  | .api (.badRequest message) => message
  | .api (.database code) => code
  | .gateway message => message.getD "unknown_reconcile_error"

/-- `reconcileTransaction` when its query throws: the transaction is read and the gateway
asked, and nothing is written. -/
def reconcileTransactionUnanswered (transactionId : TransactionId) (message : Option String) :
    Action Store GatewayCall ReconciliationFailure PaymentTransaction := do
  let transaction ← .mapError .api <| .consult fun store =>
    orThrow (store.transactions.find? transactionId)
      (.notFound "Payment transaction not found")
  .call (.queryTransactionStatus (getAdapter transaction.provider)
    (transaction.providerReference.getD (renderId transaction.id)))
  .fail (.gateway message)

def reconcileTransactionTurn (transactionId : TransactionId) (turn : QueryTurn) :
    Action Store GatewayCall ReconciliationFailure PaymentTransaction :=
  match turn.reply with
  | .answered answer =>
      .mapError .api (reconcileTransaction transactionId answer turn.appliedAt)
  | .threw message => reconcileTransactionUnanswered transactionId message

/-! ## The loop -/

inductive ReconciliationSource where
  | automatic | manual
  deriving DecidableEq

structure ReconciliationError where
  transactionId : TransactionId
  reason : String
  deriving DecidableEq

structure PendingReconciliationSummary where
  source : ReconciliationSource
  scanned : Nat
  reconciled : Nat
  succeeded : Nat
  failed : Nat
  reversed : Nat
  stillPending : Nat
  errors : List ReconciliationError
  deriving DecidableEq

/-- One round of the loop, after `reconcileTransaction` has returned or thrown. -/
def PendingReconciliationSummary.record (summary : PendingReconciliationSummary)
    (transactionId : TransactionId) :
    Except ReconciliationFailure PaymentTransaction → PendingReconciliationSummary
  | .error failure =>
      { summary with errors := summary.errors ++ [⟨transactionId, failure.message⟩] }
  | .ok updated =>
      let summary := { summary with reconciled := summary.reconciled + 1 }
      if updated.status = .succeeded then
        { summary with succeeded := summary.succeeded + 1 }
      else if updated.status = .failed then
        { summary with failed := summary.failed + 1 }
      else if updated.status = .reversed then
        { summary with reversed := summary.reversed + 1 }
      else
        { summary with stillPending := summary.stillPending + 1 }

def reconcileEach : List TransactionId → (Nat → QueryTurn) → PendingReconciliationSummary →
    Service PendingReconciliationSummary
  | [], _, summary => pure summary
  | transactionId :: rest, turns, summary => do
      let outcome ← .attempt (reconcileTransactionTurn transactionId (turns 0))
      reconcileEach rest (fun index => turns (index + 1)) (summary.record transactionId outcome)

structure PendingReconciliationInput where
  source : Option ReconciliationSource
  limit : EnvNumber
  minAgeMinutes : EnvNumber

/-- `now` is the clock at the start, `turns` are the queries in the order of the loop. -/
def reconcilePendingChargeTransactions (environment : ReconciliationEnvironment)
    (input : PendingReconciliationInput) (now : Time) (turns : Nat → QueryTurn) :
    Service PendingReconciliationSummary := do
  let limit := resolvePendingReconciliationLimit environment.batchSize input.limit
  let minAgeMinutes :=
    resolvePendingReconciliationMinAgeMinutes environment.minAgeMinutes input.minAgeMinutes
  let staleBefore := now - minAgeMinutes * 60000
  let providers := resolvePendingReconciliationProviders environment.providers
  let transactions ← .inspect fun store =>
    (stalePendingCharges providers staleBefore store).take limit
  reconcileEach (transactions.map PaymentTransaction.id) turns
    { source := input.source.getD .manual
      scanned := transactions.length
      reconciled := 0
      succeeded := 0
      failed := 0
      reversed := 0
      stillPending := 0
      errors := [] }

/-! ## The counters -/

/-- The counters of a summary account for `scanned` queries. -/
def PendingReconciliationSummary.Accounts (summary : PendingReconciliationSummary)
    (queries : Nat) : Prop :=
  summary.reconciled =
      summary.succeeded + summary.failed + summary.reversed + summary.stillPending ∧
    queries = summary.reconciled + summary.errors.length

theorem PendingReconciliationSummary.Accounts.record {summary : PendingReconciliationSummary}
    {queries : Nat} (accounts : summary.Accounts queries) (transactionId : TransactionId)
    (outcome : Except ReconciliationFailure PaymentTransaction) :
    (summary.record transactionId outcome).Accounts (queries + 1) := by
  obtain ⟨statuses, answered⟩ := accounts
  cases outcome with
  | error failure =>
      constructor
      · exact statuses
      · simp only [PendingReconciliationSummary.record, List.length_append, List.length_cons,
          List.length_nil]
        omega
  | ok updated =>
      simp only [PendingReconciliationSummary.record]
      split_ifs <;> constructor <;> dsimp only <;> omega

@[simp]
theorem PendingReconciliationSummary.scanned_record (summary : PendingReconciliationSummary)
    (transactionId : TransactionId)
    (outcome : Except ReconciliationFailure PaymentTransaction) :
    (summary.record transactionId outcome).scanned = summary.scanned := by
  cases outcome with
  | error failure =>
      rfl
  | ok updated =>
      simp only [PendingReconciliationSummary.record]
      split_ifs <;> rfl

/-- The loop returns, and counts every query once. -/
theorem reconcileEach_accounts (transactionIds : List TransactionId) (turns : Nat → QueryTurn)
    {summary : PendingReconciliationSummary} {queries : Nat}
    (accounts : summary.Accounts queries) (store : Store) :
    ∃ final, (reconcileEach transactionIds turns summary store).result = .ok final ∧
      final.scanned = summary.scanned ∧
      final.Accounts (queries + transactionIds.length) := by
  induction transactionIds generalizing turns summary queries store with
  | nil =>
      exact ⟨summary, rfl, rfl, accounts⟩
  | cons transactionId rest inductionHypothesis =>
      rw [reconcileEach, Action.attempt_bind_apply, Outcome.after_result]
      obtain ⟨final, returned, scanned, counted⟩ := inductionHypothesis
        (fun index => turns (index + 1))
        (accounts.record transactionId
          (reconcileTransactionTurn transactionId (turns 0) store).result)
        (reconcileTransactionTurn transactionId (turns 0) store).state
      refine ⟨final, returned, by rw [scanned, PendingReconciliationSummary.scanned_record], ?_⟩
      rw [List.length_cons, Nat.add_comm rest.length, ← Nat.add_assoc]
      exact counted

/-- The summary of a run balances, whatever the gateway replies. -/
theorem reconcilePendingChargeTransactions_accounts (environment : ReconciliationEnvironment)
    (input : PendingReconciliationInput) (now : Time) (turns : Nat → QueryTurn)
    (store : Store) :
    ∃ summary,
      (reconcilePendingChargeTransactions environment input now turns store).result =
        .ok summary ∧
      summary.Accounts summary.scanned := by
  unfold reconcilePendingChargeTransactions
  rw [Action.inspect_bind_apply]
  generalize (stalePendingCharges _ _ store).take _ = transactions
  obtain ⟨final, returned, scanned, counted⟩ := @reconcileEach_accounts
    (transactions.map PaymentTransaction.id) turns
    ⟨input.source.getD .manual, transactions.length, 0, 0, 0, 0, 0, []⟩ 0 ⟨rfl, rfl⟩ store
  refine ⟨final, returned, ?_⟩
  rw [scanned]
  simpa using counted

/-! ## What a run writes -/

/-- What a query makes of the row it is for. -/
def QueryTurn.applyTo (turn : QueryTurn) (row : PaymentTransaction) : PaymentTransaction :=
  match turn.reply with
  | .answered answer =>
      settledRow row answer.status answer.rawPayload answer.reason turn.appliedAt row
  | .threw _ => row

theorem reconcileTransactionUnanswered_state (transactionId : TransactionId)
    (message : Option String) (store : Store) :
    (reconcileTransactionUnanswered transactionId message store).state = store := by
  unfold reconcileTransactionUnanswered
  cases found : store.transactions.find? transactionId with
  | none =>
      rw [Action.bind_of_error (by simp only [Action.mapError, Action.consult, found]; rfl)]
  | some transaction =>
      rw [Action.bind_of_ok (by simp only [Action.mapError, Action.consult, found]; rfl)]
      rfl

/-- One query rewrites its row and no other transaction. -/
theorem reconcileTransactionTurn_writes {store : Store} (foreignKeys : store.ForeignKeys)
    (transactionId : TransactionId) (turn : QueryTurn) :
    (reconcileTransactionTurn transactionId turn store).state.ForeignKeys ∧
      ∀ id, (reconcileTransactionTurn transactionId turn store).state.transactions.find? id =
        if id = transactionId then (store.transactions.find? id).map turn.applyTo
        else store.transactions.find? id := by
  cases replied : turn.reply with
  | threw message =>
      have unwritten : (reconcileTransactionTurn transactionId turn store).state = store := by
        simp only [reconcileTransactionTurn, replied, reconcileTransactionUnanswered_state]
      have same : turn.applyTo = fun row => row := by
        funext row
        simp only [QueryTurn.applyTo, replied]
      rw [unwritten, same]
      simp [foreignKeys]
  | answered answer =>
      have written : (reconcileTransactionTurn transactionId turn store).state =
          (reconcileTransaction transactionId answer turn.appliedAt store).state := by
        simp only [reconcileTransactionTurn, replied, Action.mapError_state]
      have books := reconcileTransaction_books foreignKeys transactionId answer turn.appliedAt
      rw [written]
      change Books.ForeignKeys (Store.toBooks _) ∧ ∀ id, (Store.toBooks _).transactions.find? id = _
      rw [books]
      cases found : store.transactions.find? transactionId with
      | none =>
          have unreported : reconciliationReport? store transactionId answer turn.appliedAt =
              none := by
            rw [reconciliationReport?, found, Option.map_none]
          rw [unreported]
          refine ⟨foreignKeys, fun id => ?_⟩
          by_cases same : id = transactionId
          · rw [if_pos same, same, found]
            exact found
          · rw [if_neg same]
            rfl
      | some transaction =>
          have reported : reconciliationReport? store transactionId answer turn.appliedAt =
              some ⟨transaction, answer.status, answer.rawPayload, answer.reason,
                turn.appliedAt⟩ := by
            rw [reconciliationReport?, found, Option.map_some]
          have sameId : transaction.id = transactionId := store.transactions.key_of_find? found
          rw [reported]
          refine ⟨Movement.foreignKeys_apply foreignKeys
            (store.transactions.find?_key found), fun other => ?_⟩
          change (store.transactions.update transaction.id (settledRow transaction answer.status
            answer.rawPayload answer.reason turn.appliedAt)).find? other = _
          rw [Table.find?_update, sameId]
          by_cases same : other = transactionId
          · rw [if_pos same, if_pos same, same, found, Option.map_some, Option.map_some,
              QueryTurn.applyTo, replied]
          · rw [if_neg same, if_neg same]

/-- The queries of a run, one for each transaction of its batch: each writes its row. -/
theorem reconcileEach_writes {store : Store} (foreignKeys : store.ForeignKeys)
    {transactionIds : List TransactionId} (distinct : transactionIds.Nodup)
    (turns : Nat → QueryTurn) (summary : PendingReconciliationSummary) :
    (reconcileEach transactionIds turns summary store).state.ForeignKeys ∧
      (∀ id, id ∉ transactionIds →
        (reconcileEach transactionIds turns summary store).state.transactions.find? id =
          store.transactions.find? id) ∧
      ∀ index (inside : index < transactionIds.length),
        (reconcileEach transactionIds turns summary store).state.transactions.find?
            transactionIds[index] =
          (store.transactions.find? transactionIds[index]).map (turns index).applyTo := by
  induction transactionIds generalizing turns summary store with
  | nil =>
      exact ⟨foreignKeys, fun _ _ => rfl, fun index inside => absurd inside (Nat.not_lt_zero _)⟩
  | cons transactionId rest inductionHypothesis =>
      obtain ⟨fresh, distinctRest⟩ := List.nodup_cons.mp distinct
      obtain ⟨keys, written⟩ := reconcileTransactionTurn_writes foreignKeys transactionId (turns 0)
      obtain ⟨finalKeys, others, each⟩ := inductionHypothesis keys distinctRest
        (fun index => turns (index + 1))
        (summary.record transactionId
          (reconcileTransactionTurn transactionId (turns 0) store).result)
      rw [reconcileEach, Action.attempt_bind_apply, Outcome.after_state]
      refine ⟨finalKeys, ?_, ?_⟩
      · intro id absent
        have different : id ≠ transactionId := fun same => absent (same ▸ List.mem_cons_self)
        rw [others id fun member => absent (List.mem_cons_of_mem _ member), written,
          if_neg different]
      · intro index inside
        cases index with
        | zero =>
            rw [List.getElem_cons_zero, others transactionId fresh, written, if_pos rfl]
        | succ index =>
            have shorter : index < rest.length := Nat.lt_of_succ_lt_succ inside
            have different : rest[index] ≠ transactionId :=
              fun same => fresh (same ▸ List.getElem_mem shorter)
            rw [List.getElem_cons_succ, each, written, if_neg different]

end Tchuno.Payments
