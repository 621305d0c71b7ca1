import Tchuno.Library.Emissions
import Tchuno.Payments.Refinement
import Tchuno.Payments.SimulatedGateway

/-!
# The services and the adapters together

Operations take the answer of the gateway as an input.  Here the adapters give it: a
platform is a store with the memory of the adapters, and an operation which calls a gateway
gets the answer of its adapter, which remembers the call even where the operation fails.
-/

namespace Tchuno.Payments

open Tchuno.Library Tchuno.Library.Ecma

/-! ## Operations with the answers of the adapters -/

/-- The operation with this answer in place of its own. -/
def Operation.answered (answer : GatewayResult) : Operation → Operation
  | .payIntent intentId actorUserId dto _ now =>
      .payIntent intentId actorUserId dto answer now
  | .reconcileTransaction transactionId _ now => .reconcileTransaction transactionId answer now
  | .adminApproveRefund actorUserId refundRequestId decisionNote _ now =>
      .adminApproveRefund actorUserId refundRequestId decisionNote answer now
  | .adminCreateRefund actorUserId dto _ now => .adminCreateRefund actorUserId dto answer now
  | .adminProcessPayout actorUserId payoutId dto _ now =>
      .adminProcessPayout actorUserId payoutId dto answer now
  | operation => operation

/-- The calls of the gateways; the other services have none. -/
def Operation.calls (store : Store) : Operation → List GatewayCall
  | .payIntent intentId actorUserId dto answer now =>
      (Payments.payIntent intentId actorUserId dto answer now store).calls
  | .reconcileTransaction transactionId answer now =>
      (Payments.reconcileTransaction transactionId answer now store).calls
  | .adminApproveRefund actorUserId refundRequestId decisionNote answer now =>
      (Payments.adminApproveRefund actorUserId refundRequestId decisionNote answer now
        store).calls
  | .adminCreateRefund actorUserId dto answer now =>
      (Payments.adminCreateRefund actorUserId dto answer now store).calls
  | .adminProcessPayout actorUserId payoutId dto answer now =>
      (Payments.adminProcessPayout actorUserId payoutId dto answer now store).calls
  | _ => []

/-- When the answer of a gateway is written. -/
def Operation.appliedAt? : Operation → Option Time
  | .payIntent _ _ _ _ now => some now
  | .reconcileTransaction _ _ now => some now
  | .adminApproveRefund _ _ _ _ now => some now
  | .adminCreateRefund _ _ _ now => some now
  | .adminProcessPayout _ _ _ _ now => some now
  | .handleWebhook _ _ _ _ now => some now
  | _ => none

def Operation.isWebhook : Operation → Bool
  | .handleWebhook .. => true
  | _ => false

def Operation.isQuery : Operation → Bool
  | .reconcileTransaction .. => true
  | _ => false

/-! ## The platform -/

structure PlatformSettings where
  gateways : GatewayEnvironment
  reconciliation : ReconciliationEnvironment

/-- `clock` is the moment of the latest answer which was written; nothing reads it. -/
structure Platform where
  store : Store
  gateways : Gateways
  clock : Time

/-- When one query of a cycle is made, and when its answer is written. -/
structure QueryTimes where
  askedAt : Time
  appliedAt : Time

/-- The answer an operation carries is replaced where a gateway is asked. -/
inductive PlatformEvent where
  | operate (operation : Operation) (asked : Asked)
  | reconcilePending (input : PendingReconciliationInput) (startedAt : Time)
      (times : Nat → QueryTimes)
  | restart

namespace Platform

variable (settings : PlatformSettings)

def operate (platform : Platform) (operation : Operation) (asked : Asked) : Platform :=
  match operation.calls platform.store with
  | [] =>
      { platform with
        store := operation.perform platform.store
        clock := operation.appliedAt?.getD platform.clock }
  | call :: _ =>
      let (answer, gateways) := platform.gateways.answer settings.gateways asked call
      { store := (operation.answered answer).perform platform.store
        gateways := gateways
        clock := operation.appliedAt?.getD platform.clock }

/-- No answer yet. -/
def unanswered : GatewayResult := ⟨.pending, "", none, none, none⟩

/-- One round of the loop: `reconcileTransaction(transaction.id)`, without a DTO. -/
def query (platform : Platform) (transactionId : TransactionId) (times : QueryTimes) :
    Platform :=
  platform.operate settings (.reconcileTransaction transactionId unanswered times.appliedAt)
    ⟨none, "", times.askedAt⟩

def reconcileEach (platform : Platform) : List TransactionId → (Nat → QueryTimes) → Platform
  | [], _ => platform
  | transactionId :: rest, times =>
      (platform.query settings transactionId (times 0)).reconcileEach rest
        fun index => times (index + 1)

/-- The transactions which `reconcilePendingChargeTransactions` takes. -/
def batch (platform : Platform) (input : PendingReconciliationInput) (startedAt : Time) :
    List PaymentTransaction :=
  let minAgeMinutes := resolvePendingReconciliationMinAgeMinutes
    settings.reconciliation.minAgeMinutes input.minAgeMinutes
  (stalePendingCharges (resolvePendingReconciliationProviders settings.reconciliation.providers)
    (startedAt - minAgeMinutes * 60000) platform.store).take
      (resolvePendingReconciliationLimit settings.reconciliation.batchSize input.limit)

def step (platform : Platform) : PlatformEvent → Platform
  | .operate operation asked => platform.operate settings operation asked
  | .reconcilePending input startedAt times =>
      platform.reconcileEach settings
        ((platform.batch settings input startedAt).map PaymentTransaction.id) times
  | .restart => { platform with gateways := .started }

/-- A process which has just started, before the first selection. -/
def initial (market : Marketplace) (clock : Time) : Platform :=
  ⟨Store.initial market, .started, clock⟩

end Platform

def platformMachine (settings : PlatformSettings) : Machine Platform PlatformEvent where
  step := Platform.step settings

/-! ## The memory of the adapters -/

/-- What the adapter of the provider knows of a reference. -/
def Gateways.lookup (gateways : Gateways) (provider : PaymentProvider) (reference : String) :
    Option StoredOperation :=
  (gateways.operations? provider).bind fun operations => operations reference

def PaymentProvider.isSimulated : PaymentProvider → Bool
  | .mpesa => true
  | .emola => true
  | _ => false

/-- The reference which a request draws. -/
def GatewayCall.drawn? (uuid : String) : GatewayCall → Option (PaymentProvider × String)
  | .requestCharge adapter .. =>
      some (adapter, SimulatedExternalGateway.createProviderReference adapter .charge uuid)
  | .requestRefund adapter .. =>
      some (adapter, SimulatedExternalGateway.createProviderReference adapter .refund uuid)
  | .requestPayout adapter .. =>
      some (adapter, SimulatedExternalGateway.createProviderReference adapter .payout uuid)
  | .queryTransactionStatus .. => none

/-- The call asks the gateway to move money. -/
def GatewayCall.IsRequest (call : GatewayCall) : Prop :=
  call.moneyKey?.isSome

section Memory

variable {gateways : Gateways} {environment : GatewayEnvironment} {asked : Asked}

theorem Gateways.operations?_eq_none {provider : PaymentProvider} :
    gateways.operations? provider = none ↔ provider.isSimulated = false := by
  cases provider <;> simp [Gateways.operations?, PaymentProvider.isSimulated]

theorem getAdapter_of_isSimulated {provider : PaymentProvider}
    (simulated : provider.isSimulated = true) : getAdapter provider = provider := by
  cases provider <;> first | rfl | cases simulated

theorem isSimulated_getAdapter (provider : PaymentProvider) :
    (getAdapter provider).isSimulated = provider.isSimulated := by
  cases provider <;> rfl

theorem Gateways.operations?_store (gateways : Gateways) {provider : PaymentProvider}
    (simulated : provider.isSimulated = true) (operations : SimulatedOperations)
    (other : PaymentProvider) :
    (gateways.store provider operations).operations? other =
      if other = provider then some operations else gateways.operations? other := by
  cases provider <;> cases simulated <;> cases other <;> rfl

/-- Only the adapter which is asked can change what it knows. -/
theorem Gateways.lookup_ask (gateways : Gateways) (adapter : PaymentProvider)
    (external : SimulatedOperations → GatewayResult × SimulatedOperations)
    (internal : GatewayResult) (provider : PaymentProvider) (reference : String) :
    (gateways.ask adapter external internal).2.lookup provider reference =
      if provider = adapter then
        (gateways.operations? adapter).bind fun operations => (external operations).2 reference
      else
        gateways.lookup provider reference := by
  rw [Gateways.ask]
  cases known : gateways.operations? adapter with
  | none =>
      by_cases same : provider = adapter
      · rw [if_pos same, same, lookup, known]
        rfl
      · rw [if_neg same]
  | some operations =>
      have simulated : adapter.isSimulated = true := by
        by_contra internal
        rw [Gateways.operations?_eq_none.mpr (Bool.eq_false_iff.mpr internal)] at known
        cases known
      dsimp only
      rw [lookup, Gateways.operations?_store gateways simulated]
      by_cases same : provider = adapter
      · rw [if_pos same, if_pos same]
        rfl
      · rw [if_neg same, if_neg same]
        rfl

/-- The reference of the call is one which no adapter knows yet. -/
def Gateways.Unused (gateways : Gateways) (asked : Asked) (call : GatewayCall) : Prop :=
  ∀ drawn ∈ call.drawn? asked.uuid, gateways.lookup drawn.1 drawn.2 = none

instance (gateways : Gateways) (asked : Asked) (call : GatewayCall) :
    Decidable (gateways.Unused asked call) :=
  inferInstanceAs (Decidable (∀ drawn ∈ call.drawn? asked.uuid,
    gateways.lookup drawn.1 drawn.2 = none))

theorem Gateways.lookup_update {gateways : Gateways} {adapter provider : PaymentProvider}
    {drawn reference : String} (unused : gateways.lookup adapter drawn = none)
    (operation : StoredOperation) {known : StoredOperation}
    (found : gateways.lookup provider reference = some known) :
    (if provider = adapter then
        (gateways.operations? adapter).bind fun operations =>
          Function.update operations drawn (some operation) reference
      else
        gateways.lookup provider reference) = some known := by
  split_ifs with same
  · subst same
    rw [lookup] at found unused
    cases present : gateways.operations? provider with
    | none =>
        rw [present] at found
        cases found
    | some operations =>
        rw [present] at found unused
        have different : reference ≠ drawn := by
          rintro rfl
          rw [unused] at found
          cases found
        rw [Option.bind_some, Function.update_of_ne different]
        exact found
  · exact found

/-- A request under a new reference leaves what the adapters know. -/
theorem Gateways.lookup_request {call : GatewayCall} (requests : call.IsRequest)
    (unused : gateways.Unused asked call) {provider : PaymentProvider} {reference : String}
    {known : StoredOperation} (found : gateways.lookup provider reference = some known) :
    (gateways.answer environment asked call).2.lookup provider reference = some known := by
  cases call with
  | queryTransactionStatus adapter providerReference =>
      cases requests
  | requestRefund adapter idempotencyKey amount currency =>
      rw [Gateways.answer, Gateways.lookup_ask]
      simp only [SimulatedExternalGateway.requestRefund, SimulatedExternalGateway.request,
        Option.getD_none]
      exact Gateways.lookup_update (unused (adapter, _) rfl) _ found
  | _ adapter =>
      rw [Gateways.answer, Gateways.lookup_ask]
      simp only [SimulatedExternalGateway.requestCharge,
        SimulatedExternalGateway.requestPayout, SimulatedExternalGateway.request]
      exact Gateways.lookup_update (unused (adapter, _) rfl) _ found

/-- A charge is remembered with the status of the answer. -/
theorem Gateways.lookup_requestCharge {adapter : PaymentProvider}
    (simulated : adapter.isSimulated = true) (idempotencyKey : String) (amount : Int)
    (currency : String) (customerId : UserId) (jobId : JobId) :
    let asking := gateways.answer environment asked
      (.requestCharge adapter idempotencyKey amount currency customerId jobId)
    ∃ reason, asking.2.lookup adapter asking.1.providerReference =
      some ⟨asking.1.status, asked.now, reason⟩ := by
  cases known : gateways.operations? adapter with
  | none =>
      rw [Gateways.operations?_eq_none.mp known] at simulated
      cases simulated
  | some operations =>
      intro asking
      have reply : asking.1 = (SimulatedExternalGateway.requestCharge adapter
          ⟨idempotencyKey, amount, currency⟩ asked operations).1 := by
        simp only [asking, Gateways.answer, Gateways.ask, known]
      change ∃ reason, (gateways.ask adapter _ _).2.lookup adapter asking.1.providerReference = _
      rw [Gateways.lookup_ask, if_pos rfl, known, reply, Option.bind_some]
      simp only [SimulatedExternalGateway.requestCharge, SimulatedExternalGateway.request,
        Function.update_self]
      exact ⟨_, rfl⟩

/-- What a query without a forced status reports. -/
theorem Gateways.answer_query {adapter : PaymentProvider} {reference : String}
    {known : StoredOperation} (found : gateways.lookup adapter reference = some known)
    (unforced : asked.simulate = none) :
    (gateways.answer environment asked (.queryTransactionStatus adapter reference)).1.status =
      (known.settle (SimulatedExternalGateway.resolveSettlementDelayMs environment adapter)
        asked.now).status := by
  rw [lookup] at found
  cases present : gateways.operations? adapter with
  | none =>
      rw [present] at found
      cases found
  | some operations =>
      rw [present, Option.bind_some] at found
      have desired : parseDesiredStatus asked.simulate = none := by
        rw [unforced]
        rfl
      simp only [Gateways.answer, Gateways.ask, present,
        SimulatedExternalGateway.queryTransactionStatus, desired, found]

/-- It settles the operation it asks about, and no other. -/
theorem Gateways.lookup_query {adapter provider : PaymentProvider}
    {reference other : String} (unforced : asked.simulate = none) :
    (gateways.answer environment asked (.queryTransactionStatus adapter reference)).2.lookup
        provider other =
      if provider = adapter ∧ other = reference then
        (gateways.lookup provider other).map
          (StoredOperation.settle
            (SimulatedExternalGateway.resolveSettlementDelayMs environment adapter) asked.now)
      else
        gateways.lookup provider other := by
  have desired : parseDesiredStatus asked.simulate = none := by
    rw [unforced]
    rfl
  rw [Gateways.answer, Gateways.lookup_ask]
  by_cases same : provider = adapter
  · subst same
    rw [if_pos rfl, lookup]
    cases present : gateways.operations? provider with
    | none =>
        simp
    | some operations =>
        simp only [Option.bind_some, SimulatedExternalGateway.queryTransactionStatus, desired,
          true_and]
        cases stored : operations reference with
        | none =>
            dsimp only
            split_ifs with asking
            · rw [asking, stored]
              rfl
            · rfl
        | some operation =>
            dsimp only
            split_ifs with asking
            · rw [asking, Function.update_self, stored]
              rfl
            · rw [Function.update_of_ne asking]
  · rw [if_neg same, if_neg fun both => same both.1]

end Memory

/-! ## The calls of the services -/

section Calls

variable {answer : GatewayResult} {now : Time} {actorUserId : UserId} {store : Store}

theorem calls_payIntent {intentId : IntentId} {dto : PayPaymentIntentDto} :
    match payIntentGate intentId actorUserId dto now store with
    | .ok (.charge intent idempotencyKey) =>
        ∃ rest, (payIntent intentId actorUserId dto answer now store).calls =
          .requestCharge (getAdapter intent.provider) idempotencyKey intent.amount
            intent.currency intent.customerId intent.jobId :: rest
    | _ => (payIntent intentId actorUserId dto answer now store).calls = [] := by
  unfold payIntent
  rw [Action.consult_bind_apply]
  cases gate : payIntentGate intentId actorUserId dto now store with
  | error error =>
      rfl
  | ok decision =>
      cases decision with
      | charge intent idempotencyKey =>
          dsimp only
          rw [Action.call_bind_apply, Outcome.after_calls]
          exact ⟨_, rfl⟩
      | _ =>
          rfl

theorem calls_reconcileTransaction {transactionId : TransactionId} :
    match store.transactions.find? transactionId with
    | some transaction =>
        ∃ rest, (reconcileTransaction transactionId answer now store).calls =
          .queryTransactionStatus (getAdapter transaction.provider)
            (transaction.providerReference.getD (renderId transaction.id)) :: rest
    | none => (reconcileTransaction transactionId answer now store).calls = [] := by
  unfold reconcileTransaction
  rw [Action.consult_bind_apply]
  cases found : store.transactions.find? transactionId with
  | none =>
      rfl
  | some transaction =>
      simp only [orThrow]
      rw [Action.call_bind_apply, Outcome.after_calls]
      exact ⟨_, rfl⟩

theorem emits_recordRefund (order : RefundOrder) (record : RefundRequest)
    (decisionNote : Option String) :
    Action.Emits GatewayCall.IsRequest
      (recordRefund order record actorUserId decisionNote answer now) := by
  refine Action.emits_bind ?_ fun transaction => Action.emits_bind (Action.emits_alter _)
    fun _ => Action.emits_bind ?_ fun _ => Action.emits_ite _ (Action.emits_bind ?_ fun _ =>
      Action.emits_consult _) (Action.emits_consult _)
  · exact Action.emits_bind (Action.emits_inspect _) fun _ =>
      Action.emits_bind (Action.emits_inspect _) fun _ =>
        Action.emits_bind (Action.emits_require _ _) fun _ =>
          Action.emits_bind (Action.emits_alter _) fun _ => Action.emits_pure _
  · refine Action.emits_bind (Action.emits_inspect _) fun found => ?_
    cases found with
    | none =>
        exact Action.emits_pure _
    | some incident =>
        exact Action.emits_bind (Action.emits_alter _) fun _ => Action.emits_alter _
  · exact Action.emits_bind (Action.emits_inspect _) fun _ =>
      Action.emits_bind (Action.emits_require _ _) fun _ =>
        Action.emits_bind (Action.emits_require _ _) fun _ => Action.emits_alter _

theorem emits_processRefundRequest (refundRequestId : RefundId)
    (decisionNote : Option String) :
    Action.Emits GatewayCall.IsRequest
      (processRefundRequest refundRequestId actorUserId decisionNote answer now) := by
  refine Action.emits_bind (Action.emits_consult _) fun order => Action.emits_transaction ?_
  exact Action.emits_bind (Action.emits_consult _) fun record =>
    Action.emits_bind (Action.emits_alter _) fun _ =>
      Action.emits_bind (Action.emits_call rfl) fun _ => emits_recordRefund order record _

theorem emits_adminProcessPayout (payoutId : PayoutId) (dto : ProcessPayoutDto) :
    Action.Emits GatewayCall.IsRequest
      (adminProcessPayout actorUserId payoutId dto answer now) := by
  refine Action.emits_bind (Action.emits_consult _) fun payout =>
    Action.emits_bind (Action.emits_inspect _) fun existing => Action.emits_ite _
      (Action.emits_consult _) (Action.emits_bind (Action.emits_call rfl) fun _ =>
        Action.emits_transaction ?_)
  refine Action.emits_bind (Action.emits_consult _) fun record =>
    Action.emits_bind (Action.emits_inspect _) fun duplicate => Action.emits_ite _
      (Action.emits_consult _) ?_
  refine Action.emits_bind ?_ fun transaction =>
    Action.emits_bind (Action.emits_alter _) fun _ => Action.emits_ite _ ?_
      (Action.emits_consult _)
  · exact Action.emits_bind (Action.emits_inspect _) fun _ =>
      Action.emits_bind (Action.emits_inspect _) fun _ =>
        Action.emits_bind (Action.emits_require _ _) fun _ =>
          Action.emits_bind (Action.emits_alter _) fun _ => Action.emits_pure _
  · exact Action.emits_bind (Action.emits_inspect _) fun _ =>
      Action.emits_bind (Action.emits_require _ _) fun _ =>
        Action.emits_bind (Action.emits_alter _) fun _ => Action.emits_consult _

/-- Who does not query a transaction makes a request. -/
theorem isRequest_of_calls {operation : Operation} {call : GatewayCall}
    {rest : List GatewayCall} (calls : operation.calls store = call :: rest)
    (unasked : operation.isQuery = false) : call.IsRequest := by
  have member : call ∈ operation.calls store := calls ▸ List.mem_cons_self
  cases operation with
  | payIntent intentId actorUserId dto answer now =>
      have made := @calls_payIntent answer now actorUserId store intentId dto
      split at made
      · obtain ⟨_, same⟩ := made
        have both := List.cons.inj (calls.symm.trans same)
        rw [both.1]
        rfl
      · rw [Operation.calls, made] at member
        cases member
  | adminApproveRefund actorUserId refundRequestId decisionNote answer now =>
      have emits : Action.Emits GatewayCall.IsRequest
          (adminApproveRefund actorUserId refundRequestId decisionNote answer now) :=
        Action.emits_bind (Action.emits_consult _) fun refund =>
          Action.emits_bind (emits_processRefundRequest _ _) fun _ =>
            Action.emits_bind (Action.emits_consult _) fun _ => Action.emits_pure _
      exact emits store call member
  | adminCreateRefund actorUserId dto answer now =>
      have emits : Action.Emits GatewayCall.IsRequest
          (adminCreateRefund actorUserId dto answer now) :=
        Action.emits_bind (Action.emits_consult _) fun opened =>
          Action.emits_bind (Action.emits_inspect _) fun _ =>
            Action.emits_bind (Action.emits_alter _) fun _ =>
              Action.emits_bind (emits_processRefundRequest _ _) fun _ =>
                Action.emits_bind (Action.emits_consult _) fun _ => Action.emits_pure _
      exact emits store call member
  | adminProcessPayout actorUserId payoutId dto answer now =>
      exact emits_adminProcessPayout payoutId dto store call member
  | reconcileTransaction transactionId answer now =>
      cases unasked
  | _ =>
      cases member

end Calls

end Tchuno.Payments
