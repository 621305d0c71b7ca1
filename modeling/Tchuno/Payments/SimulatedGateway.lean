import Mathlib.Logic.Function.Basic
import Tchuno.Payments.Reconciliation

/-!
# The adapters of the gateways

M-Pesa and e-Mola are simulated in memory: an operation is pending until the settlement
delay is over, and the first query after that settles it.  Everything else goes to the
internal adapter, which remembers nothing.
-/

namespace Tchuno.Payments

open Tchuno.Library Tchuno.Library.Ecma

/-! ## Requests -/

/-- The status which `metadata.simulate` asks for. -/
def parseDesiredStatus (simulate : Option String) : Option GatewayOperationStatus :=
  if simulate = some "pending" then some .pending
  else if simulate = some "failed" then some .failed
  else if simulate = some "reversed" then some .reversed
  else if simulate = some "success" then some .succeeded
  else none

inductive GatewayOperationKind where
  | charge | refund | payout
  deriving DecidableEq, Repr

def GatewayOperationKind.name : GatewayOperationKind → String
  | .charge => "charge"
  | .refund => "refund"
  | .payout => "payout"

/-- What the methods of an adapter are told of an operation which moves money. -/
structure GatewayOrder where
  idempotencyKey : String
  amount : Int
  currency : String

/-- What a call of an adapter draws from outside: `metadata.simulate`, `randomUUID` and the
clock. -/
structure Asked where
  simulate : Option String
  uuid : String
  now : Time

/-- `status === 'PENDING' ? undefined : new Date()`. -/
def processedAtOf (status : GatewayOperationStatus) (now : Time) : Option Time :=
  if status = .pending then none else some now

/-- The `reason` of an answer: one text, and only for what failed. -/
def failureOf (status : GatewayOperationStatus) (text : String) : Option String :=
  if status = .failed then some text else none

/-! ## SimulatedExternalGatewayAdapter -/

structure StoredOperation where
  status : GatewayOperationStatus
  createdAtMs : Time
  reason : Option String
  deriving DecidableEq, Repr

/-- The `operations` of an adapter by their references. -/
abbrev SimulatedOperations := String → Option StoredOperation

/-- The variables of the settlement delay, where they are set. -/
structure GatewayEnvironment where
  providerDelay : PaymentProvider → Option EnvNumber
  fallbackDelay : Option EnvNumber

namespace SimulatedExternalGateway

def resolveSettlementDelayMs (environment : GatewayEnvironment) (provider : PaymentProvider) :
    Int :=
  match (environment.providerDelay provider).or environment.fallbackDelay with
  | some (some parsed) => min 900000 (max 3000 (mathTrunc parsed))
  | _ => 30000

def createProviderReference (provider : PaymentProvider) (kind : GatewayOperationKind)
    (uuid : String) : String :=
  toLowerCase provider.name ++ "-" ++ kind.name ++ "-" ++ uuid

/-- What `requestCharge`, `requestRefund` and `requestPayout` do alike. -/
def request (kind : GatewayOperationKind) (provider : PaymentProvider)
    (providerReference : String) (order : GatewayOrder) (simulate : Option String)
    (now : Time) (operations : SimulatedOperations) : GatewayResult × SimulatedOperations :=
  let status := (parseDesiredStatus simulate).getD .pending
  let reason := failureOf status ("provider_" ++ kind.name ++ "_failed")
  ({ status := status
     providerReference := providerReference
     processedAt := processedAtOf status now
     rawPayload := some <| .object
       [("provider", .string provider.name), ("mode", .string "simulated_external"),
        ("operation", .string kind.name), ("idempotencyKey", .string order.idempotencyKey),
        ("amount", .number (toString order.amount)), ("currency", .string order.currency)]
     reason := reason },
   Function.update operations providerReference (some ⟨status, now, reason⟩))

def requestCharge (provider : PaymentProvider) (order : GatewayOrder) (asked : Asked) :
    SimulatedOperations → GatewayResult × SimulatedOperations :=
  request .charge provider (createProviderReference provider .charge asked.uuid) order
    asked.simulate asked.now

/-- `given` is the reference of the input, if it has one. -/
def requestRefund (provider : PaymentProvider) (order : GatewayOrder) (given : Option String)
    (asked : Asked) : SimulatedOperations → GatewayResult × SimulatedOperations :=
  request .refund provider
    (given.getD (createProviderReference provider .refund asked.uuid)) order asked.simulate
    asked.now

def requestPayout (provider : PaymentProvider) (order : GatewayOrder) (asked : Asked) :
    SimulatedOperations → GatewayResult × SimulatedOperations :=
  request .payout provider (createProviderReference provider .payout asked.uuid) order
    asked.simulate asked.now

end SimulatedExternalGateway

/-- A pending operation succeeds once the delay is over. -/
def StoredOperation.settle (settlementDelayMs : Int) (now : Time)
    (operation : StoredOperation) : StoredOperation :=
  if operation.status = .pending ∧ settlementDelayMs ≤ now - operation.createdAtMs then
    { operation with
      status := .succeeded
      reason := none }
  else
    operation

namespace SimulatedExternalGateway

/-- The first members of the payload of a status query. -/
def queryPayload (provider : PaymentProvider) (members : List (String × Json)) :
    Option Json :=
  some <| .object <|
    [("provider", .string provider.name), ("mode", .string "simulated_external"),
      ("operation", .string "status_query")] ++ members

def queryTransactionStatus (settlementDelayMs : Int) (provider : PaymentProvider)
    (providerReference : String) (asked : Asked) (operations : SimulatedOperations) :
    GatewayResult × SimulatedOperations :=
  match parseDesiredStatus asked.simulate with
  | some forcedStatus =>
      ({ status := forcedStatus
         providerReference := providerReference
         processedAt := processedAtOf forcedStatus asked.now
         rawPayload := queryPayload provider [("forced", .bool true)]
         reason := failureOf forcedStatus "provider_forced_failed" }, operations)
  | none =>
      match operations providerReference with
      | none =>
          ({ status := .pending
             providerReference := providerReference
             processedAt := none
             rawPayload := queryPayload provider [("knownReference", .bool false)]
             reason := none }, operations)
      | some stored =>
          let operation := stored.settle settlementDelayMs asked.now
          ({ status := operation.status
             providerReference := providerReference
             processedAt := processedAtOf operation.status asked.now
             rawPayload := queryPayload provider
               [("knownReference", .bool true),
                ("settlementDelayMs", .number (toString settlementDelayMs))]
             reason := if operation.status = .failed then operation.reason else none },
           Function.update operations providerReference (some operation))

end SimulatedExternalGateway

/-! ## InternalMockGatewayAdapter -/

namespace InternalMockGateway

/-- What the methods which move money do alike. -/
def request (kind : GatewayOperationKind) (providerReference : String) (order : GatewayOrder)
    (simulate : Option String) (now : Time) : GatewayResult :=
  let status := (parseDesiredStatus simulate).getD .succeeded
  { status := status
    providerReference := providerReference
    processedAt := processedAtOf status now
    rawPayload := some <| .object
      [("kind", .string kind.name), ("mock", .bool true),
       ("idempotencyKey", .string order.idempotencyKey),
       ("amount", .number (toString order.amount)), ("currency", .string order.currency)]
    reason := failureOf status ("mock_" ++ kind.name ++ "_failed") }

def requestCharge (order : GatewayOrder) (asked : Asked) : GatewayResult :=
  request .charge ("internal-charge-" ++ asked.uuid) order asked.simulate asked.now

def requestRefund (order : GatewayOrder) (given : Option String) (asked : Asked) :
    GatewayResult :=
  request .refund (given.getD ("internal-refund-" ++ asked.uuid)) order asked.simulate
    asked.now

def requestPayout (order : GatewayOrder) (asked : Asked) : GatewayResult :=
  request .payout ("internal-payout-" ++ asked.uuid) order asked.simulate asked.now

def queryTransactionStatus (providerReference : String) (asked : Asked) : GatewayResult :=
  let status := (parseDesiredStatus asked.simulate).getD .succeeded
  { status := status
    providerReference := providerReference
    processedAt := processedAtOf status asked.now
    rawPayload := some <| .object
      [("kind", .string "status_query"), ("mock", .bool true),
       ("providerReference", .string providerReference)]
    reason := failureOf status "mock_status_failed" }

end InternalMockGateway

/-! ## The registry -/

/-- The memory of the simulated adapters. -/
structure Gateways where
  mpesa : SimulatedOperations
  emola : SimulatedOperations

namespace Gateways

/-- The memory of a process which has just started. -/
def started : Gateways := ⟨fun _ => none, fun _ => none⟩

def operations? (gateways : Gateways) : PaymentProvider → Option SimulatedOperations
  | .mpesa => some gateways.mpesa
  | .emola => some gateways.emola
  | _ => none

def store (gateways : Gateways) (provider : PaymentProvider)
    (operations : SimulatedOperations) : Gateways :=
  match provider with
  | .mpesa => { gateways with mpesa := operations }
  | .emola => { gateways with emola := operations }
  | _ => gateways

/-- The call goes to the simulated adapter, or to the internal one. -/
def ask (gateways : Gateways) (adapter : PaymentProvider)
    (external : SimulatedOperations → GatewayResult × SimulatedOperations)
    (internal : GatewayResult) : GatewayResult × Gateways :=
  match gateways.operations? adapter with
  | some operations =>
      ((external operations).1, gateways.store adapter (external operations).2)
  | none => (internal, gateways)

/-- The answer to a call of `PaymentsService`.  Refunds give no reference and no metadata. -/
def answer (environment : GatewayEnvironment) (gateways : Gateways) (asked : Asked) :
    GatewayCall → GatewayResult × Gateways
  | .requestCharge adapter idempotencyKey amount currency _ _ =>
      gateways.ask adapter
        (SimulatedExternalGateway.requestCharge adapter ⟨idempotencyKey, amount, currency⟩
          asked)
        (InternalMockGateway.requestCharge ⟨idempotencyKey, amount, currency⟩ asked)
  | .requestRefund adapter idempotencyKey amount currency =>
      gateways.ask adapter
        (SimulatedExternalGateway.requestRefund adapter ⟨idempotencyKey, amount, currency⟩
          none { asked with simulate := none })
        (InternalMockGateway.requestRefund ⟨idempotencyKey, amount, currency⟩ none
          { asked with simulate := none })
  | .requestPayout adapter idempotencyKey amount currency _ =>
      gateways.ask adapter
        (SimulatedExternalGateway.requestPayout adapter ⟨idempotencyKey, amount, currency⟩
          asked)
        (InternalMockGateway.requestPayout ⟨idempotencyKey, amount, currency⟩ asked)
  | .queryTransactionStatus adapter providerReference =>
      gateways.ask adapter
        (SimulatedExternalGateway.queryTransactionStatus
          (SimulatedExternalGateway.resolveSettlementDelayMs environment adapter) adapter
          providerReference asked)
        (InternalMockGateway.queryTransactionStatus providerReference asked)

end Gateways

end Tchuno.Payments
