import Tchuno.Library.References
import Tchuno.Payments.Ledger

/-!
# The provider's summary

The three balances of a provider are computed over the ledger entries whose payment intent
is the provider's.
-/

namespace Tchuno.Payments

open Tchuno.Library

/-- The `where` clause `{ actorType: 'PROVIDER', paymentIntent: { providerUserId } }`. -/
def ofProvider (intents : Table PaymentIntent) (providerUserId : UserId)
    (entry : LedgerEntry) : Bool :=
  entry.actorType = .provider &&
    intents.leadsTo (fun intent => intent.providerUserId = some providerUserId)
      entry.paymentIntentId

structure ProviderBalances where
  held : Int
  available : Int
  paidOut : Int
  deriving DecidableEq, Repr

structure ProviderEntry where
  entryType : LedgerEntryType
  amount : Int
  direction : LedgerDirection
  bucket : LedgerBalanceBucket
  paymentIntentId : Option IntentId
  jobId : Option JobId
  description : String

structure ProviderPayout where
  id : PayoutId
  status : PayoutStatus
  amount : Int
  currency : String
  processedAt : Option Time
  providerReference : Option String

structure ProviderSummary where
  balances : ProviderBalances
  entries : List ProviderEntry
  payouts : List ProviderPayout

def LedgerEntry.toProviderEntry (entry : LedgerEntry) : ProviderEntry where
  entryType := entry.entryType
  amount := entry.amount
  direction := entry.direction
  bucket := entry.balanceBucket
  paymentIntentId := entry.paymentIntentId
  jobId := entry.jobId
  description := entry.description

def Payout.toProviderPayout (payout : Payout) : ProviderPayout where
  id := payout.id
  status := payout.status
  amount := payout.amount
  currency := payout.currency
  processedAt := payout.processedAt
  providerReference := payout.providerReference

def providerBalance (books : Books) (bucket : LedgerBalanceBucket) (actorUserId : UserId) :
    Int :=
  computeBucketNet books.ledger bucket (ofProvider books.intents actorUserId)

/-- The newest twenty entries and payouts stand beside the balances. -/
def getProviderSummary (actorUserId : UserId) (store : Store) : ProviderSummary where
  balances :=
    { held := providerBalance store.toBooks .providerHeld actorUserId
      available := providerBalance store.toBooks .providerAvailable actorUserId
      paidOut := providerBalance store.toBooks .providerPaidOut actorUserId }
  entries :=
    ((store.ledger.filter (ofProvider store.intents actorUserId)).reverse.take 20).map
      LedgerEntry.toProviderEntry
  payouts :=
    ((store.payouts.findMany fun payout => payout.providerUserId = actorUserId).take 20).map
      Payout.toProviderPayout

/-- A balance of a provider is the sum of those of the provider's intents. -/
theorem providerBalance_eq_sum (books : Books) (bucket : LedgerBalanceBucket)
    (actorUserId : UserId) :
    providerBalance books bucket actorUserId =
      ((books.intents.rows.filter fun intent =>
          intent.providerUserId = some actorUserId).map fun intent =>
        computeBucketNet books.ledger bucket (ofIntent .provider (some intent.id))).sum := by
  let own := books.ledger.filter fun entry =>
    entry.balanceBucket = bucket && entry.actorType = .provider
  have ofOwner : books.ledger.filter (fun entry =>
      entry.balanceBucket = bucket && ofProvider books.intents actorUserId entry) =
      own.filter fun entry =>
        books.intents.leadsTo (fun intent => intent.providerUserId = some actorUserId)
          entry.paymentIntentId := by
    rw [List.filter_filter]
    refine List.filter_congr fun entry _ => ?_
    rw [ofProvider, ← Bool.and_assoc, Bool.and_comm]
  have ofEach : ∀ intent : PaymentIntent, books.ledger.filter (fun entry =>
      entry.balanceBucket = bucket && ofIntent .provider (some intent.id) entry) =
      own.filter fun entry => entry.paymentIntentId = some (Keyed.key intent) := by
    intro intent
    rw [List.filter_filter]
    refine List.filter_congr fun entry _ => ?_
    rw [ofIntent, ← Bool.and_assoc, Bool.and_comm]
    rfl
  simp only [providerBalance, computeBucketNet_eq_sum, ofOwner, ofEach]
  exact books.intents.sum_leadsTo own LedgerEntry.paymentIntentId LedgerEntry.signedAmount
    fun intent => intent.providerUserId = some actorUserId

end Tchuno.Payments
