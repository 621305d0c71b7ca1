import Tchuno.Library.Journal
import Tchuno.Payments.Schema

/-!
# The ledger service

The ledger is append-only: the only write is `appendEntries`.  A balance is
computed by grouping the matching rows by direction and adding the groups up.
Read as postings on the balance buckets, the entries of one payment intent form
a double-entry journal, and `computeBucketNet` is its balance.
-/

namespace Tchuno.Payments

open Tchuno.Library

/-! ## The service -/

/-- `LedgerService.appendEntries`. -/
def appendEntries (entries : List LedgerEntry) : Service Unit :=
  .alter fun store => { store with ledger := store.ledger ++ entries }

/-- `_sum: { amount: true }` of a group. -/
def sumAmounts (rows : List LedgerEntry) : Int :=
  (rows.map LedgerEntry.amount).sum

/-- `groupBy({ by: ['direction'], _sum: { amount: true } })`: one row for each
direction that occurs. -/
def groupByDirection (rows : List LedgerEntry) : List (LedgerDirection × Int) :=
  [LedgerDirection.debit, LedgerDirection.credit].filterMap fun direction =>
    match rows.filter fun row => row.direction = direction with
    | [] => none
    | row :: others => some (direction, sumAmounts (row :: others))

/-- `LedgerService.computeBucketNet`. -/
def computeBucketNet (ledger : List LedgerEntry) (bucket : LedgerBalanceBucket)
    (accept : LedgerEntry → Bool) : Int :=
  let rows := ledger.filter fun entry => entry.balanceBucket = bucket && accept entry
  (groupByDirection rows).foldl
    (fun acc row =>
      match row.1 with
      | .credit => acc + row.2
      | .debit => acc - row.2)
    0

/-- The `where` clause `{ actorType, paymentIntentId }`. -/
def ofIntent (actorType : PaymentActorType) (intentId : Option IntentId)
    (entry : LedgerEntry) : Bool :=
  entry.actorType = actorType && entry.paymentIntentId = intentId

/-! ## Entries as postings -/

/-- Credits count positively, debits negatively. -/
def LedgerEntry.signedAmount (entry : LedgerEntry) : Int :=
  match entry.direction with
  | .credit => entry.amount
  | .debit => -entry.amount

/-- The movement of an entry on its balance bucket. -/
def LedgerEntry.posting (entry : LedgerEntry) : Posting LedgerBalanceBucket Int :=
  ⟨entry.balanceBucket, entry.signedAmount⟩

/-- The entries of one payment intent, as a journal over the buckets. -/
def intentJournal (ledger : List LedgerEntry) (intentId : IntentId) :
    List (Posting LedgerBalanceBucket Int) :=
  (ledger.filter fun entry => entry.paymentIntentId = some intentId).map
    LedgerEntry.posting

/-- The actor whose money a bucket holds. -/
def LedgerBalanceBucket.actorType : LedgerBalanceBucket → PaymentActorType
  | .customerExternal => .customer
  | .platformReserved => .platform
  | .platformAvailable => .platform
  | .providerHeld => .provider
  | .providerAvailable => .provider
  | .providerPaidOut => .provider

/-- Every entry is booked for the actor of its bucket. -/
def ActorsMatch (ledger : List LedgerEntry) : Prop :=
  ∀ entry ∈ ledger, entry.actorType = entry.balanceBucket.actorType

private theorem sum_signedAmount (rows : List LedgerEntry) :
    (rows.map LedgerEntry.signedAmount).sum =
      sumAmounts (rows.filter fun row => row.direction = .credit) -
        sumAmounts (rows.filter fun row => row.direction = .debit) := by
  induction rows with
  | nil =>
      rfl
  | cons row rest inductionHypothesis =>
      simp only [List.map_cons, List.sum_cons, inductionHypothesis]
      cases direction : row.direction <;>
        simp [LedgerEntry.signedAmount, sumAmounts, direction] <;> omega

/-- The fold over the grouped rows is the signed sum of the matching rows. -/
theorem computeBucketNet_eq_sum (ledger : List LedgerEntry)
    (bucket : LedgerBalanceBucket) (accept : LedgerEntry → Bool) :
    computeBucketNet ledger bucket accept =
      ((ledger.filter fun entry => entry.balanceBucket = bucket && accept entry).map
        LedgerEntry.signedAmount).sum := by
  rw [sum_signedAmount, computeBucketNet]
  generalize ledger.filter _ = rows
  simp only [groupByDirection, List.filterMap_cons, List.filterMap_nil]
  cases debits : rows.filter fun row => row.direction = .debit <;>
    cases credits : rows.filter fun row => row.direction = .credit <;>
      (simp [sumAmounts]; try omega)

/-- On a well-booked ledger the actor filter is redundant, and the service
computes the balance of the intent's journal. -/
theorem computeBucketNet_ofIntent {ledger : List LedgerEntry}
    (booked : ActorsMatch ledger) (bucket : LedgerBalanceBucket)
    (intentId : IntentId) :
    computeBucketNet ledger bucket (ofIntent bucket.actorType (some intentId)) =
      Journal.balance (intentJournal ledger intentId) bucket := by
  rw [computeBucketNet_eq_sum, Journal.balance, Journal.total, intentJournal,
    List.filter_map, List.map_map, List.filter_filter]
  have sameRows :
      (ledger.filter fun entry => entry.balanceBucket = bucket &&
        ofIntent bucket.actorType (some intentId) entry) =
      ledger.filter fun entry =>
        ((fun posting : Posting LedgerBalanceBucket Int =>
          decide (posting.account = bucket)) ∘ LedgerEntry.posting) entry &&
        decide (entry.paymentIntentId = some intentId) := by
    refine List.filter_congr fun entry member => ?_
    have actor := booked entry member
    by_cases same : entry.balanceBucket = bucket
    · subst same
      simp [ofIntent, actor, LedgerEntry.posting]
    · simp [same, LedgerEntry.posting]
  rw [sameRows]
  rfl

@[simp]
theorem intentJournal_nil (intentId : IntentId) : intentJournal [] intentId = [] := rfl

theorem intentJournal_append (first second : List LedgerEntry) (intentId : IntentId) :
    intentJournal (first ++ second) intentId =
      intentJournal first intentId ++ intentJournal second intentId := by
  simp [intentJournal]

end Tchuno.Payments
