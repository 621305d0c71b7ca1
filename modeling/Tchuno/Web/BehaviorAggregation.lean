import Mathlib.Data.Rat.Floor
import Tchuno.Library.Records

/-!
# Stored behaviour of a browser

The web client counts what a visitor does with each worker and each category.  The counts
live in the memory of a page; `persistBehaviorAggregation` writes them to the local storage
and `ensureBehaviorAggregationHydrated` reads them back as history, once for each page.
-/

namespace Tchuno.Web

open Tchuno.Library

/-- Milliseconds. -/
abbrev Time := ℚ

/-- Identifiers of the database; none of them is a name which every object inherits. -/
abbrev WorkerId := String

/-- What `Number(…)` makes of a stored value, with `none` for anything that is not
finite. -/
abbrev StoredNumber := Option ℚ

/-! ## Aggregates -/

structure BehaviorCounts where
  interactions : Nat
  clicks : Nat
  ctaClicks : Nat
  conversions : Nat
  deriving DecidableEq

namespace BehaviorCounts

instance : Zero BehaviorCounts := ⟨⟨0, 0, 0, 0⟩⟩

instance : Add BehaviorCounts where
  add left right :=
    ⟨left.interactions + right.interactions, left.clicks + right.clicks,
      left.ctaClicks + right.ctaClicks, left.conversions + right.conversions⟩

end BehaviorCounts

/-- `WorkerBehaviorAggregate`, with the counters of one kind together: all of them, those
of the session and those of the history. -/
structure WorkerBehaviorAggregate where
  totals : BehaviorCounts
  lastInteractionEventIndex : Nat
  session : BehaviorCounts
  historical : BehaviorCounts
  historyLastUpdatedAt : Option Time
  deriving DecidableEq

/-- The aggregate which `getOrCreateWorkerBehavior` creates. -/
def WorkerBehaviorAggregate.empty : WorkerBehaviorAggregate where
  totals := 0
  lastInteractionEventIndex := 0
  session := 0
  historical := 0
  historyLastUpdatedAt := none

def syncWorkerBehaviorTotals (workerStats : WorkerBehaviorAggregate) :
    WorkerBehaviorAggregate :=
  { workerStats with totals := workerStats.session + workerStats.historical }

def normalizeCounter (value : StoredNumber) : Nat :=
  match value with
  | none => 0
  | some parsed => (max 0 (min 10000 ⌊parsed⌋)).toNat

/-! ## The local storage -/

def behaviorAggregationStorageVersion : Nat := 2
def legacyBehaviorAggregationStorageVersion : Nat := 1
def behaviorAggregationTtlMs : Time := 1000 * 60 * 60 * 24 * 7

/-- `PersistedWorkerBehaviorAggregate`; `lastUpdatedAt` is what `parseTimestamp` makes of
it.  What is no object counts nothing. -/
structure PersistedWorkerBehaviorAggregate where
  interactions : StoredNumber
  clicks : StoredNumber
  ctaClicks : StoredNumber
  conversions : StoredNumber
  lastUpdatedAt : Option Time

/-- `PersistedBehaviorAggregationSnapshot` and its predecessor.  `savedAt` is what
`parseTimestamp` makes of it, `expiresAt` is missing where it is no number. -/
structure PersistedBehaviorAggregationSnapshot where
  version : Nat
  savedAt : Option Time
  expiresAt : Option Time
  workersById : Record WorkerId PersistedWorkerBehaviorAggregate
  categoriesBySlug : Record String StoredNumber

/-- The item under `tchuno_behavior_aggregation_v1`, as `JSON.parse` reads it. -/
inductive StoredPayload where
  | unreadable
  | snapshot (payload : PersistedBehaviorAggregationSnapshot)

/-- A page of the web client, with the local storage of its browser. -/
structure Page where
  workerBehaviorById : Record WorkerId WorkerBehaviorAggregate
  categoryInteractionBySlug : Record String Nat
  behaviorAggregationHydrated : Bool
  behaviorPersistenceScheduled : Bool
  storage : Option StoredPayload

/-- A page which has just been loaded. -/
def Page.fresh (storage : Option StoredPayload) : Page where
  workerBehaviorById := .empty
  categoryInteractionBySlug := .empty
  behaviorAggregationHydrated := false
  behaviorPersistenceScheduled := false
  storage := storage

/-! ## Persistence -/

def BehaviorCounts.normalize (counts : BehaviorCounts) : BehaviorCounts where
  interactions := normalizeCounter (some counts.interactions)
  clicks := normalizeCounter (some counts.clicks)
  ctaClicks := normalizeCounter (some counts.ctaClicks)
  conversions := normalizeCounter (some counts.conversions)

/-- What is stored for a worker: nothing if there is nothing to count. -/
def persistedWorker? (now : Time) (stats : WorkerBehaviorAggregate) :
    Option PersistedWorkerBehaviorAggregate :=
  let counts := (stats.historical + stats.session).normalize
  if counts = 0 then none
  else
    some
      { interactions := some counts.interactions
        clicks := some counts.clicks
        ctaClicks := some counts.ctaClicks
        conversions := some counts.conversions
        lastUpdatedAt := some now }

def persistedCategory? (interactions : Nat) : Option StoredNumber :=
  let normalizedInteractions := normalizeCounter (some interactions)
  if normalizedInteractions = 0 then none else some (some normalizedInteractions)

/-- The storage takes the item. -/
def Page.persistBehaviorAggregation (page : Page) (now : Time) : Page :=
  { page with
    behaviorPersistenceScheduled := false
    storage := some (.snapshot
      { version := behaviorAggregationStorageVersion
        savedAt := some now
        expiresAt := some (now + behaviorAggregationTtlMs)
        workersById := page.workerBehaviorById.collect ⟨none, none, none, none, none⟩
          (persistedWorker? now)
        categoriesBySlug := page.categoryInteractionBySlug.collect none persistedCategory? }) }

/-! ## Hydration -/

def PersistedWorkerBehaviorAggregate.counts (rawStats : PersistedWorkerBehaviorAggregate) :
    BehaviorCounts where
  interactions := normalizeCounter rawStats.interactions
  clicks := normalizeCounter rawStats.clicks
  ctaClicks := normalizeCounter rawStats.ctaClicks
  conversions := normalizeCounter rawStats.conversions

/-- What the stored counts of a worker do to the ones in memory. -/
def hydratedWorker? (payload : PersistedBehaviorAggregationSnapshot)
    (rawStats : PersistedWorkerBehaviorAggregate) :
    Option (WorkerBehaviorAggregate → WorkerBehaviorAggregate) :=
  if rawStats.counts = 0 then none
  else
    let historyLastUpdatedAt :=
      if payload.version = behaviorAggregationStorageVersion then rawStats.lastUpdatedAt
      else payload.savedAt
    some fun workerStats =>
      syncWorkerBehaviorTotals
        { workerStats with
          historical := workerStats.historical + rawStats.counts
          historyLastUpdatedAt := historyLastUpdatedAt }

def hydratedCategory? (interactions : StoredNumber) : Option (Nat → Nat) :=
  let normalizedInteractions := normalizeCounter interactions
  if normalizedInteractions = 0 then none
  else some fun counted => counted + normalizedInteractions

/-- The payload is one of the two versions and has not expired. -/
def PersistedBehaviorAggregationSnapshot.isUsable
    (payload : PersistedBehaviorAggregationSnapshot) (now : Time) : Bool :=
  (payload.version = behaviorAggregationStorageVersion ||
      payload.version = legacyBehaviorAggregationStorageVersion) &&
    match payload.expiresAt with
    | none => false
    | some expiresAt => ¬ expiresAt ≤ now

/-- `changed`: something was counted. -/
def PersistedBehaviorAggregationSnapshot.changes
    (payload : PersistedBehaviorAggregationSnapshot) : Bool :=
  (payload.workersById.entries.any fun entry => entry.2.counts ≠ 0) ||
    payload.categoriesBySlug.entries.any fun entry => normalizeCounter entry.2 ≠ 0

def Page.ensureBehaviorAggregationHydrated (page : Page) (now : Time) : Page :=
  if page.behaviorAggregationHydrated then
    page
  else
    let page := { page with behaviorAggregationHydrated := true }
    match page.storage with
    | none => page
    | some .unreadable => { page with storage := none }
    | some (.snapshot payload) =>
        if payload.isUsable now then
          { page with
            workerBehaviorById := page.workerBehaviorById.absorb .empty
              (hydratedWorker? payload) payload.workersById
            categoryInteractionBySlug := page.categoryInteractionBySlug.absorb 0
              hydratedCategory? payload.categoriesBySlug
            behaviorPersistenceScheduled :=
              page.behaviorPersistenceScheduled || payload.changes }
        else
          { page with storage := none }

/-! ## Counts -/

@[simp]
theorem normalizeCounter_natCast (count : Nat) :
    normalizeCounter (some (count : ℚ)) = min 10000 count := by
  simp only [normalizeCounter, Int.floor_natCast]
  omega

namespace BehaviorCounts

theorem zero_def : (0 : BehaviorCounts) = ⟨0, 0, 0, 0⟩ := rfl

@[simp]
theorem zero_add (counts : BehaviorCounts) : 0 + counts = counts := by
  change BehaviorCounts.mk (0 + _) (0 + _) (0 + _) (0 + _) = counts
  simp

@[simp]
theorem add_zero (counts : BehaviorCounts) : counts + 0 = counts := rfl

@[simp]
theorem normalize_eq_zero {counts : BehaviorCounts} : counts.normalize = 0 ↔ counts = 0 := by
  cases counts
  simp [normalize, zero_def]

@[simp]
theorem normalize_normalize (counts : BehaviorCounts) :
    counts.normalize.normalize = counts.normalize := by
  simp only [normalize, normalizeCounter_natCast, inf_left_idem]

end BehaviorCounts

end Tchuno.Web
