import Tchuno.Library.Accumulators
import Tchuno.Library.Texts

/-!
# Tracking events and their aggregates

`TrackingService`: the events of a batch are counted in two maps of deltas, one by
worker profile and one by category, and the deltas are added to the stored rows in one
transaction.  Times are milliseconds.
-/

namespace Tchuno.Tracking

open Tchuno.Library Tchuno.Library.Ecma

abbrev Time := Int

/-- What the language does with texts: `new Date(text).getTime()`, which is `none` for
NaN, and `text.toLowerCase()`. -/
structure Runtime where
  parseDate : String → Option Time
  toLowerCase : String → String

/-! ## Events -/

structure TrackingEventMetadata where
  workerId : Option String
  workerProfileId : Option String
  categorySlug : Option String
  deriving DecidableEq

structure TrackingEventItem where
  name : String
  timestamp : Option String
  metadata : Option TrackingEventMetadata
  deriving DecidableEq

structure TrackingEventRecord where
  name : String
  timestamp : Option String
  metadata : Option TrackingEventMetadata
  deriving DecidableEq

def toEventRecord (event : TrackingEventItem) : TrackingEventRecord where
  name := trim event.name
  timestamp := event.timestamp
  metadata := event.metadata

def normalizeWorkerProfileId (value : Option String) : Option String :=
  value.bind fun text =>
    let normalized := trim text
    if normalized = "" ∨ 64 < utf16Length normalized then none else some normalized

def readWorkerProfileId (metadata : Option TrackingEventMetadata) : Option String :=
  (normalizeWorkerProfileId (metadata.bind (·.workerProfileId))).or
    (normalizeWorkerProfileId (metadata.bind (·.workerId)))

def readCategorySlug (runtime : Runtime) (metadata : Option TrackingEventMetadata) :
    Option String :=
  (metadata.bind (·.categorySlug)).bind fun raw =>
    let normalized := runtime.toLowerCase (trim raw)
    if normalized = "" ∨ 64 < utf16Length normalized then none else some normalized

/-- `now` is read where there is no valid timestamp. -/
def resolveEventTimestamp (runtime : Runtime) (now : Time) (value : Option String) : Time :=
  ((truthy value).bind runtime.parseDate).getD now

def TrackingEventRecord.HasValidTimestamp (runtime : Runtime) (event : TrackingEventRecord) :
    Prop :=
  ((truthy event.timestamp).bind runtime.parseDate).isSome = true

instance (runtime : Runtime) (event : TrackingEventRecord) :
    Decidable (event.HasValidTimestamp runtime) :=
  inferInstanceAs (Decidable (_ = true))

/-! ## Deltas -/

structure WorkerEventDelta where
  interactions : Int
  clicks : Int
  ctaClicks : Int
  conversions : Int
  lastEventAt : Option Time
  deriving DecidableEq

structure CategoryEventDelta where
  interactions : Int
  lastEventAt : Option Time
  deriving DecidableEq

def WorkerEventDelta.zero : WorkerEventDelta := ⟨0, 0, 0, 0, none⟩

def CategoryEventDelta.zero : CategoryEventDelta := ⟨0, none⟩

/-- The two maps of a batch, in the order in which keys were set. -/
structure AggregateMaps where
  workerDeltas : List (String × WorkerEventDelta)
  categoryDeltas : List (String × CategoryEventDelta)
  deriving DecidableEq

def AggregateMaps.empty : AggregateMaps := ⟨[], []⟩

/-- Change the delta of the worker which an event names. -/
def AggregateMaps.changeWorker (maps : AggregateMaps) (workerProfileId : Option String)
    (change : WorkerEventDelta → WorkerEventDelta) : AggregateMaps :=
  match workerProfileId with
  | none => maps
  | some id =>
      { maps with workerDeltas := changeDelta .zero change id maps.workerDeltas }

def AggregateMaps.changeCategory (maps : AggregateMaps) (categorySlug : Option String)
    (change : CategoryEventDelta → CategoryEventDelta) : AggregateMaps :=
  match categorySlug with
  | none => maps
  | some slug =>
      { maps with categoryDeltas := changeDelta .zero change slug maps.categoryDeltas }

def applyEventToAggregateMaps (runtime : Runtime) (now : Time) (event : TrackingEventRecord)
    (maps : AggregateMaps) : AggregateMaps :=
  let eventAt := resolveEventTimestamp runtime now event.timestamp
  if event.name = "marketplace.worker.card.click" ∨
      event.name = "dashboard.worker.card.click" then
    maps.changeWorker (readWorkerProfileId event.metadata) fun next =>
      { next with
        interactions := next.interactions + 1
        clicks := next.clicks + 1
        lastEventAt := some eventAt }
  else if event.name = "marketplace.cta.click" ∨ event.name = "dashboard.cta.click" then
    maps.changeWorker (readWorkerProfileId event.metadata) fun next =>
      { next with
        interactions := next.interactions + 1
        ctaClicks := next.ctaClicks + 1
        lastEventAt := some eventAt }
  else if event.name = "job.create.submit" then
    maps.changeWorker (readWorkerProfileId event.metadata) fun next =>
      { next with
        interactions := next.interactions + 1
        conversions := next.conversions + 1
        lastEventAt := some eventAt }
  else if event.name = "marketplace.category.select" then
    maps.changeCategory (readCategorySlug runtime event.metadata) fun next =>
      { next with
        interactions := next.interactions + 1
        lastEventAt := some eventAt }
  else
    maps

/-- The maps of a batch; `clock` is what `new Date()` reads at each event. -/
def aggregateBatch (runtime : Runtime) (clock : Nat → Time)
    (batch : List TrackingEventRecord) : AggregateMaps :=
  batch.zipIdx.foldl (fun maps (event, tick) =>
    applyEventToAggregateMaps runtime (clock tick) event maps) .empty

/-! ## Rows -/

structure TrackingWorkerAggregate where
  interactions : Int
  clicks : Int
  ctaClicks : Int
  conversions : Int
  lastEventAt : Option Time
  deriving DecidableEq

structure TrackingCategoryAggregate where
  interactions : Int
  lastEventAt : Option Time
  deriving DecidableEq

/-- The two tables, by their primary keys. -/
structure TrackingStore where
  workers : String → Option TrackingWorkerAggregate
  categories : String → Option TrackingCategoryAggregate

/-- `create` where there is no row, `update` where there is one. -/
def upsertWorker (now : Time) (row : Option TrackingWorkerAggregate)
    (delta : WorkerEventDelta) : TrackingWorkerAggregate :=
  match row with
  | none =>
      { interactions := delta.interactions
        clicks := delta.clicks
        ctaClicks := delta.ctaClicks
        conversions := delta.conversions
        lastEventAt := some (delta.lastEventAt.getD now) }
  | some stored =>
      { interactions := stored.interactions + delta.interactions
        clicks := stored.clicks + delta.clicks
        ctaClicks := stored.ctaClicks + delta.ctaClicks
        conversions := stored.conversions + delta.conversions
        lastEventAt := some (delta.lastEventAt.getD now) }

def upsertCategory (now : Time) (row : Option TrackingCategoryAggregate)
    (delta : CategoryEventDelta) : TrackingCategoryAggregate :=
  match row with
  | none =>
      { interactions := delta.interactions
        lastEventAt := some (delta.lastEventAt.getD now) }
  | some stored =>
      { interactions := stored.interactions + delta.interactions
        lastEventAt := some (delta.lastEventAt.getD now) }

/-- The transaction, as a whole. -/
def persistDeltas (now : Time) (maps : AggregateMaps) (store : TrackingStore) :
    TrackingStore :=
  if maps.workerDeltas = [] ∧ maps.categoryDeltas = [] then
    store
  else
    { workers := mergeDeltas (upsertWorker now) store.workers maps.workerDeltas
      categories := mergeDeltas (upsertCategory now) store.categories maps.categoryDeltas }

end Tchuno.Tracking
