import Tchuno.Tracking.Events
import Mathlib.Data.List.Induction
import Mathlib.Data.List.Perm.Basic

/-!
# Aggregates and the order of arrival

The counters of a row depend on the events of its key alone, in any order and in any
batches.  `lastEventAt` is the time of the event which arrived last, and this is the
latest time only where that event is not older than the others.
-/

namespace Tchuno.Tracking

open Tchuno.Library Tchuno.Library.Ecma

/-- An event with the time which is taken for it. -/
abbrev Stamped := Time × TrackingEventRecord

/-- The time an event tells by itself. -/
def TrackingEventRecord.time (runtime : Runtime) (event : TrackingEventRecord) : Time :=
  ((truthy event.timestamp).bind runtime.parseDate).getD 0

def TrackingEventRecord.stamped (runtime : Runtime) (event : TrackingEventRecord) : Stamped :=
  (event.time runtime, event)

theorem resolve_of_valid {runtime : Runtime} {event : TrackingEventRecord}
    (valid : event.HasValidTimestamp runtime) (now : Time) :
    resolveEventTimestamp runtime now event.timestamp = event.time runtime := by
  obtain ⟨time, told⟩ := Option.isSome_iff_exists.mp valid
  simp [resolveEventTimestamp, TrackingEventRecord.time, told]

/-! ## What an event counts for -/

def isCardClick (event : TrackingEventRecord) : Bool :=
  event.name = "marketplace.worker.card.click" || event.name = "dashboard.worker.card.click"

def isCtaClick (event : TrackingEventRecord) : Bool :=
  event.name = "marketplace.cta.click" || event.name = "dashboard.cta.click"

/-- The worker profile an event counts for. -/
def workerKey (event : Stamped) : Option String :=
  if isCardClick event.2 || isCtaClick event.2 || event.2.name = "job.create.submit" then
    readWorkerProfileId event.2.metadata
  else
    none

def categoryKey (runtime : Runtime) (event : Stamped) : Option String :=
  if event.2.name = "marketplace.category.select" then
    readCategorySlug runtime event.2.metadata
  else
    none

def noteWorker (event : Stamped) (delta : WorkerEventDelta) : WorkerEventDelta :=
  if isCardClick event.2 then
    { delta with
      interactions := delta.interactions + 1
      clicks := delta.clicks + 1
      lastEventAt := some event.1 }
  else if isCtaClick event.2 then
    { delta with
      interactions := delta.interactions + 1
      ctaClicks := delta.ctaClicks + 1
      lastEventAt := some event.1 }
  else
    { delta with
      interactions := delta.interactions + 1
      conversions := delta.conversions + 1
      lastEventAt := some event.1 }

def noteCategory (event : Stamped) (delta : CategoryEventDelta) : CategoryEventDelta where
  interactions := delta.interactions + 1
  lastEventAt := some event.1

theorem applyEvent_workers (runtime : Runtime) (now : Time) (event : TrackingEventRecord)
    (maps : AggregateMaps) :
    (applyEventToAggregateMaps runtime now event maps).workerDeltas =
      noteEvent workerKey noteWorker .zero maps.workerDeltas
        (resolveEventTimestamp runtime now event.timestamp, event) := by
  let counted : Stamped := (resolveEventTimestamp runtime now event.timestamp, event)
  have changed : ∀ change, workerKey counted = readWorkerProfileId event.metadata →
      noteWorker counted = change →
        (maps.changeWorker (readWorkerProfileId event.metadata) change).workerDeltas =
          noteEvent workerKey noteWorker .zero maps.workerDeltas counted := by
    intro change own noted
    rw [noteEvent, own, noted]
    cases readWorkerProfileId event.metadata <;> rfl
  have kept : ∀ (slug : Option String) change,
      (maps.changeCategory slug change).workerDeltas = maps.workerDeltas := by
    intro slug change
    cases slug <;> rfl
  unfold applyEventToAggregateMaps
  dsimp only
  by_cases card : event.name = "marketplace.worker.card.click" ∨
      event.name = "dashboard.worker.card.click"
  · have clicked : isCardClick event = true := by simpa [isCardClick] using card
    rw [if_pos card]
    exact changed _ (by simp [workerKey, counted, clicked])
      (by funext delta; simp [noteWorker, counted, clicked])
  · have not_clicked : isCardClick event = false := by simpa [isCardClick] using card
    rw [if_neg card]
    by_cases cta : event.name = "marketplace.cta.click" ∨ event.name = "dashboard.cta.click"
    · have called : isCtaClick event = true := by simpa [isCtaClick] using cta
      rw [if_pos cta]
      exact changed _ (by simp [workerKey, counted, called])
        (by funext delta; simp [noteWorker, counted, not_clicked, called])
    · have not_called : isCtaClick event = false := by simpa [isCtaClick] using cta
      rw [if_neg cta]
      by_cases submit : event.name = "job.create.submit"
      · rw [if_pos submit]
        exact changed _ (by simp [workerKey, counted, submit])
          (by funext delta; simp [noteWorker, counted, not_clicked, not_called])
      · have no_worker : workerKey counted = none := by
          simp [workerKey, counted, not_clicked, not_called, submit]
        rw [if_neg submit, noteEvent, no_worker]
        split
        · exact kept _ _
        · rfl

theorem applyEvent_categories (runtime : Runtime) (now : Time) (event : TrackingEventRecord)
    (maps : AggregateMaps) :
    (applyEventToAggregateMaps runtime now event maps).categoryDeltas =
      noteEvent (categoryKey runtime) noteCategory .zero maps.categoryDeltas
        (resolveEventTimestamp runtime now event.timestamp, event) := by
  have kept : ∀ (id : Option String) change,
      (maps.changeWorker id change).categoryDeltas = maps.categoryDeltas := by
    intro id change
    cases id <;> rfl
  unfold applyEventToAggregateMaps noteEvent
  dsimp only
  by_cases selected : event.name = "marketplace.category.select"
  · have own : categoryKey runtime (resolveEventTimestamp runtime now event.timestamp, event) =
        readCategorySlug runtime event.metadata := by
      simp [categoryKey, selected]
    rw [own, selected, if_neg (by decide), if_neg (by decide), if_neg (by decide), if_pos rfl]
    cases readCategorySlug runtime event.metadata <;> rfl
  · have no_category : categoryKey runtime
        (resolveEventTimestamp runtime now event.timestamp, event) = none := by
      simp [categoryKey, selected]
    rw [no_category]
    dsimp only
    split
    · exact kept _ _
    · split
      · exact kept _ _
      · split
        · exact kept _ _
        · rfl

/-! ## Batches -/

/-- A batch which is flushed, with what the clock reads at its events and in the end. -/
structure Flush where
  events : List TrackingEventRecord
  clock : Nat → Time
  now : Time

def persistFlush (runtime : Runtime) (store : TrackingStore) (flush : Flush) :
    TrackingStore :=
  persistDeltas flush.now (aggregateBatch runtime flush.clock flush.events) store

def persistAll (runtime : Runtime) (store : TrackingStore) (flushes : List Flush) :
    TrackingStore :=
  flushes.foldl (persistFlush runtime) store

/-- The events of all batches, in the order of arrival. -/
def arrivals (flushes : List Flush) : List TrackingEventRecord :=
  flushes.flatMap Flush.events

/-- The events of a batch as they are counted. -/
def Flush.stamped (runtime : Runtime) (flush : Flush) : List Stamped :=
  flush.events.zipIdx.map fun (event, tick) =>
    (resolveEventTimestamp runtime (flush.clock tick) event.timestamp, event)

/-- One of the two maps of a batch, if each event is counted in it by itself. -/
theorem aggregateBatch_deltas {Delta : Type} {runtime : Runtime}
    {keyOf : Stamped → Option String} {note : Stamped → Delta → Delta} {zero : Delta}
    {deltas : AggregateMaps → List (String × Delta)} (nothing : deltas .empty = [])
    (counted : ∀ now event maps,
      deltas (applyEventToAggregateMaps runtime now event maps) =
        noteEvent keyOf note zero (deltas maps)
          (resolveEventTimestamp runtime now event.timestamp, event))
    (flush : Flush) :
    deltas (aggregateBatch runtime flush.clock flush.events) =
      (flush.stamped runtime).foldl (noteEvent keyOf note zero) [] := by
  have general : ∀ (items : List (TrackingEventRecord × Nat)) (maps : AggregateMaps),
      deltas (items.foldl (fun maps (event, tick) =>
        applyEventToAggregateMaps runtime (flush.clock tick) event maps) maps) =
      (items.map fun (event, tick) => ((resolveEventTimestamp runtime (flush.clock tick)
        event.timestamp, event) : Stamped)).foldl (noteEvent keyOf note zero)
          (deltas maps) := by
    intro items
    induction items with
    | nil =>
        intro maps
        rfl
    | cons item rest inductionHypothesis =>
        intro maps
        rw [List.foldl_cons, inductionHypothesis, List.map_cons, List.foldl_cons, counted]
  rw [← nothing]
  exact general flush.events.zipIdx .empty

theorem stamped_of_valid {runtime : Runtime} {flush : Flush}
    (valid : ∀ event ∈ flush.events, event.HasValidTimestamp runtime) :
    flush.stamped runtime = flush.events.map (·.stamped runtime) := by
  have general : ∀ (items : List (TrackingEventRecord × Nat)),
      (∀ item ∈ items, item.1.HasValidTimestamp runtime) →
        items.map (fun (event, tick) => ((resolveEventTimestamp runtime (flush.clock tick)
          event.timestamp, event) : Stamped)) =
            (items.map Prod.fst).map (·.stamped runtime) := by
    intro items items_valid
    rw [List.map_map]
    apply List.map_congr_left
    intro item member
    exact congrArg (·, item.1) (resolve_of_valid (items_valid item member) _)
  have all := general flush.events.zipIdx fun item member =>
    valid item.1 (List.fst_mem_of_mem_zipIdx member)
  rw [List.zipIdx_map_fst] at all
  exact all

/-! ## The deltas of a key -/

/-- The time of the event which arrived last. -/
def lastTime (events : List Stamped) : Option Time :=
  events.getLast?.map Prod.fst

theorem lastTime_append {first second : List Stamped} (some_second : second ≠ []) :
    lastTime (first ++ second) = lastTime second := by
  have last := List.getLast?_append_of_ne_nil first some_second
  exact congrArg (Option.map Prod.fst) last

theorem lastTime_isSome {events : List Stamped} (some_event : events ≠ []) :
    ∃ time, lastTime events = some time := by
  have last := List.getLast?_eq_getLast_of_ne_nil some_event
  exact ⟨(events.getLast some_event).1, congrArg (Option.map Prod.fst) last⟩

def workerDeltaOf (events : List Stamped) : WorkerEventDelta where
  interactions := events.length
  clicks := events.countP fun event => isCardClick event.2
  ctaClicks := events.countP fun event => !isCardClick event.2 && isCtaClick event.2
  conversions := events.countP fun event => !isCardClick event.2 && !isCtaClick event.2
  lastEventAt := lastTime events

def categoryDeltaOf (events : List Stamped) : CategoryEventDelta where
  interactions := events.length
  lastEventAt := lastTime events

theorem noteWorkers_eq (events : List Stamped) :
    events.foldl (fun delta event => noteWorker event delta) .zero = workerDeltaOf events := by
  induction events using List.reverseRecOn with
  | nil =>
      rfl
  | append_singleton rest event inductionHypothesis =>
      have last : lastTime (rest ++ [event]) = some event.1 := by simp [lastTime]
      rw [List.foldl_append, inductionHypothesis]
      simp only [List.foldl_cons, List.foldl_nil, workerDeltaOf, noteWorker, last,
        List.length_append, List.length_singleton, List.countP_append, List.countP_singleton]
      cases isCardClick event.2 <;> cases isCtaClick event.2 <;> simp

theorem noteCategories_eq (events : List Stamped) :
    events.foldl (fun delta event => noteCategory event delta) .zero =
      categoryDeltaOf events := by
  induction events using List.reverseRecOn with
  | nil =>
      rfl
  | append_singleton rest event inductionHypothesis =>
      have last : lastTime (rest ++ [event]) = some event.1 := by simp [lastTime]
      rw [List.foldl_append, inductionHypothesis]
      simp [categoryDeltaOf, noteCategory, last]

theorem upsertWorker_composes (row : Option TrackingWorkerAggregate)
    {first second : List Stamped} (some_second : second ≠ []) :
    upsertWorker 0 (some (upsertWorker 0 row (workerDeltaOf first))) (workerDeltaOf second) =
      upsertWorker 0 row (workerDeltaOf (first ++ second)) := by
  have last := @lastTime_append first second some_second
  cases row with
  | none =>
      simp [upsertWorker, workerDeltaOf, last]
  | some stored =>
      simp [upsertWorker, workerDeltaOf, last, Int.add_assoc]

theorem upsertCategory_composes (row : Option TrackingCategoryAggregate)
    {first second : List Stamped} (some_second : second ≠ []) :
    upsertCategory 0 (some (upsertCategory 0 row (categoryDeltaOf first)))
        (categoryDeltaOf second) =
      upsertCategory 0 row (categoryDeltaOf (first ++ second)) := by
  have last := @lastTime_append first second some_second
  cases row with
  | none =>
      simp [upsertCategory, categoryDeltaOf, last]
  | some stored =>
      simp [upsertCategory, categoryDeltaOf, last, Int.add_assoc]

/-- The clock of a flush is not read for events which tell their time. -/
theorem upsertWorker_now (now : Time) (row : Option TrackingWorkerAggregate)
    {events : List Stamped} (some_event : events ≠ []) :
    upsertWorker now row (workerDeltaOf events) = upsertWorker 0 row (workerDeltaOf events) := by
  obtain ⟨time, last⟩ := lastTime_isSome some_event
  cases row <;> simp [upsertWorker, workerDeltaOf, last]

theorem upsertCategory_now (now : Time) (row : Option TrackingCategoryAggregate)
    {events : List Stamped} (some_event : events ≠ []) :
    upsertCategory now row (categoryDeltaOf events) =
      upsertCategory 0 row (categoryDeltaOf events) := by
  obtain ⟨time, last⟩ := lastTime_isSome some_event
  cases row <;> simp [upsertCategory, categoryDeltaOf, last]

/-! ## Rows after all batches -/

theorem persistDeltas_eq (now : Time) (maps : AggregateMaps) (store : TrackingStore) :
    persistDeltas now maps store =
      { workers := mergeDeltas (upsertWorker now) store.workers maps.workerDeltas
        categories := mergeDeltas (upsertCategory now) store.categories
          maps.categoryDeltas } := by
  unfold persistDeltas
  by_cases nothing : maps.workerDeltas = [] ∧ maps.categoryDeltas = []
  · rw [if_pos nothing, nothing.1, nothing.2]
    rfl
  · rw [if_neg nothing]

theorem persistFlush_workers {runtime : Runtime} (store : TrackingStore) {flush : Flush}
    (valid : ∀ event ∈ flush.events, event.HasValidTimestamp runtime) :
    (persistFlush runtime store flush).workers =
      mergeBatch workerKey noteWorker .zero (upsertWorker 0) store.workers
        (flush.events.map (·.stamped runtime)) := by
  have counted := aggregateBatch_deltas rfl (applyEvent_workers runtime) flush
  rw [stamped_of_valid valid] at counted
  rw [persistFlush, persistDeltas_eq, counted]
  apply mergeBatch_congr
  intro row events some_event
  rw [noteWorkers_eq]
  exact upsertWorker_now flush.now row some_event

theorem persistFlush_categories {runtime : Runtime} (store : TrackingStore) {flush : Flush}
    (valid : ∀ event ∈ flush.events, event.HasValidTimestamp runtime) :
    (persistFlush runtime store flush).categories =
      mergeBatch (categoryKey runtime) noteCategory .zero (upsertCategory 0) store.categories
        (flush.events.map (·.stamped runtime)) := by
  have counted := aggregateBatch_deltas rfl (applyEvent_categories runtime) flush
  rw [stamped_of_valid valid] at counted
  rw [persistFlush, persistDeltas_eq, counted]
  apply mergeBatch_congr
  intro row events some_event
  rw [noteCategories_eq]
  exact upsertCategory_now flush.now row some_event

/-- The events of a worker among the arrivals, with their times. -/
def workerEvents (runtime : Runtime) (id : String) (events : List TrackingEventRecord) :
    List Stamped :=
  eventsOf workerKey id (events.map (·.stamped runtime))

def categoryEvents (runtime : Runtime) (slug : String) (events : List TrackingEventRecord) :
    List Stamped :=
  eventsOf (categoryKey runtime) slug (events.map (·.stamped runtime))

/-- Every event of the batches tells its time. -/
def AllValid (runtime : Runtime) (flushes : List Flush) : Prop :=
  ∀ event ∈ arrivals flushes, event.HasValidTimestamp runtime

/-- One of the two tables after all batches, if each batch is merged into it. -/
theorem persistAll_rows {Delta Row : Type} {runtime : Runtime}
    {keyOf : Stamped → Option String} {note : Stamped → Delta → Delta} {zero : Delta}
    {deltaOf : List Stamped → Delta} {merge : Option Row → Delta → Row}
    {rows : TrackingStore → String → Option Row}
    (noted : ∀ events, events.foldl (fun delta event => note event delta) zero =
      deltaOf events)
    (composes : ∀ row (first second : List Stamped), second ≠ [] →
      merge (some (merge row (deltaOf first))) (deltaOf second) =
        merge row (deltaOf (first ++ second)))
    (flushed : ∀ store (flush : Flush),
      (∀ event ∈ flush.events, event.HasValidTimestamp runtime) →
        rows (persistFlush runtime store flush) =
          mergeBatch keyOf note zero merge (rows store)
            (flush.events.map (·.stamped runtime)))
    {store : TrackingStore} {flushes : List Flush} (valid : AllValid runtime flushes)
    (key : String) :
    rows (persistAll runtime store flushes) key =
      if eventsOf keyOf key ((arrivals flushes).map (·.stamped runtime)) = [] then
        rows store key
      else
        some (merge (rows store key)
          (deltaOf (eventsOf keyOf key ((arrivals flushes).map (·.stamped runtime))))) := by
  have folded : ∀ store, rows (persistAll runtime store flushes) =
      (flushes.map fun flush => flush.events.map (·.stamped runtime)).foldl
        (mergeBatch keyOf note zero merge) (rows store) := by
    induction flushes with
    | nil =>
        intro store
        rfl
    | cons flush rest inductionHypothesis =>
        intro store
        have flush_valid : ∀ event ∈ flush.events, event.HasValidTimestamp runtime :=
          fun event member => valid event (List.mem_append_left _ member)
        have rest_valid : AllValid runtime rest := fun event member =>
          valid event (List.mem_append_right _ member)
        have later := inductionHypothesis rest_valid (persistFlush runtime store flush)
        rw [flushed store flush flush_valid] at later
        exact later
  have composes_noted : ∀ row (first second : List Stamped), first ≠ [] → second ≠ [] →
      merge (some (merge row (first.foldl (fun delta event => note event delta) zero)))
        (second.foldl (fun delta event => note event delta) zero) =
      merge row ((first ++ second).foldl (fun delta event => note event delta) zero) := by
    intro row first second _ some_second
    rw [noted, noted, noted]
    exact composes row first second some_second
  have joined : (flushes.map fun flush => flush.events.map (·.stamped runtime)).flatten =
      (arrivals flushes).map (·.stamped runtime) := by
    rw [arrivals, List.map_flatMap, List.flatMap_def]
  rw [folded, mergeBatches_apply keyOf note zero merge composes_noted, joined,
    mergeBatch_apply, noted]

theorem persistAll_workers {runtime : Runtime} {store : TrackingStore} {flushes : List Flush}
    (valid : AllValid runtime flushes) (id : String) :
    (persistAll runtime store flushes).workers id =
      if workerEvents runtime id (arrivals flushes) = [] then store.workers id
      else some (upsertWorker 0 (store.workers id)
        (workerDeltaOf (workerEvents runtime id (arrivals flushes)))) :=
  persistAll_rows noteWorkers_eq (fun row _ _ => upsertWorker_composes row)
    (fun store _ => persistFlush_workers store) valid id

theorem persistAll_categories {runtime : Runtime} {store : TrackingStore}
    {flushes : List Flush} (valid : AllValid runtime flushes) (slug : String) :
    (persistAll runtime store flushes).categories slug =
      if categoryEvents runtime slug (arrivals flushes) = [] then store.categories slug
      else some (upsertCategory 0 (store.categories slug)
        (categoryDeltaOf (categoryEvents runtime slug (arrivals flushes)))) :=
  persistAll_rows noteCategories_eq (fun row _ _ => upsertCategory_composes row)
    (fun store _ => persistFlush_categories store) valid slug

/-! ## The latest time -/

def workerLast (store : TrackingStore) (id : String) : Option Time :=
  (store.workers id).bind (·.lastEventAt)

def categoryLast (store : TrackingStore) (slug : String) : Option Time :=
  (store.categories slug).bind (·.lastEventAt)

/-- The last of the times is the latest, also compared with a stored one. -/
def LatestLast (stored : Option Time) (times : List Time) : Prop :=
  ∀ last ∈ times.getLast?, ∀ time ∈ stored.toList ++ times, time ≤ last

theorem latestLast_iff (stored : Option Time) (times : List Time) :
    times.getLast?.or stored = (stored.toList ++ times).max? ↔ LatestLast stored times := by
  unfold LatestLast
  cases found : times.getLast? with
  | none =>
      have none_there : times = [] := List.getLast?_eq_none_iff.mp found
      subst none_there
      cases stored <;> simp
  | some last =>
      have member : last ∈ stored.toList ++ times :=
        List.mem_append_right _ (List.mem_of_getLast? found)
      rw [Option.some_or, eq_comm, List.max?_eq_some_iff]
      constructor
      · rintro ⟨_, bound⟩ other same
        rw [← Option.some.inj same]
        exact bound
      · intro latest
        exact ⟨member, latest last rfl⟩

theorem lastTime_eq (events : List Stamped) :
    lastTime events = (events.map Prod.fst).getLast? := by
  rw [lastTime, List.getLast?_map]

theorem persistAll_workerLast {runtime : Runtime} {store : TrackingStore}
    {flushes : List Flush} (valid : AllValid runtime flushes) (id : String) :
    workerLast (persistAll runtime store flushes) id =
      ((workerEvents runtime id (arrivals flushes)).map Prod.fst).getLast?.or
        (workerLast store id) := by
  rw [workerLast, persistAll_workers valid, ← lastTime_eq]
  by_cases none_own : workerEvents runtime id (arrivals flushes) = []
  · rw [if_pos none_own, none_own]
    rfl
  · obtain ⟨time, last⟩ := lastTime_isSome none_own
    rw [if_neg none_own, last]
    cases store.workers id <;> simp [upsertWorker, workerDeltaOf, last]

theorem persistAll_categoryLast {runtime : Runtime} {store : TrackingStore}
    {flushes : List Flush} (valid : AllValid runtime flushes) (slug : String) :
    categoryLast (persistAll runtime store flushes) slug =
      ((categoryEvents runtime slug (arrivals flushes)).map Prod.fst).getLast?.or
        (categoryLast store slug) := by
  rw [categoryLast, persistAll_categories valid, ← lastTime_eq]
  by_cases none_own : categoryEvents runtime slug (arrivals flushes) = []
  · rw [if_pos none_own, none_own]
    rfl
  · obtain ⟨time, last⟩ := lastTime_isSome none_own
    rw [if_neg none_own, last]
    cases store.categories slug <;> simp [upsertCategory, categoryDeltaOf, last]

/-- The events of a key have come with the latest one, or the latest stored one, last. -/
def LastIsLatest (runtime : Runtime) (store : TrackingStore) (flushes : List Flush) : Prop :=
  (∀ id, LatestLast (workerLast store id)
      ((workerEvents runtime id (arrivals flushes)).map Prod.fst)) ∧
    ∀ slug, LatestLast (categoryLast store slug)
      ((categoryEvents runtime slug (arrivals flushes)).map Prod.fst)

/-- `lastEventAt` is the latest of the stored time and the times of the key. -/
def HasLatest (runtime : Runtime) (store : TrackingStore) (flushes : List Flush)
    (result : TrackingStore) : Prop :=
  (∀ id, workerLast result id = ((workerLast store id).toList ++
      (workerEvents runtime id (arrivals flushes)).map Prod.fst).max?) ∧
    ∀ slug, categoryLast result slug = ((categoryLast store slug).toList ++
      (categoryEvents runtime slug (arrivals flushes)).map Prod.fst).max?

theorem hasLatest_iff {runtime : Runtime} {store : TrackingStore} {flushes : List Flush}
    (valid : AllValid runtime flushes) :
    HasLatest runtime store flushes (persistAll runtime store flushes) ↔
      LastIsLatest runtime store flushes := by
  simp only [HasLatest, LastIsLatest, persistAll_workerLast valid,
    persistAll_categoryLast valid, latestLast_iff]

/-- If the last of the times is the latest in both orders, it is the same time. -/
theorem latestLast_agree {stored : Option Time} {times others : List Time}
    (same_times : times.Perm others) (latest : LatestLast stored times)
    (other_latest : LatestLast stored others) :
    times.getLast?.or stored = others.getLast?.or stored := by
  rw [(latestLast_iff stored times).mpr latest, (latestLast_iff stored others).mpr other_latest]
  have candidates := same_times.append_left stored.toList
  cases found : (stored.toList ++ times).max? with
  | none =>
      have nothing := List.max?_eq_none_iff.mp found
      rw [nothing] at candidates
      rw [candidates.nil_eq.symm]
      rfl
  | some time =>
      obtain ⟨member, bound⟩ := List.max?_eq_some_iff.mp found
      exact (List.max?_eq_some_iff.mpr ⟨candidates.subset member, fun other listed =>
        bound other (candidates.symm.subset listed)⟩).symm

theorem latestLast_perm {stored : Option Time} {times others : List Time}
    (same_times : times.Perm others) (latest : LatestLast stored times)
    (same_last : times.getLast?.or stored = others.getLast?.or stored) :
    LatestLast stored others := by
  intro last found time member
  have candidates := same_times.append_left stored.toList
  have there := candidates.symm.subset member
  rw [found, Option.some_or] at same_last
  cases own : times.getLast? with
  | none =>
      have nothing := List.getLast?_eq_none_iff.mp own
      rw [nothing] at same_times
      have no_others : others = [] := same_times.nil_eq.symm
      rw [no_others] at found
      cases found
  | some latest_time =>
      rw [own, Option.some_or] at same_last
      have equal := Option.some.inj same_last
      rw [← equal]
      exact latest latest_time own time there

/-- The four counters of a worker. -/
def workerCounts (row : TrackingWorkerAggregate) : Int × Int × Int × Int :=
  (row.interactions, row.clicks, row.ctaClicks, row.conversions)

theorem row_eq_of_counts {first_row second_row : Option TrackingWorkerAggregate}
    (counts : first_row.map workerCounts = second_row.map workerCounts)
    (last : first_row.bind (·.lastEventAt) = second_row.bind (·.lastEventAt)) :
    first_row = second_row := by
  cases first_row with
  | none =>
      cases second_row with
      | none => rfl
      | some other => cases counts
  | some row =>
      cases second_row with
      | none => cases counts
      | some other =>
          obtain ⟨interactions, clicks, ctaClicks, conversions, lastEventAt⟩ := row
          obtain ⟨others, other_clicks, other_cta, other_conversions, other_last⟩ := other
          simp only [Option.map_some, workerCounts, Option.some.injEq, Prod.mk.injEq] at counts
          simp only [Option.bind_some] at last
          simp [counts, last]

theorem category_eq_of_counts {first_row second_row : Option TrackingCategoryAggregate}
    (counts : first_row.map (·.interactions) = second_row.map (·.interactions))
    (last : first_row.bind (·.lastEventAt) = second_row.bind (·.lastEventAt)) :
    first_row = second_row := by
  cases first_row with
  | none =>
      cases second_row with
      | none => rfl
      | some other => cases counts
  | some row =>
      cases second_row with
      | none => cases counts
      | some other =>
          obtain ⟨interactions, lastEventAt⟩ := row
          obtain ⟨others, other_last⟩ := other
          simp only [Option.map_some, Option.some.injEq] at counts
          simp only [Option.bind_some] at last
          simp [counts, last]

/-! ## Two orders of arrival -/

section TwoOrders

variable {runtime : Runtime} {store : TrackingStore} {first second : List Flush}
  (same : (arrivals first).Perm (arrivals second))

include same

theorem workerEvents_perm (id : String) :
    (workerEvents runtime id (arrivals first)).Perm
      (workerEvents runtime id (arrivals second)) :=
  (same.map _).filter _

theorem categoryEvents_perm (slug : String) :
    (categoryEvents runtime slug (arrivals first)).Perm
      (categoryEvents runtime slug (arrivals second)) :=
  (same.map _).filter _

theorem allValid_perm (valid : AllValid runtime first) : AllValid runtime second :=
  fun event member => valid event (same.mem_iff.mpr member)

theorem workerCounts_agree (valid : AllValid runtime first) (id : String) :
    ((persistAll runtime store first).workers id).map workerCounts =
      ((persistAll runtime store second).workers id).map workerCounts := by
  have events := @workerEvents_perm runtime first second same id
  rw [persistAll_workers valid, persistAll_workers (allValid_perm same valid)]
  have empty_iff : workerEvents runtime id (arrivals first) = [] ↔
      workerEvents runtime id (arrivals second) = [] := by
    rw [← List.length_eq_zero_iff, events.length_eq, List.length_eq_zero_iff]
  by_cases none_own : workerEvents runtime id (arrivals first) = []
  · rw [if_pos none_own, if_pos (empty_iff.mp none_own)]
  · rw [if_neg none_own, if_neg fun other => none_own (empty_iff.mpr other)]
    have counted : ∀ accept, (workerEvents runtime id (arrivals first)).countP accept =
        (workerEvents runtime id (arrivals second)).countP accept :=
      fun accept => events.countP_eq accept
    cases store.workers id <;>
      simp [workerCounts, upsertWorker, workerDeltaOf, events.length_eq, counted]

theorem categoryCounts_agree (valid : AllValid runtime first) (slug : String) :
    ((persistAll runtime store first).categories slug).map (·.interactions) =
      ((persistAll runtime store second).categories slug).map (·.interactions) := by
  have events := @categoryEvents_perm runtime first second same slug
  rw [persistAll_categories valid, persistAll_categories (allValid_perm same valid)]
  have empty_iff : categoryEvents runtime slug (arrivals first) = [] ↔
      categoryEvents runtime slug (arrivals second) = [] := by
    rw [← List.length_eq_zero_iff, events.length_eq, List.length_eq_zero_iff]
  by_cases none_own : categoryEvents runtime slug (arrivals first) = []
  · rw [if_pos none_own, if_pos (empty_iff.mp none_own)]
  · rw [if_neg none_own, if_neg fun other => none_own (empty_iff.mpr other)]
    cases store.categories slug <;>
      simp [upsertCategory, categoryDeltaOf, events.length_eq]

theorem stores_agree (valid : AllValid runtime first)
    (latest : LastIsLatest runtime store first)
    (other_latest : LastIsLatest runtime store second) :
    persistAll runtime store first = persistAll runtime store second := by
  have other_valid := allValid_perm same valid
  have workers : (persistAll runtime store first).workers =
      (persistAll runtime store second).workers := by
    funext id
    apply row_eq_of_counts (workerCounts_agree same valid id)
    have lasts := latestLast_agree ((workerEvents_perm same id).map Prod.fst)
      (latest.1 id) (other_latest.1 id)
    rw [← persistAll_workerLast valid, ← persistAll_workerLast other_valid] at lasts
    exact lasts
  have categories : (persistAll runtime store first).categories =
      (persistAll runtime store second).categories := by
    funext slug
    apply category_eq_of_counts (categoryCounts_agree same valid slug)
    have lasts := latestLast_agree ((categoryEvents_perm same slug).map Prod.fst)
      (latest.2 slug) (other_latest.2 slug)
    rw [← persistAll_categoryLast valid, ← persistAll_categoryLast other_valid] at lasts
    exact lasts
  calc persistAll runtime store first
      = ⟨(persistAll runtime store first).workers, (persistAll runtime store first).categories⟩ :=
        rfl
    _ = ⟨(persistAll runtime store second).workers,
          (persistAll runtime store second).categories⟩ := by rw [workers, categories]

theorem lastIsLatest_of_agree (valid : AllValid runtime first)
    (latest : LastIsLatest runtime store first)
    (agree : persistAll runtime store first = persistAll runtime store second) :
    LastIsLatest runtime store second := by
  have other_valid := allValid_perm same valid
  constructor
  · intro id
    apply latestLast_perm ((workerEvents_perm same id).map Prod.fst) (latest.1 id)
    rw [← persistAll_workerLast valid, ← persistAll_workerLast other_valid, agree]
  · intro slug
    apply latestLast_perm ((categoryEvents_perm same slug).map Prod.fst) (latest.2 slug)
    rw [← persistAll_categoryLast valid, ← persistAll_categoryLast other_valid, agree]

/-- The counters agree for any two orders and cuts of the same events.  The rows agree
with the latest time in them if and only if in both orders the last event of each key is
the latest. -/
theorem aggregates_agree_iff (valid : AllValid runtime first) :
    (∀ id, ((persistAll runtime store first).workers id).map workerCounts =
        ((persistAll runtime store second).workers id).map workerCounts) ∧
      (∀ slug, ((persistAll runtime store first).categories slug).map (·.interactions) =
        ((persistAll runtime store second).categories slug).map (·.interactions)) ∧
      ((persistAll runtime store first = persistAll runtime store second ∧
          HasLatest runtime store first (persistAll runtime store first)) ↔
        LastIsLatest runtime store first ∧ LastIsLatest runtime store second) := by
  refine ⟨workerCounts_agree same valid, categoryCounts_agree same valid, ?_⟩
  constructor
  · intro outcome
    have latest := (hasLatest_iff valid).mp outcome.2
    exact ⟨latest, lastIsLatest_of_agree same valid latest outcome.1⟩
  · intro latest
    exact ⟨stores_agree same valid latest.1 latest.2, (hasLatest_iff valid).mpr latest.1⟩

end TwoOrders

/-! ## Two clicks -/

/-- Two texts as they are parsed, and ASCII words in lower case. -/
def sampleRuntime : Runtime where
  parseDate := fun text =>
    [("2026-03-18T18:30:00.000Z", 1773858600000),
      ("2026-03-18T18:30:01.000Z", 1773858601000)].lookup text
  toLowerCase := Ecma.toLowerCase

def clickAt (timestamp : String) : TrackingEventRecord where
  name := "marketplace.worker.card.click"
  timestamp := some timestamp
  metadata := some ⟨some "worker", none, none⟩

def flushOf (events : List TrackingEventRecord) : Flush where
  events := events
  clock := fun _ => 1773858605000
  now := 1773858605000

def emptyStore : TrackingStore := ⟨fun _ => none, fun _ => none⟩

def inOrder : List Flush :=
  [flushOf [clickAt "2026-03-18T18:30:00.000Z", clickAt "2026-03-18T18:30:01.000Z"]]

def outOfOrder : List Flush :=
  [flushOf [clickAt "2026-03-18T18:30:01.000Z", clickAt "2026-03-18T18:30:00.000Z"]]

theorem inOrder_valid : AllValid sampleRuntime inOrder := by
  intro event member
  rcases List.mem_cons.mp member with rfl | later
  · decide +kernel
  · rw [List.mem_singleton.mp later]
    decide +kernel

/-- The later click is forgotten where it arrives first. -/
theorem older_click_last :
    (arrivals inOrder).Perm (arrivals outOfOrder) ∧ AllValid sampleRuntime inOrder ∧
      persistAll sampleRuntime emptyStore inOrder ≠
        persistAll sampleRuntime emptyStore outOfOrder ∧
      workerLast (persistAll sampleRuntime emptyStore outOfOrder) "worker" =
        some 1773858600000 := by
  have in_order : workerLast (persistAll sampleRuntime emptyStore inOrder) "worker" =
      some 1773858601000 := by decide +kernel
  have out_of_order : workerLast (persistAll sampleRuntime emptyStore outOfOrder) "worker" =
      some 1773858600000 := by decide +kernel
  refine ⟨List.Perm.swap _ _ _, inOrder_valid, ?_, out_of_order⟩
  intro agree
  rw [agree, out_of_order] at in_order
  cases in_order

theorem two_clicks_counted :
    ((persistAll sampleRuntime emptyStore inOrder).workers "worker").map workerCounts =
        ((persistAll sampleRuntime emptyStore outOfOrder).workers "worker").map workerCounts ∧
      ((persistAll sampleRuntime emptyStore inOrder =
          persistAll sampleRuntime emptyStore outOfOrder ∧
        HasLatest sampleRuntime emptyStore inOrder
          (persistAll sampleRuntime emptyStore inOrder)) ↔
        LastIsLatest sampleRuntime emptyStore inOrder ∧
          LastIsLatest sampleRuntime emptyStore outOfOrder) := by
  have swapped : (arrivals inOrder).Perm (arrivals outOfOrder) := List.Perm.swap _ _ _
  have agree := @aggregates_agree_iff sampleRuntime emptyStore _ _ swapped inOrder_valid
  exact ⟨agree.1 "worker", agree.2.2⟩

end Tchuno.Tracking
