import Tchuno.Tracking.Arrival
import Tchuno.Library.Machine

/-!
# The tracking queue

`ingestEvents`, the timer of `scheduleFlush` and the end of `persistDeltas` run to
completion one at a time, in any order.  Between the start of a flush and its end other
callbacks run.
-/

namespace Tchuno.Tracking

open Tchuno.Library Tchuno.Library.Ecma

def maxIngestEvents : Nat := 200
def maxInMemoryQueue : Nat := 3000

/-! ## The service -/

/-- `timers` are the callbacks of `setTimeout` which have not run; `persisting` are the
calls of `persistDeltas` which have not settled, each with the batch it is for;
`persisted` are the batches whose deltas are stored. -/
structure TrackingService where
  queue : List TrackingEventRecord
  flushScheduled : Bool
  flushInProgress : Bool
  timers : Nat
  persisting : List Flush
  persisted : List Flush
  store : TrackingStore

def TrackingService.initial (store : TrackingStore) : TrackingService where
  queue := []
  flushScheduled := false
  flushInProgress := false
  timers := 0
  persisting := []
  persisted := []
  store := store

structure IngestResponse where
  accepted : Nat
  queued : Nat
  dropped : Nat
  deriving DecidableEq

def TrackingService.scheduleFlush (service : TrackingService) : TrackingService :=
  if service.flushScheduled then service
  else { service with flushScheduled := true, timers := service.timers + 1 }

/-- The loop of `ingestEvents`: the queue, and how many events are accepted and dropped. -/
def enqueue : List TrackingEventItem → List TrackingEventRecord × Nat × Nat →
    List TrackingEventRecord × Nat × Nat
  | [], progress => progress
  | event :: rest, (queue, accepted, dropped) =>
      if maxInMemoryQueue ≤ queue.length then
        enqueue rest (queue, accepted, dropped + 1)
      else
        enqueue rest (queue ++ [toEventRecord event], accepted + 1, dropped)

def TrackingService.ingestEvents (service : TrackingService)
    (events : List TrackingEventItem) : IngestResponse × TrackingService :=
  let (queue, accepted, dropped) :=
    enqueue (events.take maxIngestEvents) (service.queue, 0, 0)
  ({ accepted := accepted, queued := queue.length, dropped := dropped },
    ({ service with queue := queue }).scheduleFlush)

/-- `flushQueue` up to its `await`; the clock is read while the batch is counted. -/
def TrackingService.flushQueue (service : TrackingService) (clock : Nat → Time)
    (now : Time) : TrackingService :=
  let service := { service with flushScheduled := false }
  if service.flushInProgress then
    service.scheduleFlush
  else if service.queue = [] then
    service
  else
    { service with
      flushInProgress := true
      queue := []
      persisting := service.persisting ++
        [{ events := service.queue, clock := clock, now := now }] }

/-- The `finally` block. -/
def TrackingService.finishFlush (service : TrackingService) : TrackingService :=
  let service := { service with flushInProgress := false }
  if service.queue = [] then service else service.scheduleFlush

/-! ## Callbacks -/

inductive Callback where
  | ingest (events : List TrackingEventItem)
  | timer (clock : Nat → Time) (now : Time)
  | settled (position : Nat) (success : Bool)

/-- A timer or the end of a transaction for which nothing waits does not come. -/
def queueMachine (runtime : Runtime) : Machine TrackingService Callback where
  step service callback :=
    match callback with
    | .ingest events => (service.ingestEvents events).2
    | .timer clock now =>
        if service.timers = 0 then service
        else ({ service with timers := service.timers - 1 }).flushQueue clock now
    | .settled position success =>
        match service.persisting[position]? with
        | none => service
        | some flush =>
            let service := { service with persisting := service.persisting.eraseIdx position }
            if success then
              ({ service with
                persisted := service.persisted ++ [flush]
                store := persistFlush runtime service.store flush }).finishFlush
            else
              service.finishFlush

/-- The events which a callback adds to the queue. -/
def acceptedBy (service : TrackingService) : Callback → List TrackingEventRecord
  | .ingest events =>
      ((events.take maxIngestEvents).map toEventRecord).take
        (service.ingestEvents events).1.accepted
  | _ => []

/-- The events counted as accepted in a run, in the order of acceptance. -/
def acceptedIn (runtime : Runtime) : TrackingService → List Callback →
    List TrackingEventRecord
  | _, [] => []
  | service, callback :: rest =>
      acceptedBy service callback ++
        acceptedIn runtime ((queueMachine runtime).step service callback) rest

/-! ## One ingestion -/

theorem enqueue_eq (events : List TrackingEventItem) (queue : List TrackingEventRecord)
    (accepted dropped : Nat) :
    enqueue events (queue, accepted, dropped) =
      (queue ++ (events.map toEventRecord).take (maxInMemoryQueue - queue.length),
        accepted + min events.length (maxInMemoryQueue - queue.length),
        dropped + (events.length - (maxInMemoryQueue - queue.length))) := by
  induction events generalizing queue accepted dropped with
  | nil =>
      simp [enqueue]
  | cons event rest inductionHypothesis =>
      rw [enqueue]
      by_cases full : maxInMemoryQueue ≤ queue.length
      · have no_room : maxInMemoryQueue - queue.length = 0 := by omega
        rw [if_pos full, inductionHypothesis, no_room]
        simp only [List.take_zero, List.append_nil, Nat.min_zero, Nat.add_zero, Nat.sub_zero,
          List.length_cons, Prod.mk.injEq, true_and]
        omega
      · obtain ⟨room, has_room⟩ : ∃ room, maxInMemoryQueue - queue.length = room + 1 :=
          ⟨maxInMemoryQueue - queue.length - 1, by omega⟩
        have less_room : maxInMemoryQueue - (queue ++ [toEventRecord event]).length = room := by
          simp only [List.length_append, List.length_singleton]
          omega
        rw [if_neg full, inductionHypothesis, less_room, has_room]
        simp only [List.map_cons, List.take_succ_cons, List.append_assoc,
          List.singleton_append, List.length_cons, Prod.mk.injEq, true_and]
        omega

theorem acceptedBy_ingest (service : TrackingService) (events : List TrackingEventItem) :
    acceptedBy service (.ingest events) =
        ((events.take maxIngestEvents).map toEventRecord).take
          (maxInMemoryQueue - service.queue.length) ∧
      (service.ingestEvents events).1.accepted =
        (acceptedBy service (.ingest events)).length ∧
      (service.ingestEvents events).2 =
        ({ service with
          queue := service.queue ++ acceptedBy service (.ingest events) }).scheduleFlush := by
  have counted : (service.ingestEvents events).1.accepted =
      min (events.take maxIngestEvents).length (maxInMemoryQueue - service.queue.length) := by
    simp [TrackingService.ingestEvents, enqueue_eq]
  have taken : acceptedBy service (.ingest events) =
      ((events.take maxIngestEvents).map toEventRecord).take
        (maxInMemoryQueue - service.queue.length) := by
    rw [acceptedBy, counted, List.take_eq_take_iff]
    simp only [List.length_take, List.length_map]
    omega
  refine ⟨taken, ?_, ?_⟩
  · rw [counted, taken]
    simp only [List.length_take, List.length_map]
    omega
  · rw [taken]
    simp [TrackingService.ingestEvents, enqueue_eq]

/-! ## What every callback keeps -/

/-- The flags tell which callbacks are to come, the queue is bounded, and it does not
wait for nothing. -/
structure TrackingService.Sound (service : TrackingService) : Prop where
  timers : service.timers = if service.flushScheduled then 1 else 0
  flushing : service.persisting.length = if service.flushInProgress then 1 else 0
  bounded : service.queue.length ≤ maxInMemoryQueue
  attended : service.queue ≠ [] →
    service.flushScheduled = true ∨ service.flushInProgress = true

theorem initial_sound (store : TrackingStore) : (TrackingService.initial store).Sound where
  timers := rfl
  flushing := rfl
  bounded := Nat.zero_le _
  attended := fun waiting => absurd rfl waiting

section ScheduleFlush

variable (service : TrackingService)

@[simp]
theorem scheduleFlush_queue : service.scheduleFlush.queue = service.queue := by
  unfold TrackingService.scheduleFlush
  split <;> rfl

@[simp]
theorem scheduleFlush_flushScheduled : service.scheduleFlush.flushScheduled = true := by
  unfold TrackingService.scheduleFlush
  split
  · assumption
  · rfl

@[simp]
theorem scheduleFlush_flushInProgress :
    service.scheduleFlush.flushInProgress = service.flushInProgress := by
  unfold TrackingService.scheduleFlush
  split <;> rfl

@[simp]
theorem scheduleFlush_persisting : service.scheduleFlush.persisting = service.persisting := by
  unfold TrackingService.scheduleFlush
  split <;> rfl

@[simp]
theorem scheduleFlush_persisted : service.scheduleFlush.persisted = service.persisted := by
  unfold TrackingService.scheduleFlush
  split <;> rfl

@[simp]
theorem scheduleFlush_store : service.scheduleFlush.store = service.store := by
  unfold TrackingService.scheduleFlush
  split <;> rfl

theorem scheduleFlush_timers
    (timers : service.timers = if service.flushScheduled then 1 else 0) :
    service.scheduleFlush.timers = 1 := by
  unfold TrackingService.scheduleFlush
  split
  · rename_i scheduled
    rw [timers, if_pos scheduled]
  · rename_i unscheduled
    rw [if_neg unscheduled] at timers
    dsimp only
    omega

end ScheduleFlush

theorem scheduleFlush_sound {service : TrackingService}
    (timers : service.timers = if service.flushScheduled then 1 else 0)
    (flushing : service.persisting.length = if service.flushInProgress then 1 else 0)
    (bounded : service.queue.length ≤ maxInMemoryQueue) : service.scheduleFlush.Sound where
  timers := by simp [scheduleFlush_timers service timers]
  flushing := by simpa using flushing
  bounded := by simpa using bounded
  attended := by simp

theorem ingest_sound {service : TrackingService} (sound : service.Sound)
    (events : List TrackingEventItem) : (service.ingestEvents events).2.Sound := by
  have parts := acceptedBy_ingest service events
  rw [parts.2.2, parts.1]
  apply scheduleFlush_sound
  · exact sound.timers
  · exact sound.flushing
  · have room := sound.bounded
    simp only [List.length_append, List.length_take]
    omega

theorem timer_sound {service : TrackingService} (sound : service.Sound) (clock : Nat → Time)
    (now : Time) (pending : service.timers ≠ 0) :
    (({ service with timers := service.timers - 1 }).flushQueue clock now).Sound := by
  have timers := sound.timers
  have scheduled : service.flushScheduled = true := by
    by_contra unscheduled
    rw [if_neg unscheduled] at timers
    exact pending timers
  rw [if_pos scheduled] at timers
  unfold TrackingService.flushQueue
  dsimp only
  by_cases flushing : service.flushInProgress = true
  · rw [if_pos flushing]
    apply scheduleFlush_sound
    · simp [timers]
    · exact sound.flushing
    · exact sound.bounded
  · have idle := sound.flushing
    rw [if_neg flushing] at idle
    rw [if_neg flushing]
    by_cases nothing : service.queue = []
    · rw [if_pos nothing]
      exact ⟨by simp [timers], by simpa [flushing] using idle, by simp [nothing],
        fun waiting => absurd nothing waiting⟩
    · rw [if_neg nothing]
      exact ⟨by simp [timers], by simp [List.length_append, idle], Nat.zero_le _,
        fun waiting => absurd rfl waiting⟩

theorem finishFlush_sound {service : TrackingService}
    (timers : service.timers = if service.flushScheduled then 1 else 0)
    (settled : service.persisting.length = 0)
    (bounded : service.queue.length ≤ maxInMemoryQueue) : service.finishFlush.Sound := by
  unfold TrackingService.finishFlush
  dsimp only
  by_cases nothing : service.queue = []
  · rw [if_pos nothing]
    exact ⟨timers, by simpa using settled, bounded, fun waiting => absurd nothing waiting⟩
  · rw [if_neg nothing]
    exact scheduleFlush_sound timers (by simpa using settled) bounded

/-- At most one batch is being persisted, so the one which settles is that one. -/
theorem persisting_of_settled {service : TrackingService} (sound : service.Sound)
    {position : Nat} {flush : Flush} (waiting : service.persisting[position]? = some flush) :
    position = 0 ∧ service.persisting = [flush] := by
  have flushing := sound.flushing
  obtain ⟨within, found⟩ := List.getElem?_eq_some_iff.mp waiting
  have single : service.persisting.length = 1 := by
    split at flushing <;> omega
  obtain ⟨only, listed⟩ := List.length_eq_one_iff.mp single
  have first : position = 0 := by omega
  subst first
  simp only [listed, List.getElem_cons_zero] at found
  exact ⟨rfl, by rw [listed, found]⟩

variable (runtime : Runtime)

theorem step_sound {service : TrackingService} (sound : service.Sound) (callback : Callback) :
    ((queueMachine runtime).step service callback).Sound := by
  cases callback with
  | ingest events =>
      exact ingest_sound sound events
  | timer clock now =>
      dsimp only [queueMachine]
      by_cases none_pending : service.timers = 0
      · rw [if_pos none_pending]
        exact sound
      · rw [if_neg none_pending]
        exact timer_sound sound clock now none_pending
  | settled position success =>
      dsimp only [queueMachine]
      cases waiting : service.persisting[position]? with
      | none =>
          exact sound
      | some flush =>
          obtain ⟨rfl, only⟩ := persisting_of_settled sound waiting
          have settled : (service.persisting.eraseIdx 0).length = 0 := by simp [only]
          dsimp only
          by_cases succeeded : success = true
          · rw [if_pos succeeded]
            exact finishFlush_sound sound.timers settled sound.bounded
          · rw [if_neg succeeded]
            exact finishFlush_sound sound.timers settled sound.bounded

/-! ## Where the accepted events are -/

/-- The persisted events, those of the batch being persisted, and the queue. -/
def TrackingService.account (service : TrackingService) : List TrackingEventRecord :=
  arrivals service.persisted ++ arrivals service.persisting ++ service.queue

def Callback.Succeeds : Callback → Prop
  | .settled _ success => success = true
  | _ => True

theorem scheduleFlush_account (service : TrackingService) :
    service.scheduleFlush.account = service.account := by
  simp [TrackingService.account]

theorem finishFlush_account (service : TrackingService) :
    service.finishFlush.account = service.account := by
  unfold TrackingService.finishFlush
  dsimp only
  split
  · rfl
  · rw [scheduleFlush_account]
    rfl

theorem flushQueue_account (service : TrackingService) (clock : Nat → Time) (now : Time) :
    (service.flushQueue clock now).account = service.account := by
  unfold TrackingService.flushQueue
  dsimp only
  split
  · rw [scheduleFlush_account]
    rfl
  · split
    · rfl
    · simp [TrackingService.account, arrivals]

theorem step_account {service : TrackingService} (sound : service.Sound) {callback : Callback}
    (succeeds : callback.Succeeds) :
    ((queueMachine runtime).step service callback).account =
      service.account ++ acceptedBy service callback := by
  cases callback with
  | ingest events =>
      dsimp only [queueMachine]
      rw [(acceptedBy_ingest service events).2.2, scheduleFlush_account]
      simp [TrackingService.account]
  | timer clock now =>
      dsimp only [queueMachine, acceptedBy]
      rw [List.append_nil]
      by_cases none_pending : service.timers = 0
      · rw [if_pos none_pending]
      · rw [if_neg none_pending, flushQueue_account]
        rfl
  | settled position success =>
      dsimp only [queueMachine, acceptedBy]
      rw [List.append_nil]
      cases waiting : service.persisting[position]? with
      | none =>
          rfl
      | some flush =>
          obtain ⟨rfl, only⟩ := persisting_of_settled sound waiting
          have succeeded : success = true := succeeds
          dsimp only
          rw [if_pos succeeded, finishFlush_account]
          simp [TrackingService.account, arrivals, only]

theorem step_store {service : TrackingService} {store : TrackingStore}
    (stored : service.store = persistAll runtime store service.persisted)
    (callback : Callback) :
    ((queueMachine runtime).step service callback).store =
      persistAll runtime store ((queueMachine runtime).step service callback).persisted := by
  cases callback with
  | ingest events =>
      dsimp only [queueMachine]
      rw [(acceptedBy_ingest service events).2.2]
      simpa using stored
  | timer clock now =>
      dsimp only [queueMachine]
      split
      · exact stored
      · unfold TrackingService.flushQueue
        dsimp only
        split
        · simpa using stored
        · split <;> exact stored
  | settled position success =>
      dsimp only [queueMachine]
      cases service.persisting[position]? with
      | none =>
          exact stored
      | some flush =>
          have added : persistFlush runtime service.store flush =
              persistAll runtime store (service.persisted ++ [flush]) := by
            rw [stored, persistAll, persistAll, List.foldl_append]
            rfl
          dsimp only
          split
          · unfold TrackingService.finishFlush
            dsimp only
            split
            · exact added
            · simpa using added
          · unfold TrackingService.finishFlush
            dsimp only
            split
            · exact stored
            · simpa using stored

/-! ## Whole runs -/

theorem run_sound {service : TrackingService} (sound : service.Sound)
    (callbacks : List Callback) : ((queueMachine runtime).run service callbacks).Sound :=
  (queueMachine runtime).run_preserves TrackingService.Sound
    (fun _ callback holds => step_sound runtime holds callback) sound callbacks

theorem run_account {service : TrackingService} (sound : service.Sound)
    {callbacks : List Callback} (succeed : ∀ callback ∈ callbacks, callback.Succeeds) :
    ((queueMachine runtime).run service callbacks).account =
      service.account ++ acceptedIn runtime service callbacks := by
  induction callbacks generalizing service with
  | nil =>
      simp [acceptedIn]
  | cons callback rest inductionHypothesis =>
      have first := step_account runtime sound (succeed callback List.mem_cons_self)
      have later := inductionHypothesis (step_sound runtime sound callback)
        fun other member => succeed other (List.mem_cons_of_mem _ member)
      rw [Machine.run_cons, later, first, acceptedIn, List.append_assoc]

theorem run_store {service : TrackingService} {store : TrackingStore}
    (stored : service.store = persistAll runtime store service.persisted)
    (callbacks : List Callback) :
    ((queueMachine runtime).run service callbacks).store =
      persistAll runtime store ((queueMachine runtime).run service callbacks).persisted :=
  (queueMachine runtime).run_preserves
    (fun service => service.store = persistAll runtime store service.persisted)
    (fun _ callback holds => step_store runtime holds callback) stored callbacks

/-- In any interleaving: events are counted as accepted as they enter the queue; if
persistence succeeds, the accepted events are the persisted ones, those of the one batch
being persisted and the queue, each once; the queue and the number of batches being
persisted are bounded; and a queue with events in it has a flush scheduled or in
progress. -/
theorem queue_conserves (store : TrackingStore) (callbacks : List Callback) :
    (∀ service events, (TrackingService.ingestEvents service events).1.accepted =
        (acceptedBy service (.ingest events)).length) ∧
      ((∀ callback ∈ callbacks, callback.Succeeds) →
        acceptedIn runtime (.initial store) callbacks =
          arrivals ((queueMachine runtime).run (.initial store) callbacks).persisted ++
            arrivals ((queueMachine runtime).run (.initial store) callbacks).persisting ++
            ((queueMachine runtime).run (.initial store) callbacks).queue) ∧
      ((queueMachine runtime).run (.initial store) callbacks).store =
        persistAll runtime store
          ((queueMachine runtime).run (.initial store) callbacks).persisted ∧
      ((queueMachine runtime).run (.initial store) callbacks).queue.length ≤ 3000 ∧
      ((queueMachine runtime).run (.initial store) callbacks).persisting.length ≤ 1 ∧
      (((queueMachine runtime).run (.initial store) callbacks).queue ≠ [] →
        0 < ((queueMachine runtime).run (.initial store) callbacks).timers ∨
          ((queueMachine runtime).run (.initial store) callbacks).persisting ≠ []) := by
  have sound := run_sound runtime (initial_sound store) callbacks
  refine ⟨fun service events => (acceptedBy_ingest service events).2.1, ?_,
    run_store runtime rfl callbacks, sound.bounded, ?_, ?_⟩
  · intro succeed
    exact (run_account runtime (initial_sound store) succeed).symm
  · have flushing := sound.flushing
    split at flushing <;> omega
  · intro waiting
    have timers := sound.timers
    have flushing := sound.flushing
    cases sound.attended waiting with
    | inl scheduled =>
        rw [if_pos scheduled] at timers
        exact Or.inl (by omega)
    | inr in_progress =>
        rw [if_pos in_progress] at flushing
        exact Or.inr (List.ne_nil_of_length_pos (by omega))

end Tchuno.Tracking
