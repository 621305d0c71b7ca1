import Mathlib.Algebra.BigOperators.Group.List.Basic
import Tchuno.Web.Engagement

/-!
# The tracking queue of a page

`trackEvent` stamps an event, counts it, and leaves it in a queue which the next timer, or
the visitor leaving the page, empties in one batch.  A visitor who leaves with a job half
entered is reported once for each attempt.
-/

namespace Tchuno.Web

open Tchuno.Library Tchuno.Library.Ecma

/-! ## Events -/

inductive CtaSource where
  | landingHero
  | landingFinalCta
  | landingWorkerCard
  deriving DecidableEq

inductive JobPricingMode where
  | fixedPrice
  | quoteRequest
  deriving DecidableEq

inductive DropoffReason where
  | visibilityHidden
  | beforeUnload
  deriving DecidableEq

/-- The six events which tell how a page was laid out. -/
inductive HeuristicEvent where
  | marketplaceRanking | marketplaceHighlight | marketplaceCta
  | dashboardRanking | dashboardHighlight | dashboardCta
  deriving DecidableEq

/-- `TrackingEventMap`: the name of an event with its metadata, as far as it is read. -/
inductive TrackingPayload where
  | marketplaceCtaClick (source : CtaSource) (workerId : Option WorkerId)
  | marketplaceWorkerCardClick (workerId : WorkerId)
  | marketplaceSearchChange
  | marketplaceCategorySelect (categorySlug : Option String)
  | heuristicApply (heuristic : HeuristicEvent)
  | dashboardCtaClick (workerId : WorkerId)
  | dashboardWorkerCardClick (workerId : WorkerId)
  | jobCreateSubmit (pricingMode : JobPricingMode) (workerProfileId : WorkerId)
  | jobCreateStepChange (stepIndex : Nat) (stepLabel : String) (pricingMode : JobPricingMode)
  | jobCreateDropoffVisible (reason : DropoffReason) (highestStepIndex : Nat)
      (highestStepLabel : Option String) (pricingMode : Option JobPricingMode)
  deriving DecidableEq

/-- The event as `updateBehaviorAggregation` reads it. -/
def TrackingPayload.behavior : TrackingPayload → TrackingEvent
  | .marketplaceCtaClick _ workerId => .marketplaceCtaClick workerId
  | .marketplaceWorkerCardClick workerId => .marketplaceWorkerCardClick workerId
  | .marketplaceCategorySelect categorySlug => .marketplaceCategorySelect categorySlug
  | .dashboardCtaClick workerId => .dashboardCtaClick workerId
  | .dashboardWorkerCardClick workerId => .dashboardWorkerCardClick workerId
  | .jobCreateSubmit _ workerProfileId => .jobCreateSubmit workerProfileId
  | _ => .other

structure AnyTrackingEvent where
  payload : TrackingPayload
  timestamp : String
  sessionId : String
  sessionStartedAt : String
  eventIndex : Nat
  pagePath : Option String
  deriving DecidableEq

/-! ## The funnel -/

@[ext]
structure TrackingFunnelSummary where
  heroCtaClicks : Nat
  workerCardClicks : Nat
  categorySelects : Nat
  searchInteractions : Nat
  jobStepChanges : Nat
  jobCreateSubmits : Nat
  jobVisibleDropoffs : Nat
  maxJobStepReached : Nat
  deriving DecidableEq

def createEmptyFunnelSummary : TrackingFunnelSummary :=
  ⟨0, 0, 0, 0, 0, 0, 0, 0⟩

def summarizeEventInto (payload : TrackingPayload) (summary : TrackingFunnelSummary) :
    TrackingFunnelSummary :=
  match payload with
  | .marketplaceCtaClick source _ =>
      if source = .landingHero ∨ source = .landingFinalCta then
        { summary with heroCtaClicks := summary.heroCtaClicks + 1 }
      else
        summary
  | .marketplaceWorkerCardClick _ | .dashboardWorkerCardClick _ =>
      { summary with workerCardClicks := summary.workerCardClicks + 1 }
  | .marketplaceCategorySelect _ =>
      { summary with categorySelects := summary.categorySelects + 1 }
  | .marketplaceSearchChange =>
      { summary with searchInteractions := summary.searchInteractions + 1 }
  | .jobCreateStepChange stepIndex _ _ =>
      { summary with
        jobStepChanges := summary.jobStepChanges + 1
        maxJobStepReached := max summary.maxJobStepReached stepIndex }
  | .jobCreateSubmit _ _ =>
      { summary with jobCreateSubmits := summary.jobCreateSubmits + 1 }
  | .jobCreateDropoffVisible _ highestStepIndex _ _ =>
      { summary with
        jobVisibleDropoffs := summary.jobVisibleDropoffs + 1
        maxJobStepReached := max summary.maxJobStepReached highestStepIndex }
  | _ => summary

/-! ## The attempt to create a job -/

structure JobFlowSessionState where
  active : Bool
  submitted : Bool
  highestStepIndex : Nat
  highestStepLabel : Option String
  pricingMode : Option JobPricingMode
  visibleDropoffDetected : Bool
  deriving DecidableEq

def JobFlowSessionState.initial : JobFlowSessionState :=
  ⟨false, false, 0, none, none, false⟩

def updateJobFlowSessionState (payload : TrackingPayload) (flow : JobFlowSessionState) :
    JobFlowSessionState :=
  match payload with
  | .jobCreateStepChange stepIndex stepLabel pricingMode =>
      if flow.active = false ∨ flow.submitted = true then
        { active := true
          submitted := false
          visibleDropoffDetected := false
          highestStepIndex := stepIndex
          highestStepLabel := some stepLabel
          pricingMode := some pricingMode }
      else if flow.highestStepIndex ≤ stepIndex then
        { flow with
          highestStepIndex := stepIndex
          highestStepLabel := some stepLabel
          pricingMode := some pricingMode }
      else
        flow
  | .jobCreateSubmit pricingMode _ =>
      { flow with
        active := true
        submitted := true
        visibleDropoffDetected := false
        pricingMode := some pricingMode }
  | .jobCreateDropoffVisible _ highestStepIndex highestStepLabel pricingMode =>
      { active := true
        submitted := false
        visibleDropoffDetected := true
        highestStepIndex := highestStepIndex
        highestStepLabel := highestStepLabel
        pricingMode := pricingMode }
  | _ => flow

/-! ## The queue -/

/-- The variables of the module; `timers` are the callbacks of `setTimeout` which have not
run, `delivered` the batches that were given to the transport. -/
structure TrackingClient extends TrackingModule where
  sessionId : String
  sessionStartedAt : String
  eventQueue : List AnyTrackingEvent
  flushScheduled : Bool
  timers : Nat
  lifecycleHooksInitialized : Bool
  sessionFunnelSummary : TrackingFunnelSummary
  jobFlowSessionState : JobFlowSessionState
  delivered : List (List AnyTrackingEvent)

/-- The clock and the address bar. -/
structure Moment where
  iso : String
  now : Time
  pagePath : Option String

namespace TrackingClient

variable (client : TrackingClient)

def createTrackingEvent (payload : TrackingPayload) (moment : Moment) : AnyTrackingEvent where
  payload := payload
  timestamp := moment.iso
  sessionId := client.sessionId
  sessionStartedAt := client.sessionStartedAt
  eventIndex := client.sessionEventIndex + 1
  pagePath := moment.pagePath

/-- `createTrackingEvent` takes the index, and `applyEventToSessionState` counts the event. -/
def applyEventToSessionState (payload : TrackingPayload) (moment : Moment) : TrackingClient :=
  { client with
    toTrackingModule :=
      client.toTrackingModule.enqueueTrackingEvent payload.behavior moment.now
    sessionFunnelSummary := summarizeEventInto payload client.sessionFunnelSummary
    jobFlowSessionState := updateJobFlowSessionState payload client.jobFlowSessionState }

def scheduleTrackingFlush : TrackingClient :=
  if client.flushScheduled then client
  else { client with flushScheduled := true, timers := client.timers + 1 }

/-- The whole of `enqueueTrackingEvent`. -/
def enqueue (payload : TrackingPayload) (moment : Moment) : TrackingClient :=
  let event := client.createTrackingEvent payload moment
  let client := client.applyEventToSessionState payload moment
  { client with eventQueue := client.eventQueue ++ [event] }.scheduleTrackingFlush

/-- The batch is out of the queue before the transport is called, whatever that does. -/
def flushTrackingQueue : TrackingClient :=
  if client.eventQueue = [] then
    { client with flushScheduled := false }
  else
    { client with
      flushScheduled := false
      eventQueue := []
      delivered := client.delivered ++ [client.eventQueue] }

/-- The drop-off which is reported when the visitor leaves. -/
def visibleDropoff? (reason : DropoffReason) : Option TrackingPayload :=
  let flow := client.jobFlowSessionState
  if flow.active = true ∧ flow.submitted = false ∧ flow.visibleDropoffDetected = false then
    some (.jobCreateDropoffVisible reason flow.highestStepIndex flow.highestStepLabel
      flow.pricingMode)
  else
    none

def maybeTrackJobVisibleDropoff (reason : DropoffReason) (moment : Moment) : TrackingClient :=
  match client.visibleDropoff? reason with
  | none => client
  | some payload => client.enqueue payload moment

end TrackingClient

inductive TrackingCallback where
  | trackEvent (payload : TrackingPayload) (moment : Moment)
  | timer
  /-- the page is hidden or unloaded -/
  | leave (reason : DropoffReason) (moment : Moment)

/-- The hooks for leaving the page are installed with the first event. -/
def trackingMachine : Machine TrackingClient TrackingCallback where
  step client callback :=
    match callback with
    | .trackEvent payload moment =>
        { client with lifecycleHooksInitialized := true }.enqueue payload moment
    | .timer =>
        if client.timers = 0 then client
        else { client with timers := client.timers - 1 }.flushTrackingQueue
    | .leave reason moment =>
        if client.lifecycleHooksInitialized then
          (client.maybeTrackJobVisibleDropoff reason moment).flushTrackingQueue
        else
          client

/-- A page which has just been loaded. -/
def TrackingClient.fresh (storage : Option StoredPayload) (sessionId sessionStartedAt : String) :
    TrackingClient where
  toPage := Page.fresh storage
  sessionEventIndex := 0
  sharedWorkerBehaviorById := .empty
  sessionId := sessionId
  sessionStartedAt := sessionStartedAt
  eventQueue := []
  flushScheduled := false
  timers := 0
  lifecycleHooksInitialized := false
  sessionFunnelSummary := createEmptyFunnelSummary
  jobFlowSessionState := .initial
  delivered := []

/-- The events which a callback creates. -/
def createdBy (client : TrackingClient) : TrackingCallback → List AnyTrackingEvent
  | .trackEvent payload moment => [client.createTrackingEvent payload moment]
  | .timer => []
  | .leave reason moment =>
      if client.lifecycleHooksInitialized then
        (client.visibleDropoff? reason).toList.map fun payload =>
          client.createTrackingEvent payload moment
      else
        []

/-- The events of a run, in the order in which they happened. -/
def createdIn : TrackingClient → List TrackingCallback → List AnyTrackingEvent
  | _, [] => []
  | client, callback :: rest =>
      createdBy client callback ++ createdIn (trackingMachine.step client callback) rest

/-! ## The order of the events -/

/-- What the queue keeps to: every event that was created is in one batch or in the queue,
and a queue with events in it is going to be emptied. -/
structure TrackingClient.Keeps (client : TrackingClient) (created : List AnyTrackingEvent) :
    Prop where
  conserved : client.delivered.flatten ++ client.eventQueue = created
  indices : created.map AnyTrackingEvent.eventIndex = List.range' 1 created.length
  current : client.sessionEventIndex = created.length
  scheduled : client.eventQueue ≠ [] → client.flushScheduled = true
  attended : client.flushScheduled = true → 0 < client.timers

namespace TrackingClient

variable {client : TrackingClient} {created : List AnyTrackingEvent}

/-- Counting an event gives it the next index and touches neither queue nor timers. -/
theorem sessionEventIndex_apply (payload : TrackingPayload) (moment : Moment) :
    (client.applyEventToSessionState payload moment).sessionEventIndex =
      client.sessionEventIndex + 1 :=
  (TrackingModule.update_frame _ _ _ _).1

theorem sessionFunnelSummary_enqueue (payload : TrackingPayload) (moment : Moment) :
    (client.enqueue payload moment).sessionFunnelSummary =
      summarizeEventInto payload client.sessionFunnelSummary := by
  unfold TrackingClient.enqueue scheduleTrackingFlush
  dsimp only
  split_ifs <;> rfl

theorem jobFlowSessionState_enqueue (payload : TrackingPayload) (moment : Moment) :
    (client.enqueue payload moment).jobFlowSessionState =
      updateJobFlowSessionState payload client.jobFlowSessionState := by
  unfold TrackingClient.enqueue scheduleTrackingFlush
  dsimp only
  split_ifs <;> rfl

theorem lifecycleHooksInitialized_enqueue (payload : TrackingPayload) (moment : Moment) :
    (client.enqueue payload moment).lifecycleHooksInitialized =
      client.lifecycleHooksInitialized := by
  unfold TrackingClient.enqueue scheduleTrackingFlush
  dsimp only
  split_ifs <;> rfl

theorem sessionFunnelSummary_flush :
    client.flushTrackingQueue.sessionFunnelSummary = client.sessionFunnelSummary := by
  unfold flushTrackingQueue
  split_ifs <;> rfl

theorem jobFlowSessionState_flush :
    client.flushTrackingQueue.jobFlowSessionState = client.jobFlowSessionState := by
  unfold flushTrackingQueue
  split_ifs <;> rfl

theorem lifecycleHooksInitialized_flush :
    client.flushTrackingQueue.lifecycleHooksInitialized = client.lifecycleHooksInitialized := by
  unfold flushTrackingQueue
  split_ifs <;> rfl

theorem Keeps.enqueue (keeps : client.Keeps created) (payload : TrackingPayload)
    (moment : Moment) :
    (client.enqueue payload moment).Keeps
      (created ++ [client.createTrackingEvent payload moment]) := by
  have counted := @sessionEventIndex_apply client payload moment
  have joined : client.delivered.flatten ++
      (client.eventQueue ++ [client.createTrackingEvent payload moment]) =
        created ++ [client.createTrackingEvent payload moment] := by
    rw [← List.append_assoc, keeps.conserved]
  have indices : (created ++ [client.createTrackingEvent payload moment]).map
      AnyTrackingEvent.eventIndex =
        List.range' 1 (created ++ [client.createTrackingEvent payload moment]).length := by
    rw [List.map_append, keeps.indices, List.length_append, List.length_singleton,
      List.range'_1_concat, createTrackingEvent, keeps.current]
    simp [Nat.add_comm]
  unfold TrackingClient.enqueue scheduleTrackingFlush
  dsimp only
  split_ifs with scheduled
  · refine ⟨joined, indices, ?_, fun _ => scheduled, keeps.attended⟩
    simpa [keeps.current] using counted
  · refine ⟨joined, indices, ?_, fun _ => rfl, fun _ => Nat.succ_pos _⟩
    simpa [keeps.current] using counted

/-- The timer that has run may have been the one which the flag stands for. -/
theorem Keeps.flush (keeps : client.Keeps created) (timers : Nat) :
    ({ client with timers := timers }.flushTrackingQueue).Keeps created := by
  unfold flushTrackingQueue
  dsimp only
  split_ifs with empty
  · exact ⟨keeps.conserved, keeps.indices, keeps.current, fun waiting => absurd empty waiting,
      nofun⟩
  · refine ⟨?_, keeps.indices, keeps.current, fun waiting => absurd rfl waiting, nofun⟩
    rw [List.flatten_append, List.append_nil, List.flatten_singleton, keeps.conserved]

/-- A step creates its events after the earlier ones. -/
theorem Keeps.step (keeps : client.Keeps created) (callback : TrackingCallback) :
    (trackingMachine.step client callback).Keeps (created ++ createdBy client callback) := by
  cases callback with
  | trackEvent payload moment =>
      have hooked : ({ client with lifecycleHooksInitialized := true }).Keeps created :=
        ⟨keeps.conserved, keeps.indices, keeps.current, keeps.scheduled, keeps.attended⟩
      exact hooked.enqueue payload moment
  | timer =>
      rw [createdBy, List.append_nil, trackingMachine]
      dsimp only
      split_ifs
      · exact keeps
      · exact keeps.flush _
  | leave reason moment =>
      simp only [createdBy, trackingMachine]
      split_ifs
      · rw [maybeTrackJobVisibleDropoff]
        cases client.visibleDropoff? reason with
        | none =>
            rw [Option.toList_none, List.map_nil, List.append_nil]
            exact keeps.flush client.timers
        | some payload =>
            exact (keeps.enqueue payload moment).flush _
      · rw [List.append_nil]
        exact keeps

theorem keeps_fresh (storage : Option StoredPayload) (sessionId sessionStartedAt : String) :
    (fresh storage sessionId sessionStartedAt).Keeps [] :=
  ⟨rfl, rfl, rfl, fun waiting => absurd rfl waiting, nofun⟩

/-- What the accepted steps preserve for the events so far, a run of them preserves. -/
theorem run_created_of {kept : TrackingClient → List AnyTrackingEvent → Prop}
    {accepted : TrackingCallback → Prop}
    (step : ∀ client created callback, accepted callback → kept client created →
      kept (trackingMachine.step client callback) (created ++ createdBy client callback))
    (holds : kept client created) (callbacks : List TrackingCallback)
    (each : ∀ callback ∈ callbacks, accepted callback) :
    kept (trackingMachine.run client callbacks) (created ++ createdIn client callbacks) := by
  induction callbacks generalizing client created with
  | nil =>
      rw [createdIn, List.append_nil]
      exact holds
  | cons callback rest inductionHypothesis =>
      rw [createdIn, ← List.append_assoc]
      exact inductionHypothesis
        (step client created callback (each callback List.mem_cons_self) holds)
        fun later member => each later (List.mem_cons_of_mem _ member)

theorem run_created {kept : TrackingClient → List AnyTrackingEvent → Prop}
    (step : ∀ client created callback, kept client created →
      kept (trackingMachine.step client callback) (created ++ createdBy client callback))
    (holds : kept client created) (callbacks : List TrackingCallback) :
    kept (trackingMachine.run client callbacks) (created ++ createdIn client callbacks) :=
  @run_created_of _ _ kept (fun _ => True)
    (fun client created callback _ => step client created callback) holds callbacks
    fun _ _ => trivial

end TrackingClient

/-! ## The funnel of the session -/

namespace TrackingFunnelSummary

instance : Zero TrackingFunnelSummary := ⟨createEmptyFunnelSummary⟩

/-- The counts of two parts, and the highest step of either. -/
instance : Add TrackingFunnelSummary where
  add left right :=
    { heroCtaClicks := left.heroCtaClicks + right.heroCtaClicks
      workerCardClicks := left.workerCardClicks + right.workerCardClicks
      categorySelects := left.categorySelects + right.categorySelects
      searchInteractions := left.searchInteractions + right.searchInteractions
      jobStepChanges := left.jobStepChanges + right.jobStepChanges
      jobCreateSubmits := left.jobCreateSubmits + right.jobCreateSubmits
      jobVisibleDropoffs := left.jobVisibleDropoffs + right.jobVisibleDropoffs
      maxJobStepReached := max left.maxJobStepReached right.maxJobStepReached }

theorem zero_def : (0 : TrackingFunnelSummary) = ⟨0, 0, 0, 0, 0, 0, 0, 0⟩ := rfl

theorem add_def (left right : TrackingFunnelSummary) :
    left + right =
      ⟨left.heroCtaClicks + right.heroCtaClicks,
        left.workerCardClicks + right.workerCardClicks,
        left.categorySelects + right.categorySelects,
        left.searchInteractions + right.searchInteractions,
        left.jobStepChanges + right.jobStepChanges,
        left.jobCreateSubmits + right.jobCreateSubmits,
        left.jobVisibleDropoffs + right.jobVisibleDropoffs,
        max left.maxJobStepReached right.maxJobStepReached⟩ := rfl

instance : AddCommMonoid TrackingFunnelSummary where
  add_assoc first second third := by
    simp only [add_def, Nat.add_assoc, Nat.max_assoc]
  zero_add summary := by
    simp [add_def, zero_def]
  add_zero summary := by
    simp [add_def, zero_def]
  add_comm left right := by
    simp only [add_def, Nat.add_comm, Nat.max_comm]
  nsmul := nsmulRec

end TrackingFunnelSummary

/-- What one event adds to a summary. -/
def TrackingPayload.funnel (payload : TrackingPayload) : TrackingFunnelSummary :=
  summarizeEventInto payload 0

theorem summarizeEventInto_eq (payload : TrackingPayload) (summary : TrackingFunnelSummary) :
    summarizeEventInto payload summary = summary + payload.funnel := by
  cases payload <;>
    simp only [summarizeEventInto, TrackingPayload.funnel, TrackingFunnelSummary.add_def,
      TrackingFunnelSummary.zero_def] <;>
    (try split_ifs) <;> simp

/-- The summary of some events. -/
def funnelOf (events : List AnyTrackingEvent) : TrackingFunnelSummary :=
  (events.map fun event => event.payload.funnel).sum

/-- Events in two parts have the summaries of the parts. -/
theorem funnelOf_append (first second : List AnyTrackingEvent) :
    funnelOf (first ++ second) = funnelOf first + funnelOf second := by
  simp [funnelOf]

theorem funnelOf_flatten (batches : List (List AnyTrackingEvent)) :
    funnelOf batches.flatten = (batches.map funnelOf).sum := by
  induction batches with
  | nil =>
      rfl
  | cons batch rest inductionHypothesis =>
      rw [List.flatten_cons, funnelOf_append, inductionHypothesis, List.map_cons, List.sum_cons]

theorem TrackingClient.funnel_step (client : TrackingClient) (created : List AnyTrackingEvent)
    (callback : TrackingCallback)
    (counted : client.sessionFunnelSummary = funnelOf created) :
    (trackingMachine.step client callback).sessionFunnelSummary =
      funnelOf (created ++ createdBy client callback) := by
  have enqueued : ∀ (hooked : TrackingClient) payload moment,
      hooked.sessionFunnelSummary = funnelOf created →
        (hooked.enqueue payload moment).sessionFunnelSummary =
          funnelOf (created ++ [hooked.createTrackingEvent payload moment]) := by
    intro hooked payload moment same
    rw [funnelOf_append, ← same, TrackingClient.sessionFunnelSummary_enqueue,
      summarizeEventInto_eq]
    simp [funnelOf, TrackingClient.createTrackingEvent]
  cases callback with
  | trackEvent payload moment =>
      exact enqueued _ payload moment counted
  | timer =>
      rw [createdBy, List.append_nil, ← counted, trackingMachine]
      dsimp only
      split_ifs
      · rfl
      · exact TrackingClient.sessionFunnelSummary_flush
  | leave reason moment =>
      simp only [createdBy, trackingMachine]
      split_ifs
      · rw [TrackingClient.sessionFunnelSummary_flush, TrackingClient.maybeTrackJobVisibleDropoff]
        cases client.visibleDropoff? reason with
        | none =>
            rw [Option.toList_none, List.map_nil, List.append_nil]
            exact counted
        | some payload =>
            exact enqueued client payload moment counted
      · rw [List.append_nil]
        exact counted

/-- In any run of a page: the batches and the queue are the events that were created, in
their order and with consecutive indices; while an event waits, a timer is going to deliver
it; and the funnel of the session is what the batches and the queue add up to. -/
theorem tracking_conserves (storage : Option StoredPayload) (sessionId sessionStartedAt : String)
    (callbacks : List TrackingCallback) :
    let client := trackingMachine.run (.fresh storage sessionId sessionStartedAt) callbacks
    client.Keeps (createdIn (.fresh storage sessionId sessionStartedAt) callbacks) ∧
      client.sessionFunnelSummary =
        (client.delivered.map funnelOf).sum + funnelOf client.eventQueue := by
  intro client
  have keeps := @TrackingClient.run_created _ _ TrackingClient.Keeps
    (fun _ _ callback keeps => keeps.step callback)
    (TrackingClient.keeps_fresh storage sessionId sessionStartedAt) callbacks
  have counted := @TrackingClient.run_created (.fresh storage sessionId sessionStartedAt) []
    (fun client created => client.sessionFunnelSummary = funnelOf created)
    TrackingClient.funnel_step rfl callbacks
  rw [List.nil_append] at keeps counted
  refine ⟨keeps, ?_⟩
  rw [counted, ← keeps.conserved, funnelOf_append, funnelOf_flatten]

/-! ## Visible drop-offs -/

structure JobStep where
  index : Nat
  label : String
  pricingMode : JobPricingMode
  deriving DecidableEq

def TrackingPayload.step? : TrackingPayload → Option JobStep
  | .jobCreateStepChange stepIndex stepLabel pricingMode =>
      some ⟨stepIndex, stepLabel, pricingMode⟩
  | _ => none

def TrackingPayload.isSubmit : TrackingPayload → Bool
  | .jobCreateSubmit _ _ => true
  | _ => false

def TrackingPayload.isDropoff : TrackingPayload → Bool
  | .jobCreateDropoffVisible _ _ _ _ => true
  | _ => false

/-- What happened since the last job was submitted. -/
def attemptOf (payloads : List TrackingPayload) : List TrackingPayload :=
  (payloads.reverse.takeWhile fun payload => !payload.isSubmit).reverse

def stepsOf (attempt : List TrackingPayload) : List JobStep :=
  attempt.filterMap TrackingPayload.step?

/-- The last of the steps which got furthest. -/
def IsHighest (steps : List JobStep) (highest : JobStep) : Prop :=
  ∃ before after, steps = before ++ highest :: after ∧
    (∀ step ∈ before, step.index ≤ highest.index) ∧
    ∀ step ∈ after, step.index < highest.index

theorem attemptOf_append (payloads : List TrackingPayload) (payload : TrackingPayload) :
    attemptOf (payloads ++ [payload]) =
      if payload.isSubmit then [] else attemptOf payloads ++ [payload] := by
  rw [attemptOf, attemptOf, List.reverse_append, List.reverse_singleton, List.singleton_append,
    List.takeWhile_cons]
  cases payload.isSubmit <;> simp

theorem isHighest_singleton (step : JobStep) : IsHighest [step] step :=
  ⟨[], [], rfl, nofun, nofun⟩

/-- A step as far as any before it takes its place. -/
theorem IsHighest.replace {steps : List JobStep} {highest step : JobStep}
    (isHighest : IsHighest steps highest) (further : highest.index ≤ step.index) :
    IsHighest (steps ++ [step]) step := by
  obtain ⟨before, after, rfl, least, less⟩ := isHighest
  refine ⟨before ++ highest :: after, [], rfl, ?_, nofun⟩
  intro earlier member
  rcases List.mem_append.mp member with early | late
  · exact (least earlier early).trans further
  · rcases List.mem_cons.mp late with rfl | later
    · exact further
    · exact (less earlier later).le.trans further

theorem IsHighest.keep {steps : List JobStep} {highest step : JobStep}
    (isHighest : IsHighest steps highest) (back : step.index < highest.index) :
    IsHighest (steps ++ [step]) highest := by
  obtain ⟨before, after, rfl, least, less⟩ := isHighest
  refine ⟨before, after ++ [step], by simp, least, ?_⟩
  intro later member
  rcases List.mem_append.mp member with known | added
  · exact less later known
  · obtain rfl := List.mem_singleton.mp added
    exact back

/-- The flow of a page tells of the current attempt. -/
structure JobFlowSessionState.Follows (flow : JobFlowSessionState)
    (attempt : List TrackingPayload) : Prop where
  idle : stepsOf attempt = [] → (flow.active = false ∨ flow.submitted = true) ∧
    ∀ payload ∈ attempt, payload.isDropoff = false
  running : stepsOf attempt ≠ [] → flow.active = true ∧ flow.submitted = false ∧
    ∃ highest, IsHighest (stepsOf attempt) highest ∧
      flow.highestStepIndex = highest.index ∧ flow.highestStepLabel = some highest.label ∧
      flow.pricingMode = some highest.pricingMode
  detected : stepsOf attempt ≠ [] →
    flow.visibleDropoffDetected = attempt.any TrackingPayload.isDropoff
  once : attempt.countP TrackingPayload.isDropoff ≤ 1

section Flow

variable {flow : JobFlowSessionState} {attempt : List TrackingPayload}

theorem stepsOf_append (attempt : List TrackingPayload) (payload : TrackingPayload) :
    stepsOf (attempt ++ [payload]) = stepsOf attempt ++ payload.step?.toList := by
  rw [stepsOf, List.filterMap_append]
  cases taken : payload.step? <;> simp [stepsOf, taken]

theorem JobFlowSessionState.Follows.begun (follows : flow.Follows attempt)
    (active : flow.active = true) (going : flow.submitted = false) : stepsOf attempt ≠ [] := by
  intro none
  rcases (follows.idle none).1 with inactive | submitted
  · rw [active] at inactive
    cases inactive
  · rw [going] at submitted
    cases submitted

/-- An event which is neither a step nor a drop-off is none of the flow's business. -/
theorem JobFlowSessionState.Follows.pass (follows : flow.Follows attempt)
    {payload : TrackingPayload} (noStep : payload.step? = none)
    (noDropoff : payload.isDropoff = false) : flow.Follows (attempt ++ [payload]) := by
  have same : stepsOf (attempt ++ [payload]) = stepsOf attempt := by
    rw [stepsOf_append, noStep, Option.toList_none, List.append_nil]
  refine ⟨?_, ?_, ?_, ?_⟩
  · intro none
    obtain ⟨closed, quiet⟩ := follows.idle (same ▸ none)
    refine ⟨closed, fun earlier member => ?_⟩
    rcases List.mem_append.mp member with known | added
    · exact quiet earlier known
    · obtain rfl := List.mem_singleton.mp added
      exact noDropoff
  · rw [same]
    exact follows.running
  · intro some
    rw [same] at some
    rw [follows.detected some, List.any_append]
    simp [noDropoff]
  · rw [List.countP_append]
    simpa [noDropoff] using follows.once

theorem JobFlowSessionState.Follows.step (follows : flow.Follows attempt)
    (stepIndex : Nat) (stepLabel : String) (pricingMode : JobPricingMode) :
    (updateJobFlowSessionState (.jobCreateStepChange stepIndex stepLabel pricingMode)
      flow).Follows (attempt ++ [.jobCreateStepChange stepIndex stepLabel pricingMode]) := by
  have steps : stepsOf (attempt ++ [.jobCreateStepChange stepIndex stepLabel pricingMode]) =
      stepsOf attempt ++ [⟨stepIndex, stepLabel, pricingMode⟩] := by
    rw [stepsOf_append]
    rfl
  have some : stepsOf (attempt ++ [.jobCreateStepChange stepIndex stepLabel pricingMode]) ≠
      [] := by
    rw [steps]
    simp
  have noDropoff : TrackingPayload.isDropoff
      (.jobCreateStepChange stepIndex stepLabel pricingMode) = false := rfl
  have once : List.countP TrackingPayload.isDropoff
      (attempt ++ [.jobCreateStepChange stepIndex stepLabel pricingMode]) ≤ 1 := by
    rw [List.countP_append]
    simpa [noDropoff] using follows.once
  have dropoffs : List.any
      (attempt ++ [.jobCreateStepChange stepIndex stepLabel pricingMode])
      TrackingPayload.isDropoff = attempt.any TrackingPayload.isDropoff := by
    simp [noDropoff]
  by_cases first : stepsOf attempt = []
  · obtain ⟨closed, quiet⟩ := follows.idle first
    rw [updateJobFlowSessionState, if_pos closed]
    refine ⟨fun none => absurd none some, fun _ => ⟨rfl, rfl,
      ⟨stepIndex, stepLabel, pricingMode⟩, ?_, rfl, rfl, rfl⟩, ?_, once⟩
    · rw [steps, first]
      exact isHighest_singleton _
    · intro _
      rw [dropoffs]
      simpa using quiet
  · obtain ⟨active, going, highest, isHighest, index, label, pricing⟩ := follows.running first
    have detected := follows.detected first
    have going : ¬ (flow.active = false ∨ flow.submitted = true) := by
      rw [active, going]
      decide
    rw [updateJobFlowSessionState, if_neg going]
    split_ifs with further
    · refine ⟨fun none => absurd none some, fun _ => ⟨active, ?_,
        ⟨stepIndex, stepLabel, pricingMode⟩, ?_, rfl, rfl, rfl⟩, ?_, once⟩
      · simpa using fun submitted => going (.inr submitted)
      · rw [steps]
        exact isHighest.replace (index ▸ further)
      · intro _
        rw [dropoffs]
        exact detected
    · refine ⟨fun none => absurd none some, fun _ => ⟨active, ?_, highest, ?_, index, label,
        pricing⟩, ?_, once⟩
      · simpa using fun submitted => going (.inr submitted)
      · rw [steps]
        exact isHighest.keep (index ▸ not_le.mp further)
      · intro _
        rw [dropoffs]
        exact detected

/-- The attempt is reported as the flow has it. -/
theorem JobFlowSessionState.Follows.dropoff {client : TrackingClient}
    (follows : client.jobFlowSessionState.Follows attempt) {reason : DropoffReason}
    {payload : TrackingPayload} (report : client.visibleDropoff? reason = some payload) :
    (updateJobFlowSessionState payload client.jobFlowSessionState).Follows
      (if payload.isSubmit then [] else attempt ++ [payload]) := by
  simp only [TrackingClient.visibleDropoff?] at report
  split_ifs at report with isOpen
  obtain ⟨active, going, undetected⟩ := isOpen
  obtain rfl := Option.some.inj report
  have some := follows.begun active going
  rw [follows.detected some] at undetected
  rw [if_neg nofun]
  have same : stepsOf (attempt ++ [.jobCreateDropoffVisible reason
      client.jobFlowSessionState.highestStepIndex client.jobFlowSessionState.highestStepLabel
      client.jobFlowSessionState.pricingMode]) = stepsOf attempt := by
    rw [stepsOf_append]
    exact List.append_nil _
  obtain ⟨_, _, found⟩ := follows.running some
  refine ⟨fun none => absurd (same ▸ none) some, fun _ => ⟨rfl, rfl, ?_⟩, fun _ => ?_, ?_⟩
  · rw [same]
    exact found
  · simp [updateJobFlowSessionState, TrackingPayload.isDropoff]
  · have none : attempt.countP TrackingPayload.isDropoff = 0 := by
      rw [List.countP_eq_zero]
      simpa using undetected
    rw [List.countP_append, none, Nat.zero_add]
    exact List.countP_le_length

theorem JobFlowSessionState.Follows.submit (flow : JobFlowSessionState)
    (pricingMode : JobPricingMode) (workerProfileId : WorkerId) :
    (updateJobFlowSessionState (.jobCreateSubmit pricingMode workerProfileId) flow).Follows
      [] :=
  ⟨fun _ => ⟨.inr rfl, nofun⟩, fun some => absurd rfl some, fun some => absurd rfl some,
    Nat.zero_le 1⟩

end Flow

/-- What a page reports when the visitor leaves: the highest step of an attempt which was
begun and for which nothing was reported. -/
structure Reports (attempt : List TrackingPayload) (reason : DropoffReason)
    (report : Option TrackingPayload) : Prop where
  reported : ∀ payload ∈ report, attempt.countP TrackingPayload.isDropoff = 0 ∧
    ∃ highest, IsHighest (stepsOf attempt) highest ∧
      payload = .jobCreateDropoffVisible reason highest.index (some highest.label)
        (some highest.pricingMode)
  due : stepsOf attempt ≠ [] → attempt.countP TrackingPayload.isDropoff = 0 →
    report.isSome = true

namespace TrackingClient

variable {client : TrackingClient}

theorem reports_visibleDropoff {attempt : List TrackingPayload}
    (follows : client.jobFlowSessionState.Follows attempt) (reason : DropoffReason) :
    Reports attempt reason (client.visibleDropoff? reason) := by
  have quiet : attempt.any TrackingPayload.isDropoff = false ↔
      attempt.countP TrackingPayload.isDropoff = 0 := by
    rw [List.countP_eq_zero]
    simp
  constructor
  · intro payload report
    simp only [visibleDropoff?, Option.mem_def] at report
    split_ifs at report with open_
    obtain ⟨active, going, undetected⟩ := open_
    have some := follows.begun active going
    obtain ⟨_, _, highest, isHighest, index, label, pricing⟩ := follows.running some
    rw [follows.detected some] at undetected
    refine ⟨quiet.mp undetected, highest, isHighest, ?_⟩
    rw [← Option.some.inj report, index, label, pricing]
  · intro some none
    obtain ⟨active, going, _⟩ := follows.running some
    have undetected := (follows.detected some).trans (quiet.mpr none)
    simp [visibleDropoff?, active, going, undetected]

end TrackingClient

/-- The page itself never tracks a drop-off; `maybeTrackJobVisibleDropoff` does. -/
def TrackingCallback.isOwn : TrackingCallback → Bool
  | .trackEvent payload _ => !payload.isDropoff
  | _ => true

/-- The flow follows the current attempt, and the hooks are there once there are events. -/
structure TrackingClient.FollowsFlow (client : TrackingClient)
    (created : List AnyTrackingEvent) : Prop where
  flow : client.jobFlowSessionState.Follows
    (attemptOf (created.map AnyTrackingEvent.payload))
  hooked : created ≠ [] → client.lifecycleHooksInitialized = true

namespace TrackingClient

variable {client : TrackingClient} {created : List AnyTrackingEvent}

theorem FollowsFlow.enqueue (follows : client.FollowsFlow created)
    (hooked : client.lifecycleHooksInitialized = true) {payload : TrackingPayload}
    (own : payload.isDropoff = false ∨ ∃ reason, client.visibleDropoff? reason = some payload)
    (moment : Moment) :
    (client.enqueue payload moment).FollowsFlow
      (created ++ [client.createTrackingEvent payload moment]) := by
  refine ⟨?_, fun _ => by rw [lifecycleHooksInitialized_enqueue, hooked]⟩
  have flow := follows.flow
  rw [jobFlowSessionState_enqueue, List.map_append, List.map_singleton,
    show (client.createTrackingEvent payload moment).payload = payload from rfl,
    attemptOf_append]
  generalize attemptOf (created.map AnyTrackingEvent.payload) = attempt at flow
  cases payload with
  | jobCreateStepChange stepIndex stepLabel pricingMode =>
      exact flow.step stepIndex stepLabel pricingMode
  | jobCreateSubmit pricingMode workerProfileId =>
      exact .submit _ pricingMode workerProfileId
  | jobCreateDropoffVisible reason highestStepIndex highestStepLabel pricingMode =>
      obtain ⟨reason, report⟩ := own.resolve_left nofun
      exact flow.dropoff report
  | _ =>
      exact flow.pass rfl rfl

theorem FollowsFlow.flush (follows : client.FollowsFlow created) (timers : Nat) :
    ({ client with timers := timers }.flushTrackingQueue).FollowsFlow created := by
  refine ⟨?_, fun some => ?_⟩
  · rw [jobFlowSessionState_flush]
    exact follows.flow
  · rw [lifecycleHooksInitialized_flush]
    exact follows.hooked some

theorem FollowsFlow.step (follows : client.FollowsFlow created) {callback : TrackingCallback}
    (own : callback.isOwn = true) :
    (trackingMachine.step client callback).FollowsFlow
      (created ++ createdBy client callback) := by
  cases callback with
  | trackEvent payload moment =>
      have hooked : ({ client with lifecycleHooksInitialized := true }).FollowsFlow created :=
        ⟨follows.flow, fun _ => rfl⟩
      refine hooked.enqueue rfl (.inl ?_) moment
      simpa [TrackingCallback.isOwn] using own
  | timer =>
      rw [createdBy, List.append_nil, trackingMachine]
      dsimp only
      split_ifs
      · exact follows
      · exact follows.flush _
  | leave reason moment =>
      simp only [createdBy, trackingMachine]
      split_ifs with hooked
      · rw [maybeTrackJobVisibleDropoff]
        cases report : client.visibleDropoff? reason with
        | none =>
            rw [Option.toList_none, List.map_nil, List.append_nil]
            exact follows.flush client.timers
        | some payload =>
            exact (follows.enqueue hooked (.inr ⟨reason, report⟩) moment).flush _
      · rw [List.append_nil]
        exact follows

theorem followsFlow_fresh (storage : Option StoredPayload)
    (sessionId sessionStartedAt : String) :
    (fresh storage sessionId sessionStartedAt).FollowsFlow [] where
  flow := ⟨fun _ => ⟨.inl rfl, nofun⟩, fun some => absurd rfl some, fun some => absurd rfl some,
    Nat.zero_le 1⟩
  hooked some := absurd rfl some

end TrackingClient

/-- After any run of a page: a visitor who leaves is reported at the highest step of the
current attempt to create a job, if there is one and it was not reported; and an attempt is
never reported twice. -/
theorem visible_dropoffs (storage : Option StoredPayload) (sessionId sessionStartedAt : String)
    (callbacks : List TrackingCallback) (own : ∀ callback ∈ callbacks, callback.isOwn = true)
    (reason : DropoffReason) (moment : Moment) :
    let start := TrackingClient.fresh storage sessionId sessionStartedAt
    let attempt := attemptOf ((createdIn start callbacks).map AnyTrackingEvent.payload)
    attempt.countP TrackingPayload.isDropoff ≤ 1 ∧
      Reports attempt reason
        ((createdBy (trackingMachine.run start callbacks) (.leave reason moment)).head?.map
          AnyTrackingEvent.payload) := by
  intro start attempt
  have follows := @TrackingClient.run_created_of _ _ TrackingClient.FollowsFlow _
    (fun _ _ _ own follows => follows.step own)
    (TrackingClient.followsFlow_fresh storage sessionId sessionStartedAt) callbacks own
  rw [List.nil_append] at follows
  refine ⟨follows.flow.once, ?_⟩
  have reports := TrackingClient.reports_visibleDropoff follows.flow reason
  rw [createdBy]
  split_ifs with hooked
  · cases report : (trackingMachine.run start callbacks).visibleDropoff? reason with
    | none =>
        rw [report] at reports
        exact reports
    | some payload =>
        rw [report] at reports
        exact reports
  · have none : createdIn start callbacks = [] := by
      by_contra some
      exact hooked (follows.hooked some)
    refine ⟨nofun, fun some => absurd ?_ some⟩
    rw [show attempt = attemptOf [] from congrArg (fun events =>
      attemptOf (events.map AnyTrackingEvent.payload)) none]
    rfl

section Sample

/-- The visitor goes back a step, leaves, returns and leaves again. -/
def sampleVisit : List TrackingCallback :=
  [.trackEvent (.jobCreateStepChange 1 "category" .fixedPrice) ⟨"t1", 1, none⟩,
    .trackEvent (.jobCreateStepChange 3 "budget" .quoteRequest) ⟨"t2", 2, none⟩,
    .timer,
    .trackEvent (.jobCreateStepChange 2 "details" .fixedPrice) ⟨"t3", 3, none⟩,
    .leave .visibilityHidden ⟨"t4", 4, none⟩,
    .trackEvent (.jobCreateStepChange 3 "budget" .fixedPrice) ⟨"t5", 5, none⟩]

theorem sampleVisit_reported :
    let start := TrackingClient.fresh none "session" "t0"
    let attempt := attemptOf ((createdIn start sampleVisit).map AnyTrackingEvent.payload)
    attempt.countP TrackingPayload.isDropoff ≤ 1 ∧
      Reports attempt .beforeUnload
        ((createdBy (trackingMachine.run start sampleVisit)
          (.leave .beforeUnload ⟨"t6", 6, none⟩)).head?.map AnyTrackingEvent.payload) :=
  visible_dropoffs none "session" "t0" sampleVisit (by decide) .beforeUnload ⟨"t6", 6, none⟩

end Sample

end Tchuno.Web
