import Tchuno.Web.Relevance

/-!
# Engagement and relevance

An event which is recorded for a worker adds to its counts and makes the session recent
again; for everybody else it only lets the session age.
-/

namespace Tchuno.Web

open Tchuno.Library Tchuno.Library.Ecma

/-! ## Aggregates of a run -/

/-- The totals are up to date, and only a worker with interactions has a last one. -/
structure WorkerBehaviorAggregate.Settled (workerStats : WorkerBehaviorAggregate) : Prop where
  totals : workerStats.totals = workerStats.session + workerStats.historical
  interacted : 0 < workerStats.lastInteractionEventIndex → 0 < workerStats.totals.interactions

namespace WorkerBehaviorAggregate

variable {workerStats : WorkerBehaviorAggregate}

theorem settled_empty : empty.Settled where
  totals := rfl
  interacted := fun later => absurd later (Nat.lt_irrefl 0)

theorem settled_countClick (eventIndex : Nat) : (workerStats.countClick eventIndex).Settled where
  totals := rfl
  interacted := by
    intro _
    change 0 < workerStats.session.interactions + 1 + workerStats.historical.interactions
    omega

theorem settled_countCtaClick (eventIndex : Nat) :
    (workerStats.countCtaClick eventIndex).Settled where
  totals := rfl
  interacted := by
    intro _
    change 0 < workerStats.session.interactions + 1 + workerStats.historical.interactions
    omega

theorem settled_countConversion (settled : workerStats.Settled)
    (known : workerStats.totals.interactions ≠ 0) (eventIndex : Nat) :
    (workerStats.countConversion eventIndex).Settled where
  totals := rfl
  interacted := by
    intro _
    rw [settled.totals] at known
    exact Nat.pos_of_ne_zero known

theorem settled_hydrated (settled : workerStats.Settled) {historical : BehaviorCounts}
    (lastUpdatedAt : Option Time) :
    (syncWorkerBehaviorTotals
      { workerStats with
        historical := workerStats.historical + historical
        historyLastUpdatedAt := lastUpdatedAt }).Settled where
  totals := rfl
  interacted := by
    intro later
    have before := settled.interacted later
    rw [settled.totals] at before
    change 0 < workerStats.session.interactions +
      (workerStats.historical.interactions + historical.interactions)
    have total : 0 < workerStats.session.interactions + workerStats.historical.interactions :=
      before
    omega

/-- What recording an event does to the aggregate of its worker. -/
inductive Counted (eventIndex : Nat) (before : WorkerBehaviorAggregate) :
    WorkerBehaviorAggregate → Prop
  | click : Counted eventIndex before (before.countClick eventIndex)
  | ctaClick : Counted eventIndex before (before.countCtaClick eventIndex)
  | conversion (known : before.totals.interactions ≠ 0) :
      Counted eventIndex before (before.countConversion eventIndex)
  | ignored (unknown : before.totals.interactions = 0) : Counted eventIndex before before

theorem Counted.settled {eventIndex : Nat} {before after : WorkerBehaviorAggregate}
    (counted : Counted eventIndex before after) (settled : before.Settled) : after.Settled := by
  cases counted with
  | click =>
      exact settled_countClick eventIndex
  | ctaClick =>
      exact settled_countCtaClick eventIndex
  | conversion known =>
      exact settled_countConversion settled known eventIndex
  | ignored _ =>
      exact settled

/-- Recording leaves the history alone. -/
theorem Counted.history {eventIndex : Nat} {before after : WorkerBehaviorAggregate}
    (counted : Counted eventIndex before after) :
    after.historical = before.historical ∧
      after.historyLastUpdatedAt = before.historyLastUpdatedAt := by
  cases counted <;> exact ⟨rfl, rfl⟩

/-- Recording takes nothing from the counts of the session. -/
theorem Counted.session_atMost {eventIndex : Nat} {before after : WorkerBehaviorAggregate}
    (counted : Counted eventIndex before after) :
    (before.session.weigh sessionSignalWeight).AtMost
      (after.session.weigh sessionSignalWeight) := by
  have more : ∀ count : Nat,
      (count : ℚ) * sessionSignalWeight ≤ (count + 1 : Nat) * sessionSignalWeight := by
    intro count
    have grows : (count : ℚ) ≤ (count + 1 : Nat) := Nat.cast_le.mpr (Nat.le_succ count)
    exact mul_le_mul_of_nonneg_right grows (by norm_num [sessionSignalWeight])
  cases counted with
  | click =>
      exact ⟨more _, more _, le_rfl, le_rfl⟩
  | ctaClick =>
      exact ⟨more _, le_rfl, more _, le_rfl⟩
  | conversion _ =>
      exact ⟨le_rfl, le_rfl, le_rfl, more _⟩
  | ignored _ =>
      exact .refl _

/-- The last interaction of the worker is now, unless there was none to begin with. -/
theorem Counted.lastInteraction {eventIndex : Nat} {before after : WorkerBehaviorAggregate}
    (counted : Counted eventIndex before after) (settled : before.Settled) :
    after.lastInteractionEventIndex = eventIndex ∨ after.lastInteractionEventIndex = 0 := by
  cases counted with
  | click | ctaClick | conversion =>
      exact .inl rfl
  | ignored unknown =>
      right
      by_contra interacted
      have known := settled.interacted (Nat.pos_of_ne_zero interacted)
      omega

end WorkerBehaviorAggregate

namespace TrackingModule

open WorkerBehaviorAggregate

variable {tracking : TrackingModule}

/-! ## One event -/

theorem worker_changeWorker (tracking : TrackingModule) (workerId other : WorkerId)
    (change : WorkerBehaviorAggregate → WorkerBehaviorAggregate) :
    (tracking.changeWorker workerId change).worker other =
      if other = workerId then change (tracking.worker other) else tracking.worker other := by
  change ((tracking.workerBehaviorById.modify .empty workerId change).get? other).getD .empty = _
  rw [Record.get?_modify]
  by_cases same : other = workerId
  · rw [if_pos same, if_pos same, same]
    rfl
  · rw [if_neg same, if_neg same]
    rfl

theorem counted_changeWorker (tracking : TrackingModule) {eventIndex : Nat} {named : WorkerId}
    {change : WorkerBehaviorAggregate → WorkerBehaviorAggregate}
    (counted : Counted eventIndex (tracking.worker named) (change (tracking.worker named)))
    (workerId : WorkerId) :
    (some named = some workerId → Counted eventIndex (tracking.worker workerId)
      ((tracking.changeWorker named change).worker workerId)) ∧
    (some named ≠ some workerId →
      (tracking.changeWorker named change).worker workerId = tracking.worker workerId) := by
  rw [worker_changeWorker]
  constructor
  · rintro ⟨⟩
    rw [if_pos rfl]
    exact counted
  · intro differ
    rw [if_neg fun same => differ (congrArg some same.symm)]

/-- A conversion counts for a worker with interactions. -/
theorem conversion_cases (tracking : TrackingModule) (named : WorkerId) (eventIndex : Nat)
    (now : Time) :
    let hydrated := tracking.ensureHydrated now
    let after := tracking.updateBehaviorAggregation (.jobCreateSubmit named) eventIndex now
    (after = hydrated ∧ (hydrated.worker named).totals.interactions = 0) ∨
      (after = hydrated.changeWorker named (fun stats => stats.countConversion eventIndex) ∧
        (hydrated.worker named).totals.interactions ≠ 0) := by
  intro hydrated after
  cases found : hydrated.workerBehaviorById.get? named with
  | none =>
      have blank : hydrated.worker named = .empty := by
        rw [Page.worker, found]
        rfl
      left
      constructor
      · simp only [after, updateBehaviorAggregation]
        rw [found]
      · rw [blank]
        rfl
  | some workerStats =>
      have read : hydrated.worker named = workerStats := by
        rw [Page.worker, found]
        rfl
      have guarded : after = if workerStats.totals.interactions = 0 then hydrated else
          hydrated.changeWorker named fun stats => stats.countConversion eventIndex := by
        simp only [after, updateBehaviorAggregation]
        rw [found]
      rw [guarded, read]
      split_ifs with unknown
      · exact .inl ⟨rfl, unknown⟩
      · exact .inr ⟨rfl, unknown⟩

/-- An event counts for its worker and leaves the others alone. -/
theorem worker_update (tracking : TrackingModule) (event : TrackingEvent) (eventIndex : Nat)
    (now : Time) (workerId : WorkerId) :
    let hydrated := tracking.ensureHydrated now
    let after := tracking.updateBehaviorAggregation event eventIndex now
    (event.workerId? = some workerId →
      Counted eventIndex (hydrated.worker workerId) (after.worker workerId)) ∧
    (event.workerId? ≠ some workerId → after.worker workerId = hydrated.worker workerId) := by
  intro hydrated after
  cases event with
  | marketplaceWorkerCardClick named =>
      exact counted_changeWorker hydrated .click workerId
  | dashboardWorkerCardClick named =>
      exact counted_changeWorker hydrated .click workerId
  | marketplaceCtaClick named =>
      cases present : truthy named with
      | none =>
          have same : after = hydrated := by
            simp only [after, updateBehaviorAggregation, present]
            rfl
          rw [TrackingEvent.workerId?, present, same]
          exact ⟨fun missing => absurd missing (by simp), fun _ => rfl⟩
      | some name =>
          have same : after =
              hydrated.changeWorker name fun stats => stats.countCtaClick eventIndex := by
            simp only [after, updateBehaviorAggregation, present]
            rfl
          rw [TrackingEvent.workerId?, present, same]
          exact counted_changeWorker hydrated .ctaClick workerId
  | dashboardCtaClick named =>
      exact counted_changeWorker hydrated .ctaClick workerId
  | marketplaceCategorySelect categorySlug =>
      have same : after.worker workerId = hydrated.worker workerId := by
        simp only [after, updateBehaviorAggregation]
        split <;> rfl
      exact ⟨fun missing => absurd missing (by simp [TrackingEvent.workerId?]), fun _ => same⟩
  | jobCreateSubmit named =>
      rcases tracking.conversion_cases named eventIndex now with ⟨same, unknown⟩ | ⟨same, known⟩
      · have unchanged : after = hydrated := same
        rw [unchanged]
        constructor
        · rintro ⟨⟩
          exact .ignored unknown
        · intro _
          rfl
      · have converted : after =
            hydrated.changeWorker named fun stats => stats.countConversion eventIndex := same
        rw [converted]
        exact counted_changeWorker hydrated (.conversion known) workerId
  | other =>
      exact ⟨fun missing => absurd missing (by simp [TrackingEvent.workerId?]), fun _ => rfl⟩

theorem update_frame (tracking : TrackingModule) (event : TrackingEvent) (eventIndex : Nat)
    (now : Time) :
    let after := tracking.updateBehaviorAggregation event eventIndex now
    after.sessionEventIndex = tracking.sessionEventIndex ∧
      after.sharedWorkerBehaviorById = tracking.sharedWorkerBehaviorById ∧
      after.behaviorAggregationHydrated =
        (tracking.ensureHydrated now).behaviorAggregationHydrated := by
  unfold updateBehaviorAggregation
  cases event with
  | marketplaceWorkerCardClick named | dashboardWorkerCardClick named
  | dashboardCtaClick named | other =>
      exact ⟨rfl, rfl, rfl⟩
  | marketplaceCtaClick named | marketplaceCategorySelect named =>
      cases present : truthy named with
      | none | some name =>
          simp only [present]
          trivial
  | jobCreateSubmit named =>
      cases found : (tracking.ensureHydrated now).workerBehaviorById.get? named with
      | none =>
          simp only [found]
          trivial
      | some workerStats =>
          simp only [found]
          split <;> exact ⟨rfl, rfl, rfl⟩

/-! ## Hydration -/

theorem behaviorAggregationHydrated_ensureHydrated (tracking : TrackingModule) (now : Time) :
    (tracking.ensureHydrated now).behaviorAggregationHydrated = true := by
  change (tracking.toPage.ensureBehaviorAggregationHydrated now).behaviorAggregationHydrated = true
  unfold Page.ensureBehaviorAggregationHydrated
  split_ifs with hydrated
  · exact hydrated
  · dsimp only
    split
    · rfl
    · rfl
    · split_ifs <;> rfl

theorem ensureHydrated_of_hydrated (hydrated : tracking.behaviorAggregationHydrated = true)
    (now : Time) : tracking.ensureHydrated now = tracking := by
  have same : tracking.toPage.ensureBehaviorAggregationHydrated now = tracking.toPage := by
    rw [Page.ensureBehaviorAggregationHydrated, if_pos hydrated]
  rw [ensureHydrated, same]

/-- The history which a page reads is added to that of its workers. -/
theorem worker_ensureHydrated (tracking : TrackingModule) (now : Time) (workerId : WorkerId) :
    (tracking.ensureHydrated now).worker workerId = tracking.worker workerId ∨
      ∃ historical lastUpdatedAt, (tracking.ensureHydrated now).worker workerId =
        syncWorkerBehaviorTotals
          { tracking.worker workerId with
            historical := (tracking.worker workerId).historical + historical
            historyLastUpdatedAt := lastUpdatedAt } := by
  change (tracking.toPage.ensureBehaviorAggregationHydrated now).worker workerId = _ ∨
    ∃ historical lastUpdatedAt,
      (tracking.toPage.ensureBehaviorAggregationHydrated now).worker workerId = _
  unfold Page.ensureBehaviorAggregationHydrated
  split_ifs with hydrated
  · exact .inl rfl
  · dsimp only
    split
    · exact .inl rfl
    · exact .inl rfl
    · rename_i payload _
      split_ifs with usable
      · rw [Page.worker, Record.get?_absorb]
        cases stored : payload.workersById.get? workerId with
        | none =>
            exact .inl rfl
        | some rawStats =>
            rw [Option.bind_some, hydratedWorker?]
            by_cases nothing : rawStats.counts = 0
            · rw [if_pos nothing]
              exact .inl rfl
            · rw [if_neg nothing]
              exact .inr ⟨_, _, rfl⟩
      · exact .inl rfl

/-! ## Recording -/

theorem worker_enqueue (tracking : TrackingModule) (event : TrackingEvent) (now : Time)
    (workerId : WorkerId) :
    (event.workerId? = some workerId →
      Counted (tracking.sessionEventIndex + 1) ((tracking.ensureHydrated now).worker workerId)
        ((tracking.enqueueTrackingEvent event now).worker workerId)) ∧
    (event.workerId? ≠ some workerId →
      (tracking.enqueueTrackingEvent event now).worker workerId =
        (tracking.ensureHydrated now).worker workerId) :=
  worker_update { tracking with sessionEventIndex := tracking.sessionEventIndex + 1 } event
    (tracking.sessionEventIndex + 1) now workerId

theorem enqueue_frame (tracking : TrackingModule) (event : TrackingEvent) (now : Time) :
    (tracking.enqueueTrackingEvent event now).sessionEventIndex =
        tracking.sessionEventIndex + 1 ∧
      (tracking.enqueueTrackingEvent event now).sharedWorkerBehaviorById =
        tracking.sharedWorkerBehaviorById ∧
      (tracking.enqueueTrackingEvent event now).behaviorAggregationHydrated = true := by
  obtain ⟨index, shared, hydrated⟩ := update_frame
    { tracking with sessionEventIndex := tracking.sessionEventIndex + 1 } event
    (tracking.sessionEventIndex + 1) now
  exact ⟨index, shared, hydrated.trans (behaviorAggregationHydrated_ensureHydrated _ now)⟩

/-! ## Runs -/

def Settled (tracking : TrackingModule) : Prop :=
  ∀ workerId, (tracking.worker workerId).Settled

theorem Settled.ensureHydrated (settled : tracking.Settled) (now : Time) :
    (tracking.ensureHydrated now).Settled := by
  intro workerId
  rcases tracking.worker_ensureHydrated now workerId with same | ⟨historical, at?, read⟩
  · rw [same]
    exact settled workerId
  · rw [read]
    exact settled_hydrated (settled workerId) at?

theorem Settled.enqueueTrackingEvent (settled : tracking.Settled) (event : TrackingEvent)
    (now : Time) : (tracking.enqueueTrackingEvent event now).Settled := by
  intro workerId
  have hydrated := settled.ensureHydrated now workerId
  obtain ⟨counts, others⟩ := tracking.worker_enqueue event now workerId
  by_cases named : event.workerId? = some workerId
  · exact (counts named).settled hydrated
  · rw [others named]
    exact hydrated

theorem Settled.step (settled : tracking.Settled) (action : Action) :
    (machine.step tracking action).Settled := by
  cases action with
  | track event now =>
      exact settled.enqueueTrackingEvent event now
  | setSharedWorkerBehaviorSignals items =>
      exact settled
  | hydrate now =>
      exact settled.ensureHydrated now
  | persist now =>
      exact settled
  | otherPage storage =>
      exact settled

theorem Settled.run (settled : tracking.Settled) (actions : List Action) :
    (machine.run tracking actions).Settled :=
  machine.run_preserves Settled (fun _ action before => before.step action) settled actions

theorem settled_fresh (storage : Option StoredPayload) : (fresh storage).Settled := by
  intro workerId
  exact settled_empty

/-! ## Scores -/

theorem sessionRecencyMultiplier_le_one (tracking : TrackingModule) (workerId : WorkerId) :
    tracking.sessionRecencyMultiplier workerId ≤ 1 := by
  unfold sessionRecencyMultiplier
  dsimp only
  split
  · have nonneg := clamp01_nonneg (max 0 ((tracking.sessionEventIndex : ℚ) -
      (tracking.worker workerId).lastInteractionEventIndex) / recencyEventWindow)
    linarith
  · exact le_rfl

theorem sessionRecencyMultiplier_nonneg (tracking : TrackingModule) (workerId : WorkerId) :
    0 ≤ tracking.sessionRecencyMultiplier workerId := by
  unfold sessionRecencyMultiplier
  dsimp only
  split
  · have bound := clamp01_le_one (max 0 ((tracking.sessionEventIndex : ℚ) -
      (tracking.worker workerId).lastInteractionEventIndex) / recencyEventWindow)
    linarith
  · exact zero_le_one

theorem reading_nonneg (functions : RealFunctions) (tracking : TrackingModule) (now : Time)
    (workerId : WorkerId) : (tracking.reading functions now workerId).Nonneg where
  session := BehaviorCounts.weigh_nonneg _ (by norm_num [sessionSignalWeight])
  historical := BehaviorCounts.weigh_nonneg _
    (mul_nonneg (functions.decay_nonneg _ _) (by norm_num [historySignalWeight]))
  shared := BehaviorCounts.weigh_nonneg _
    (mul_nonneg (functions.decay_nonneg _ _) (by norm_num [sharedSignalWeight]))
  recency := tracking.sessionRecencyMultiplier_nonneg workerId

/-- The score grows with the reading. -/
theorem score_le {functions : RealFunctions} {before after : TrackingModule} {now : Time}
    {workerId : WorkerId} (rating : RatingInput)
    (le : (before.reading functions now workerId).AtMost
      (after.reading functions now workerId)) :
    (before.scoreHydrated functions now workerId rating).score ≤
      (after.scoreHydrated functions now workerId rating).score := by
  apply roundScore_mono
  have weight := BehaviorReading.weight_le le (reading_nonneg functions before now workerId)
    (reading_nonneg functions after now workerId) (max 0 rating.ratingCount)
  linarith

/-- Time passes for the session. -/
theorem sessionRecencyMultiplier_le {before after : TrackingModule} {workerId : WorkerId}
    (same : after.worker workerId = before.worker workerId)
    (later : before.sessionEventIndex ≤ after.sessionEventIndex) :
    after.sessionRecencyMultiplier workerId ≤ before.sessionRecencyMultiplier workerId := by
  unfold sessionRecencyMultiplier
  rw [same]
  dsimp only
  split
  · have index : (before.sessionEventIndex : ℚ) ≤ after.sessionEventIndex :=
      Nat.cast_le.mpr later
    have waited := max_le_max_left 0
      (sub_le_sub_right index ((before.worker workerId).lastInteractionEventIndex : ℚ))
    have share := div_le_div_of_nonneg_right waited
      (show (0 : ℚ) ≤ recencyEventWindow by norm_num [recencyEventWindow])
    have clamped := clamp01_mono share
    linarith
  · exact le_rfl

theorem sessionRecencyMultiplier_eq_one {workerId : WorkerId}
    (recent : (tracking.worker workerId).lastInteractionEventIndex =
        tracking.sessionEventIndex ∨
      (tracking.worker workerId).lastInteractionEventIndex = 0) :
    tracking.sessionRecencyMultiplier workerId = 1 := by
  unfold sessionRecencyMultiplier
  dsimp only
  rcases recent with now | never
  · rw [now, sub_self, max_self, zero_div]
    norm_num [clamp01]
  · rw [if_neg (by omega)]

/-! ## More engagement -/

section Engagement

variable (functions : RealFunctions) (tracking) (event : TrackingEvent) (now : Time)
  (workerId : WorkerId)

/-- After an event nothing is left to hydrate. -/
theorem score_enqueue (rating : RatingInput) :
    ((tracking.enqueueTrackingEvent event now).getWorkerRelevanceScore functions now workerId
        rating).1 =
      (tracking.enqueueTrackingEvent event now).scoreHydrated functions now workerId rating := by
  obtain ⟨_, _, hydrated⟩ := tracking.enqueue_frame event now
  rw [getWorkerRelevanceScore, ensureHydrated_of_hydrated hydrated]

variable {workerId}

/-- The reading of the worker of an event grows. -/
theorem reading_le_enqueue (settled : tracking.Settled)
    (recorded : event.workerId? = some workerId) :
    ((tracking.ensureHydrated now).reading functions now workerId).AtMost
      ((tracking.enqueueTrackingEvent event now).reading functions now workerId) := by
  have counted := (tracking.worker_enqueue event now workerId).1 recorded
  obtain ⟨index, shared, _⟩ := tracking.enqueue_frame event now
  obtain ⟨historical, age⟩ := counted.history
  have recent :
      (tracking.enqueueTrackingEvent event now).sessionRecencyMultiplier workerId = 1 := by
    apply sessionRecencyMultiplier_eq_one
    rw [index]
    exact counted.lastInteraction (settled.ensureHydrated now workerId)
  constructor
  · exact counted.session_atMost
  · rw [reading, reading, temporalDecay, temporalDecay, historical, age]
    exact .refl _
  · rw [reading, reading, sharedCounts, sharedCounts, sharedDecay, sharedDecay, shared]
    exact .refl _
  · exact (sessionRecencyMultiplier_le_one _ _).trans_eq recent.symm

/-- The reading of another worker can only shrink. -/
theorem reading_enqueue_le (elsewhere : event.workerId? ≠ some workerId) :
    ((tracking.enqueueTrackingEvent event now).reading functions now workerId).AtMost
      ((tracking.ensureHydrated now).reading functions now workerId) := by
  have same := (tracking.worker_enqueue event now workerId).2 elsewhere
  obtain ⟨index, shared, _⟩ := tracking.enqueue_frame event now
  constructor
  · rw [reading, reading, same]
    exact .refl _
  · rw [reading, reading, temporalDecay, temporalDecay, same]
    exact .refl _
  · rw [reading, reading, sharedCounts, sharedCounts, sharedDecay, sharedDecay, shared]
    exact .refl _
  · apply sessionRecencyMultiplier_le same
    rw [index]
    exact Nat.le_succ _

end Engagement

/-- One more click or conversion of a worker never lowers its score, and never raises that
of another one. -/
theorem engagement_never_hurts (functions : RealFunctions) (storage : Option StoredPayload)
    (actions : List Action) {event : TrackingEvent} {workerId : WorkerId}
    (recorded : event.workerId? = some workerId) (now : Time)
    (rating : WorkerId → RatingInput) :
    let before := machine.run (fresh storage) actions
    let after := before.enqueueTrackingEvent event now
    let score (tracking : TrackingModule) (named : WorkerId) : ℚ :=
      (tracking.getWorkerRelevanceScore functions now named (rating named)).1.score
    score before workerId ≤ score after workerId ∧
      ∀ other, other ≠ workerId → score after other ≤ score before other := by
  intro before after score
  have settled := (settled_fresh storage).run actions
  constructor
  · have grows := score_le (rating workerId)
      (reading_le_enqueue before functions event now settled recorded)
    rw [← score_enqueue] at grows
    exact grows
  · intro other differs
    have elsewhere : event.workerId? ≠ some other := by
      rw [recorded]
      intro same
      exact differs (Option.some.inj same).symm
    have shrinks := score_le (rating other)
      (reading_enqueue_le before functions event now elsewhere)
    rw [← score_enqueue] at shrinks
    exact shrinks

/-! ## A visitor who comes back -/

/-- The power after whole half-lives.  The logarithm is the identity, which it is at
nothing. -/
def sampleFunctions : RealFunctions :=
  .ofPower (fun halfLives => (1 / 2) ^ ⌊halfLives⌋₊) monotone_id

/-- Five clicks on each of two workers, stored at time 1000. -/
def sampleStorage : StoredPayload :=
  let clicked : PersistedWorkerBehaviorAggregate :=
    ⟨some 5, some 5, some 0, some 0, some 1000⟩
  .snapshot
    { version := behaviorAggregationStorageVersion
      savedAt := some 1000
      expiresAt := some (1000 + behaviorAggregationTtlMs)
      workersById := (Record.empty.modify clicked "worker" id).modify clicked "other" id
      categoriesBySlug := .empty }

/-- The visitor clicks on both workers, and the first gets a job. -/
def sampleActions : List Action :=
  [.hydrate 2000, .track (.dashboardWorkerCardClick "worker") 3000,
    .track (.marketplaceWorkerCardClick "other") 4000,
    .track (.jobCreateSubmit "worker") 5000]

/-- Half of the history has faded when the first worker is clicked on once more. -/
theorem engagement_never_hurts_another_click :
    let now := 1000 + historyDecayHalfLifeMs
    let before := machine.run (fresh (some sampleStorage)) sampleActions
    let after := before.enqueueTrackingEvent (.marketplaceWorkerCardClick "worker") now
    let score (tracking : TrackingModule) (named : WorkerId) : ℚ :=
      (tracking.getWorkerRelevanceScore sampleFunctions now named ⟨none, 0⟩).1.score
    score before "worker" ≤ score after "worker" ∧
      score after "other" ≤ score before "other" := by
  intro now before after score
  have never := engagement_never_hurts sampleFunctions (some sampleStorage) sampleActions
    (show (TrackingEvent.marketplaceWorkerCardClick "worker").workerId? = some "worker"
      from rfl) now fun _ => ⟨none, 0⟩
  exact ⟨never.1, never.2 "other" (by decide)⟩

end TrackingModule

end Tchuno.Web
