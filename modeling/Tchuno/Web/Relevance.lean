import Mathlib.Tactic.NormNum
import Mathlib.Tactic.GCongr
import Tchuno.Library.Machine
import Tchuno.Library.Texts
import Tchuno.Web.Reloads

/-!
# Relevance of workers

The tracking module of the web client counts the events of a session, and
`getWorkerRelevanceScore` weighs the counts of a worker: those of the session, those of the
history and those which all browsers share.
-/

namespace Tchuno.Web

open Tchuno.Library Tchuno.Library.Ecma

/-! ## Shared signals -/

/-- `lastEventAt` is what `parseTimestamp` makes of it. -/
structure SharedWorkerBehaviorSignalInput where
  workerProfileId : String
  interactions : StoredNumber
  clicks : StoredNumber
  ctaClicks : StoredNumber
  conversions : StoredNumber
  lastEventAt : Option Time

structure SharedWorkerBehaviorSignal where
  counts : BehaviorCounts
  lastEventAtMs : Option Time

def normalizeSharedWorkerSignalItem (item : SharedWorkerBehaviorSignalInput) :
    Option SharedWorkerBehaviorSignal :=
  let workerProfileId := trim item.workerProfileId
  if workerProfileId = "" ∨ 64 < utf16Length workerProfileId then none
  else
    some
      { counts :=
          { interactions := normalizeCounter item.interactions
            clicks := normalizeCounter item.clicks
            ctaClicks := normalizeCounter item.ctaClicks
            conversions := normalizeCounter item.conversions }
        lastEventAtMs := item.lastEventAt }

/-- The signals that `setSharedWorkerBehaviorSignals` puts in place of the earlier ones. -/
def nextSignals (items : List SharedWorkerBehaviorSignalInput) :
    Record WorkerId SharedWorkerBehaviorSignal :=
  items.foldl (fun signals item =>
    match normalizeSharedWorkerSignalItem item with
    | none => signals
    | some normalized =>
        signals.modify normalized (trim item.workerProfileId) fun _ => normalized) .empty

/-! ## Events -/

/-- `AnyTrackingEvent`, as far as `updateBehaviorAggregation` reads it. -/
inductive TrackingEvent where
  | marketplaceWorkerCardClick (workerId : WorkerId)
  | dashboardWorkerCardClick (workerId : WorkerId)
  | marketplaceCtaClick (workerId : Option WorkerId)
  | dashboardCtaClick (workerId : WorkerId)
  | marketplaceCategorySelect (categorySlug : Option String)
  | jobCreateSubmit (workerProfileId : WorkerId)
  | other

/-- The worker for which a click or a conversion is recorded. -/
def TrackingEvent.workerId? : TrackingEvent → Option WorkerId
  | .marketplaceWorkerCardClick workerId
  | .dashboardWorkerCardClick workerId
  | .dashboardCtaClick workerId
  | .jobCreateSubmit workerId => some workerId
  | .marketplaceCtaClick workerId => truthy workerId
  | .marketplaceCategorySelect _ => none
  | .other => none

/-- The variables of the module. -/
structure TrackingModule extends Page where
  sessionEventIndex : Nat
  sharedWorkerBehaviorById : Record WorkerId SharedWorkerBehaviorSignal

namespace WorkerBehaviorAggregate

def countClick (workerStats : WorkerBehaviorAggregate) (eventIndex : Nat) :
    WorkerBehaviorAggregate :=
  syncWorkerBehaviorTotals
    { workerStats with
      session :=
        { workerStats.session with
          interactions := workerStats.session.interactions + 1
          clicks := workerStats.session.clicks + 1 }
      lastInteractionEventIndex := eventIndex }

def countCtaClick (workerStats : WorkerBehaviorAggregate) (eventIndex : Nat) :
    WorkerBehaviorAggregate :=
  syncWorkerBehaviorTotals
    { workerStats with
      session :=
        { workerStats.session with
          interactions := workerStats.session.interactions + 1
          ctaClicks := workerStats.session.ctaClicks + 1 }
      lastInteractionEventIndex := eventIndex }

def countConversion (workerStats : WorkerBehaviorAggregate) (eventIndex : Nat) :
    WorkerBehaviorAggregate :=
  syncWorkerBehaviorTotals
    { workerStats with
      session :=
        { workerStats.session with conversions := workerStats.session.conversions + 1 }
      lastInteractionEventIndex := eventIndex }

end WorkerBehaviorAggregate

namespace TrackingModule

def changeWorker (tracking : TrackingModule) (workerId : WorkerId)
    (change : WorkerBehaviorAggregate → WorkerBehaviorAggregate) : TrackingModule :=
  { tracking with
    workerBehaviorById := tracking.workerBehaviorById.modify .empty workerId change
    behaviorPersistenceScheduled := true }

def ensureHydrated (tracking : TrackingModule) (now : Time) : TrackingModule :=
  { tracking with toPage := tracking.toPage.ensureBehaviorAggregationHydrated now }

def updateBehaviorAggregation (tracking : TrackingModule) (event : TrackingEvent)
    (eventIndex : Nat) (now : Time) : TrackingModule :=
  let tracking := tracking.ensureHydrated now
  match event with
  | .marketplaceWorkerCardClick workerId
  | .dashboardWorkerCardClick workerId =>
      tracking.changeWorker workerId fun workerStats => workerStats.countClick eventIndex
  | .marketplaceCtaClick workerId =>
      match truthy workerId with
      | none => tracking
      | some workerId =>
          tracking.changeWorker workerId fun workerStats =>
            workerStats.countCtaClick eventIndex
  | .dashboardCtaClick workerId =>
      tracking.changeWorker workerId fun workerStats => workerStats.countCtaClick eventIndex
  | .marketplaceCategorySelect categorySlug =>
      match truthy categorySlug with
      | none => tracking
      | some categorySlug =>
          { tracking with
            categoryInteractionBySlug :=
              tracking.categoryInteractionBySlug.modify 0 categorySlug fun counted =>
                counted + 1
            behaviorPersistenceScheduled := true }
  | .jobCreateSubmit workerProfileId =>
      match tracking.workerBehaviorById.get? workerProfileId with
      | none => tracking
      | some workerStats =>
          if workerStats.totals.interactions = 0 then
            tracking
          else
            tracking.changeWorker workerProfileId fun workerStats =>
              workerStats.countConversion eventIndex
  | .other => tracking

/-- `enqueueTrackingEvent`, without the queue. -/
def enqueueTrackingEvent (tracking : TrackingModule) (event : TrackingEvent) (now : Time) :
    TrackingModule :=
  let sessionEventIndex := tracking.sessionEventIndex + 1
  { tracking with sessionEventIndex := sessionEventIndex }.updateBehaviorAggregation event
    sessionEventIndex now

end TrackingModule

/-! ## The score -/

def clickWeight : ℚ := 42 / 100
def ctaClickWeight : ℚ := 58 / 100
def conversionWeight : ℚ := 29 / 10
def ratingValueWeight : ℚ := 165 / 100
def ratingCountWeight : ℚ := 22 / 100
def recencyEventWindow : ℚ := 35
def minConfidenceEvidence : ℚ := 12
def historySignalWeight : ℚ := 55 / 100
def sessionSignalWeight : ℚ := 1
def historyDecayHalfLifeMs : Time := 1000 * 60 * 60 * 24 * 2
def historyDecayMinMultiplier : ℚ := 1 / 10
def lowConfidenceInteractionFloor : ℚ := 3
def lowConfidenceGuardMultiplier : ℚ := 72 / 100
def veryLowConfidenceGuardMultiplier : ℚ := 52 / 100
def sharedSignalWeight : ℚ := 65 / 100

def clamp01 (value : ℚ) : ℚ :=
  max 0 (min 1 value)

/-- The number that `value.toFixed(3)` shows, for values which are not negative. -/
def toFixed3 (value : ℚ) : ℚ :=
  if 10 ^ 21 ≤ value then value else ⌊value * 1000 + 1 / 2⌋ / 1000

def roundScore (value : ℚ) : ℚ :=
  if value < 0 then -toFixed3 (-value) else toFixed3 value

/-- The functions whose values are no rationals.  Nothing is known of the decay but its
range, and nothing of the logarithm but that it grows. -/
structure RealFunctions where
  temporalDecayMultiplier : Option Time → Time → ℚ
  log1p : ℚ → ℚ
  decay_nonneg : ∀ lastUpdatedAt now, 0 ≤ temporalDecayMultiplier lastUpdatedAt now
  decay_le_one : ∀ lastUpdatedAt now, temporalDecayMultiplier lastUpdatedAt now ≤ 1
  log1p_mono : Monotone log1p

/-- The decay of the source, for any reading of `Math.pow(0.5, halfLives)`. -/
def getTemporalDecayMultiplier (powHalf : ℚ → ℚ) (historyLastUpdatedAt : Option Time)
    (now : Time) : ℚ :=
  match historyLastUpdatedAt with
  | none => historyDecayMinMultiplier
  | some historyLastUpdatedAt =>
      if historyLastUpdatedAt ≤ 0 then
        historyDecayMinMultiplier
      else
        let ageMs := max 0 (now - historyLastUpdatedAt)
        let halfLives := ageMs / historyDecayHalfLifeMs
        max historyDecayMinMultiplier (min 1 (powHalf halfLives))

theorem getTemporalDecayMultiplier_bounds (powHalf : ℚ → ℚ)
    (historyLastUpdatedAt : Option Time) (now : Time) :
    0 ≤ getTemporalDecayMultiplier powHalf historyLastUpdatedAt now ∧
      getTemporalDecayMultiplier powHalf historyLastUpdatedAt now ≤ 1 := by
  have positive : 0 ≤ historyDecayMinMultiplier := by
    norm_num [historyDecayMinMultiplier]
  have small : historyDecayMinMultiplier ≤ 1 := by
    norm_num [historyDecayMinMultiplier]
  unfold getTemporalDecayMultiplier
  split
  · exact ⟨positive, small⟩
  · split
    · exact ⟨positive, small⟩
    · exact ⟨positive.trans (le_max_left _ _), max_le small (min_le_left _ _)⟩

/-- The decay of the source with some logarithm. -/
def RealFunctions.ofPower (powHalf : ℚ → ℚ) {log1p : ℚ → ℚ} (log1p_mono : Monotone log1p) :
    RealFunctions where
  temporalDecayMultiplier := getTemporalDecayMultiplier powHalf
  log1p := log1p
  decay_nonneg := fun lastUpdatedAt now =>
    (getTemporalDecayMultiplier_bounds powHalf lastUpdatedAt now).1
  decay_le_one := fun lastUpdatedAt now =>
    (getTemporalDecayMultiplier_bounds powHalf lastUpdatedAt now).2
  log1p_mono := log1p_mono

/-- The rating of a worker; `ratingAvg` is the number that the value stands for. -/
structure RatingInput where
  ratingAvg : StoredNumber
  ratingCount : ℚ

def parseRating (rating : StoredNumber) : ℚ :=
  match rating with
  | none => 0
  | some parsed => max 0 (min 5 parsed)

/-- Counts after they are weighted. -/
structure WeightedCounts where
  interactions : ℚ
  clicks : ℚ
  ctaClicks : ℚ
  conversions : ℚ

def BehaviorCounts.weigh (counts : BehaviorCounts) (weight : ℚ) : WeightedCounts where
  interactions := counts.interactions * weight
  clicks := counts.clicks * weight
  ctaClicks := counts.ctaClicks * weight
  conversions := counts.conversions * weight

namespace WeightedCounts

def interest (weighted : WeightedCounts) : ℚ :=
  min 24 weighted.clicks * clickWeight

def intention (weighted : WeightedCounts) : ℚ :=
  min 18 weighted.ctaClicks * ctaClickWeight

def conversion (weighted : WeightedCounts) : ℚ :=
  min 10 weighted.conversions * conversionWeight

end WeightedCounts

/-- All that the score takes from the behaviour around a worker. -/
structure BehaviorReading where
  session : WeightedCounts
  historical : WeightedCounts
  shared : WeightedCounts
  sessionRecencyMultiplier : ℚ

namespace BehaviorReading

def sessionBehaviorSignal (reading : BehaviorReading) : ℚ :=
  reading.session.interest * reading.sessionRecencyMultiplier +
    reading.session.intention * reading.sessionRecencyMultiplier + reading.session.conversion

def historicalInterestComponent (reading : BehaviorReading) : ℚ :=
  reading.historical.interest + reading.shared.interest

def historicalIntentionComponent (reading : BehaviorReading) : ℚ :=
  reading.historical.intention + reading.shared.intention

def historicalConversionComponent (reading : BehaviorReading) : ℚ :=
  reading.historical.conversion + reading.shared.conversion

def historicalBehaviorSignal (reading : BehaviorReading) : ℚ :=
  reading.historicalInterestComponent + reading.historicalIntentionComponent +
    reading.historicalConversionComponent

def behaviorSignal (reading : BehaviorReading) : ℚ :=
  reading.sessionBehaviorSignal + reading.historicalBehaviorSignal

def effectiveInteractions (reading : BehaviorReading) : ℚ :=
  reading.session.interactions + reading.historical.interactions + reading.shared.interactions

def effectiveConversions (reading : BehaviorReading) : ℚ :=
  reading.session.conversions + reading.historical.conversions + reading.shared.conversions

def baseStabilityMultiplier (reading : BehaviorReading) (ratingCount : ℚ) : ℚ :=
  let evidenceScore :=
    min 20 ratingCount + reading.effectiveInteractions * (11 / 10) +
      reading.effectiveConversions * 4
  45 / 100 + clamp01 (evidenceScore / minConfidenceEvidence) * (55 / 100)

def confidenceGuardMultiplier (reading : BehaviorReading) (ratingCount : ℚ) : ℚ :=
  if reading.effectiveInteractions < 3 / 2 ∧ reading.effectiveConversions < 1 / 2 ∧
      ratingCount < 2 then
    veryLowConfidenceGuardMultiplier
  else if reading.effectiveInteractions < lowConfidenceInteractionFloor ∧
      reading.effectiveConversions < 1 ∧ ratingCount < 4 then
    lowConfidenceGuardMultiplier
  else
    1

def stabilityMultiplier (reading : BehaviorReading) (ratingCount : ℚ) : ℚ :=
  reading.baseStabilityMultiplier ratingCount * reading.confidenceGuardMultiplier ratingCount

end BehaviorReading

inductive ConfidenceLevel where
  | low | medium | high

/-- The breakdown, without the reasons, which are texts for the reader. -/
structure WorkerRelevanceScoreBreakdown where
  score : ℚ
  qualityComponent : ℚ
  interestComponent : ℚ
  intentionComponent : ℚ
  conversionComponent : ℚ
  behaviorSignal : ℚ
  stabilityMultiplier : ℚ
  temporalDecayMultiplier : ℚ
  sessionBehaviorSignal : ℚ
  historicalBehaviorSignal : ℚ
  sessionSignalWeight : ℚ
  historicalSignalWeight : ℚ
  confidenceGuardMultiplier : ℚ
  clicks : ℚ
  conversions : ℚ
  ctaClicks : ℚ
  interactions : ℚ
  lastInteractionEventIndex : Nat
  confidenceLevel : ConfidenceLevel

def getConfidenceLevel (stabilityMultiplier : ℚ) : ConfidenceLevel :=
  if 85 / 100 ≤ stabilityMultiplier then .high
  else if 65 / 100 ≤ stabilityMultiplier then .medium
  else .low

namespace TrackingModule

section Score

variable (functions : RealFunctions) (tracking : TrackingModule) (now : Time)
  (workerId : WorkerId)

def sessionRecencyMultiplier : ℚ :=
  let behavior := tracking.worker workerId
  let eventsSinceInteraction : ℚ :=
    max 0 ((tracking.sessionEventIndex : ℚ) - behavior.lastInteractionEventIndex)
  if 0 < behavior.lastInteractionEventIndex then
    1 - clamp01 (eventsSinceInteraction / recencyEventWindow) * (45 / 100)
  else
    1

def temporalDecay : ℚ :=
  functions.temporalDecayMultiplier (tracking.worker workerId).historyLastUpdatedAt now

/-- The shared counts, with nothing in the place of a missing signal. -/
def sharedCounts : BehaviorCounts :=
  ((tracking.sharedWorkerBehaviorById.get? workerId).map
    SharedWorkerBehaviorSignal.counts).getD 0

def sharedDecay : ℚ :=
  functions.temporalDecayMultiplier
    ((tracking.sharedWorkerBehaviorById.get? workerId).bind
      SharedWorkerBehaviorSignal.lastEventAtMs) now

def reading : BehaviorReading where
  session := (tracking.worker workerId).session.weigh sessionSignalWeight
  historical := (tracking.worker workerId).historical.weigh
    (tracking.temporalDecay functions now workerId * historySignalWeight)
  shared := (tracking.sharedCounts workerId).weigh
    (tracking.sharedDecay functions now workerId * sharedSignalWeight)
  sessionRecencyMultiplier := tracking.sessionRecencyMultiplier workerId

end Score

/-- The score of a module which is hydrated. -/
def scoreHydrated (functions : RealFunctions) (tracking : TrackingModule) (now : Time)
    (workerId : WorkerId) (rating : RatingInput) : WorkerRelevanceScoreBreakdown :=
  let ratingValue := parseRating rating.ratingAvg
  let ratingCount := max 0 rating.ratingCount
  let qualityComponent :=
    ratingValue * ratingValueWeight + functions.log1p (min 60 ratingCount) * ratingCountWeight
  let reading := tracking.reading functions now workerId
  let stabilityMultiplier := reading.stabilityMultiplier ratingCount
  { score := roundScore (qualityComponent + reading.behaviorSignal * stabilityMultiplier)
    qualityComponent := roundScore qualityComponent
    interestComponent := roundScore
      (reading.session.interest * reading.sessionRecencyMultiplier +
        reading.historicalInterestComponent)
    intentionComponent := roundScore
      (reading.session.intention * reading.sessionRecencyMultiplier +
        reading.historicalIntentionComponent)
    conversionComponent := roundScore
      (reading.session.conversion + reading.historicalConversionComponent)
    behaviorSignal := roundScore reading.behaviorSignal
    stabilityMultiplier := roundScore stabilityMultiplier
    temporalDecayMultiplier := roundScore (tracking.temporalDecay functions now workerId)
    sessionBehaviorSignal := roundScore reading.sessionBehaviorSignal
    historicalBehaviorSignal := roundScore reading.historicalBehaviorSignal
    sessionSignalWeight := sessionSignalWeight
    historicalSignalWeight := historySignalWeight
    confidenceGuardMultiplier := roundScore (reading.confidenceGuardMultiplier ratingCount)
    clicks := roundScore
      (reading.session.clicks + reading.historical.clicks + reading.shared.clicks)
    conversions := roundScore reading.effectiveConversions
    ctaClicks := roundScore
      (reading.session.ctaClicks + reading.historical.ctaClicks + reading.shared.ctaClicks)
    interactions := roundScore reading.effectiveInteractions
    lastInteractionEventIndex := (tracking.worker workerId).lastInteractionEventIndex
    confidenceLevel := getConfidenceLevel stabilityMultiplier }

/-- The breakdown, and the module afterwards. -/
def getWorkerRelevanceScore (functions : RealFunctions) (tracking : TrackingModule)
    (now : Time) (workerId : WorkerId) (rating : RatingInput) :
    WorkerRelevanceScoreBreakdown × TrackingModule :=
  let tracking := tracking.ensureHydrated now
  (tracking.scoreHydrated functions now workerId rating, tracking)

/-! ## Runs -/

/-- What happens to the module, and to the storage of its browser, which other pages write
as well. -/
inductive Action where
  | track (event : TrackingEvent) (now : Time)
  | setSharedWorkerBehaviorSignals (items : List SharedWorkerBehaviorSignalInput)
  | hydrate (now : Time)
  | persist (now : Time)
  | otherPage (storage : Option StoredPayload)

def fresh (storage : Option StoredPayload) : TrackingModule where
  toPage := Page.fresh storage
  sessionEventIndex := 0
  sharedWorkerBehaviorById := .empty

def machine : Machine TrackingModule Action where
  step tracking
    | .track event now => tracking.enqueueTrackingEvent event now
    | .setSharedWorkerBehaviorSignals items =>
        { tracking with sharedWorkerBehaviorById := nextSignals items }
    | .hydrate now => tracking.ensureHydrated now
    | .persist now =>
        { tracking with toPage := tracking.toPage.persistBehaviorAggregation now }
    | .otherPage storage => { tracking with storage := storage }

end TrackingModule

/-! ## Rounding -/

theorem clamp01_mono {left right : ℚ} (le : left ≤ right) : clamp01 left ≤ clamp01 right :=
  max_le_max_left 0 (min_le_min_left 1 le)

theorem clamp01_nonneg (value : ℚ) : 0 ≤ clamp01 value :=
  le_max_left 0 _

theorem clamp01_le_one (value : ℚ) : clamp01 value ≤ 1 :=
  max_le zero_le_one (min_le_left 1 value)

theorem toFixed3_nonneg {value : ℚ} (nonneg : 0 ≤ value) : 0 ≤ toFixed3 value := by
  unfold toFixed3
  split
  · exact nonneg
  · have rounded : 0 ≤ ⌊value * 1000 + 1 / 2⌋ := by
      apply Int.floor_nonneg.mpr
      linarith
    have cast : (0 : ℚ) ≤ (⌊value * 1000 + 1 / 2⌋ : ℤ) := Int.cast_nonneg rounded
    linarith

theorem toFixed3_mono {left right : ℚ} (le : left ≤ right) : toFixed3 left ≤ toFixed3 right := by
  have floors : ⌊left * 1000 + 1 / 2⌋ ≤ ⌊right * 1000 + 1 / 2⌋ := by
    apply Int.floor_le_floor
    linarith
  unfold toFixed3
  split_ifs with leftHuge rightHuge rightHuge
  · exact le
  · exact absurd (leftHuge.trans le) rightHuge
  · -- the rounded value stays below the bound, which is itself a whole number
    have small : ⌊left * 1000 + 1 / 2⌋ ≤ (10 ^ 24 : ℤ) := by
      apply Int.floor_le_iff.mpr
      push_cast
      linarith
    have cast : ((⌊left * 1000 + 1 / 2⌋ : ℤ) : ℚ) ≤ 10 ^ 24 := by
      exact_mod_cast small
    linarith
  · have cast : ((⌊left * 1000 + 1 / 2⌋ : ℤ) : ℚ) ≤ (⌊right * 1000 + 1 / 2⌋ : ℤ) :=
      Int.cast_le.mpr floors
    linarith

theorem roundScore_mono : Monotone roundScore := by
  intro left right le
  unfold roundScore
  split_ifs with leftNegative rightNegative rightNegative
  · exact neg_le_neg (toFixed3_mono (neg_le_neg le))
  · have lower := toFixed3_nonneg (neg_nonneg.mpr leftNegative.le)
    have upper := toFixed3_nonneg (not_lt.mp rightNegative)
    linarith
  · exact absurd (lt_of_le_of_lt le rightNegative) leftNegative
  · exact toFixed3_mono le

/-! ## Greater readings -/

namespace WeightedCounts

/-- No count of the second is smaller. -/
structure AtMost (left right : WeightedCounts) : Prop where
  interactions : left.interactions ≤ right.interactions
  clicks : left.clicks ≤ right.clicks
  ctaClicks : left.ctaClicks ≤ right.ctaClicks
  conversions : left.conversions ≤ right.conversions

def nothing : WeightedCounts := ⟨0, 0, 0, 0⟩

variable {left right : WeightedCounts}

theorem AtMost.refl (weighted : WeightedCounts) : weighted.AtMost weighted :=
  ⟨le_rfl, le_rfl, le_rfl, le_rfl⟩

theorem AtMost.interest_le (le : left.AtMost right) : left.interest ≤ right.interest :=
  mul_le_mul_of_nonneg_right (min_le_min_left 24 le.clicks) (by norm_num [clickWeight])

theorem AtMost.intention_le (le : left.AtMost right) : left.intention ≤ right.intention :=
  mul_le_mul_of_nonneg_right (min_le_min_left 18 le.ctaClicks) (by norm_num [ctaClickWeight])

theorem AtMost.conversion_le (le : left.AtMost right) : left.conversion ≤ right.conversion :=
  mul_le_mul_of_nonneg_right (min_le_min_left 10 le.conversions)
    (by norm_num [conversionWeight])

theorem AtMost.interest_nonneg (nonneg : nothing.AtMost right) : 0 ≤ right.interest := by
  have le := nonneg.interest_le
  norm_num [nothing, interest] at le
  exact le

theorem AtMost.intention_nonneg (nonneg : nothing.AtMost right) : 0 ≤ right.intention := by
  have le := nonneg.intention_le
  norm_num [nothing, intention] at le
  exact le

theorem AtMost.conversion_nonneg (nonneg : nothing.AtMost right) : 0 ≤ right.conversion := by
  have le := nonneg.conversion_le
  norm_num [nothing, conversion] at le
  exact le

end WeightedCounts

theorem BehaviorCounts.weigh_nonneg (counts : BehaviorCounts) {weight : ℚ}
    (nonneg : 0 ≤ weight) : WeightedCounts.nothing.AtMost (counts.weigh weight) where
  interactions := mul_nonneg (Nat.cast_nonneg _) nonneg
  clicks := mul_nonneg (Nat.cast_nonneg _) nonneg
  ctaClicks := mul_nonneg (Nat.cast_nonneg _) nonneg
  conversions := mul_nonneg (Nat.cast_nonneg _) nonneg

namespace BehaviorReading

structure AtMost (left right : BehaviorReading) : Prop where
  session : left.session.AtMost right.session
  historical : left.historical.AtMost right.historical
  shared : left.shared.AtMost right.shared
  recency : left.sessionRecencyMultiplier ≤ right.sessionRecencyMultiplier

structure Nonneg (reading : BehaviorReading) : Prop where
  session : WeightedCounts.nothing.AtMost reading.session
  historical : WeightedCounts.nothing.AtMost reading.historical
  shared : WeightedCounts.nothing.AtMost reading.shared
  recency : 0 ≤ reading.sessionRecencyMultiplier

variable {left right : BehaviorReading}

theorem sessionBehaviorSignal_le (le : left.AtMost right) (leftNonneg : left.Nonneg)
    (rightNonneg : right.Nonneg) :
    left.sessionBehaviorSignal ≤ right.sessionBehaviorSignal := by
  have interest := mul_le_mul le.session.interest_le le.recency leftNonneg.recency
    rightNonneg.session.interest_nonneg
  have intention := mul_le_mul le.session.intention_le le.recency leftNonneg.recency
    rightNonneg.session.intention_nonneg
  exact add_le_add (add_le_add interest intention) le.session.conversion_le

theorem historicalBehaviorSignal_le (le : left.AtMost right) :
    left.historicalBehaviorSignal ≤ right.historicalBehaviorSignal := by
  have interest := add_le_add le.historical.interest_le le.shared.interest_le
  have intention := add_le_add le.historical.intention_le le.shared.intention_le
  have conversion := add_le_add le.historical.conversion_le le.shared.conversion_le
  exact add_le_add (add_le_add interest intention) conversion

theorem behaviorSignal_nonneg (nonneg : left.Nonneg) : 0 ≤ left.behaviorSignal := by
  have interest := mul_nonneg nonneg.session.interest_nonneg nonneg.recency
  have intention := mul_nonneg nonneg.session.intention_nonneg nonneg.recency
  have conversion := nonneg.session.conversion_nonneg
  have historicalInterest :=
    add_nonneg nonneg.historical.interest_nonneg nonneg.shared.interest_nonneg
  have historicalIntention :=
    add_nonneg nonneg.historical.intention_nonneg nonneg.shared.intention_nonneg
  have historicalConversion :=
    add_nonneg nonneg.historical.conversion_nonneg nonneg.shared.conversion_nonneg
  exact add_nonneg (add_nonneg (add_nonneg interest intention) conversion)
    (add_nonneg (add_nonneg historicalInterest historicalIntention) historicalConversion)

theorem effectiveInteractions_le (le : left.AtMost right) :
    left.effectiveInteractions ≤ right.effectiveInteractions :=
  add_le_add (add_le_add le.session.interactions le.historical.interactions)
    le.shared.interactions

theorem effectiveConversions_le (le : left.AtMost right) :
    left.effectiveConversions ≤ right.effectiveConversions :=
  add_le_add (add_le_add le.session.conversions le.historical.conversions)
    le.shared.conversions

theorem baseStabilityMultiplier_le (le : left.AtMost right) (ratingCount : ℚ) :
    left.baseStabilityMultiplier ratingCount ≤ right.baseStabilityMultiplier ratingCount := by
  have interactions := effectiveInteractions_le le
  have conversions := effectiveConversions_le le
  have evidence : (min 20 ratingCount + left.effectiveInteractions * (11 / 10) +
        left.effectiveConversions * 4) / minConfidenceEvidence ≤
      (min 20 ratingCount + right.effectiveInteractions * (11 / 10) +
        right.effectiveConversions * 4) / minConfidenceEvidence := by
    apply div_le_div_of_nonneg_right _ (by norm_num [minConfidenceEvidence])
    linarith
  have clamped := clamp01_mono evidence
  unfold baseStabilityMultiplier
  dsimp only
  linarith

theorem baseStabilityMultiplier_nonneg (reading : BehaviorReading) (ratingCount : ℚ) :
    0 ≤ reading.baseStabilityMultiplier ratingCount := by
  have clamped := clamp01_nonneg ((min 20 ratingCount +
    reading.effectiveInteractions * (11 / 10) + reading.effectiveConversions * 4) /
      minConfidenceEvidence)
  unfold baseStabilityMultiplier
  dsimp only
  linarith

/-- With more evidence the guard is not left for a stricter one. -/
theorem confidenceGuardMultiplier_le (le : left.AtMost right) (ratingCount : ℚ) :
    left.confidenceGuardMultiplier ratingCount ≤
      right.confidenceGuardMultiplier ratingCount := by
  have interactions := effectiveInteractions_le le
  have conversions := effectiveConversions_le le
  have veryLow : veryLowConfidenceGuardMultiplier ≤ lowConfidenceGuardMultiplier := by
    norm_num [veryLowConfidenceGuardMultiplier, lowConfidenceGuardMultiplier]
  have low : lowConfidenceGuardMultiplier ≤ 1 := by
    norm_num [lowConfidenceGuardMultiplier]
  unfold confidenceGuardMultiplier
  split_ifs with leftVeryLow rightVeryLow rightLow leftLow rightVeryLow rightLow rightVeryLow
    rightLow
  · exact le_rfl
  · exact veryLow
  · exact veryLow.trans low
  · exact absurd ⟨interactions.trans_lt rightVeryLow.1, conversions.trans_lt rightVeryLow.2.1,
      rightVeryLow.2.2⟩ leftVeryLow
  · exact le_rfl
  · exact low
  · exact absurd ⟨interactions.trans_lt rightVeryLow.1, conversions.trans_lt rightVeryLow.2.1,
      rightVeryLow.2.2⟩ leftVeryLow
  · exact absurd ⟨interactions.trans_lt rightLow.1, conversions.trans_lt rightLow.2.1,
      rightLow.2.2⟩ leftLow
  · exact le_rfl

theorem confidenceGuardMultiplier_nonneg (reading : BehaviorReading) (ratingCount : ℚ) :
    0 ≤ reading.confidenceGuardMultiplier ratingCount := by
  unfold confidenceGuardMultiplier
  split_ifs
  · norm_num [veryLowConfidenceGuardMultiplier]
  · norm_num [lowConfidenceGuardMultiplier]
  · exact zero_le_one

theorem stabilityMultiplier_le (le : left.AtMost right) (ratingCount : ℚ) :
    left.stabilityMultiplier ratingCount ≤ right.stabilityMultiplier ratingCount :=
  mul_le_mul (baseStabilityMultiplier_le le ratingCount)
    (confidenceGuardMultiplier_le le ratingCount)
    (left.confidenceGuardMultiplier_nonneg ratingCount)
    (right.baseStabilityMultiplier_nonneg ratingCount)

/-- A greater reading weighs more. -/
theorem weight_le (le : left.AtMost right) (leftNonneg : left.Nonneg)
    (rightNonneg : right.Nonneg) (ratingCount : ℚ) :
    left.behaviorSignal * left.stabilityMultiplier ratingCount ≤
      right.behaviorSignal * right.stabilityMultiplier ratingCount := by
  have signal : left.behaviorSignal ≤ right.behaviorSignal :=
    add_le_add (sessionBehaviorSignal_le le leftNonneg rightNonneg)
      (historicalBehaviorSignal_le le)
  have stable : 0 ≤ left.stabilityMultiplier ratingCount :=
    mul_nonneg (left.baseStabilityMultiplier_nonneg ratingCount)
      (left.confidenceGuardMultiplier_nonneg ratingCount)
  exact mul_le_mul signal (stabilityMultiplier_le le ratingCount) stable
    (behaviorSignal_nonneg rightNonneg)

end BehaviorReading

end Tchuno.Web
