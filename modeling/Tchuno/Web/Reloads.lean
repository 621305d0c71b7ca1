import Mathlib.Tactic.NormNum
import Tchuno.Web.BehaviorAggregation

/-!
# Reloading a page

What a page stores, the next one reads back.  The counts come back as they were, up to
their bound; the age of the history does not: a page stamps all of it with the time at which
it stores it, also what it has itself read from the storage.
-/

namespace Tchuno.Web

open Tchuno.Library

namespace Page

/-! ## Reloads -/

def worker (page : Page) (workerId : WorkerId) : WorkerBehaviorAggregate :=
  (page.workerBehaviorById.get? workerId).getD .empty

/-- Session plus history. -/
def counted (page : Page) (workerId : WorkerId) : BehaviorCounts :=
  (page.worker workerId).historical + (page.worker workerId).session

/-- When a page stores its aggregates, and when the next one reads them. -/
structure Reload where
  persistedAt : Time
  hydratedAt : Time

/-- Store the aggregates and load the page again. -/
def reload (page : Page) (times : Reload) : Page :=
  (Page.fresh (page.persistBehaviorAggregation times.persistedAt).storage
    ).ensureBehaviorAggregationHydrated times.hydratedAt

/-- Any number of reloads without events. -/
def reloads (page : Page) (times : List Reload) : Page :=
  times.foldl reload page

/-- The worker has the same counts as history, and a history of the same age. -/
structure Survives (before after : Page) (workerId : WorkerId) : Prop where
  historical : (after.worker workerId).historical = (before.counted workerId).normalize
  session : (after.worker workerId).session = 0
  totals : (after.worker workerId).totals = (before.counted workerId).normalize
  age : (after.worker workerId).historyLastUpdatedAt =
    (before.worker workerId).historyLastUpdatedAt

/-- The history is as old as the item which is stored, and the item is read before it
expires. -/
def Keeps (page : Page) (workerId : WorkerId) (times : Reload) : Prop :=
  if page.counted workerId = 0 then
    (page.worker workerId).historyLastUpdatedAt = none
  else
    times.hydratedAt < times.persistedAt + behaviorAggregationTtlMs ∧
      (page.worker workerId).historyLastUpdatedAt = some times.persistedAt

/-! ## One reload -/

variable {page : Page} {workerId : WorkerId}

theorem get?_persisted (now : Time) :
    (page.workerBehaviorById.collect ⟨none, none, none, none, none⟩
        (persistedWorker? now)).get? workerId =
      persistedWorker? now (page.worker workerId) := by
  rw [Record.get?_collect, worker]
  cases page.workerBehaviorById.get? workerId with
  | none =>
      rfl
  | some stats =>
      rfl

theorem persistedWorker_eq_none {now : Time} {stats : WorkerBehaviorAggregate} :
    persistedWorker? now stats = none ↔ stats.historical + stats.session = 0 := by
  simp only [persistedWorker?, BehaviorCounts.normalize_eq_zero]
  split_ifs with nothing <;> simp [nothing]

theorem counts_persistedWorker {now : Time} {stats : WorkerBehaviorAggregate}
    {stored : PersistedWorkerBehaviorAggregate}
    (persisted : persistedWorker? now stats = some stored) :
    stored.counts = (stats.historical + stats.session).normalize ∧
      stored.lastUpdatedAt = some now ∧ stored.counts ≠ 0 := by
  unfold persistedWorker? at persisted
  by_cases nothing : (stats.historical + stats.session).normalize = 0
  · rw [if_pos nothing] at persisted
    cases persisted
  · rw [if_neg nothing] at persisted
    obtain rfl := Option.some.inj persisted
    have same := BehaviorCounts.normalize_normalize (stats.historical + stats.session)
    refine ⟨same, rfl, fun none => nothing (same.symm.trans none)⟩

/-- The snapshot which a page stores. -/
def snapshot (page : Page) (now : Time) : PersistedBehaviorAggregationSnapshot where
  version := behaviorAggregationStorageVersion
  savedAt := some now
  expiresAt := some (now + behaviorAggregationTtlMs)
  workersById := page.workerBehaviorById.collect ⟨none, none, none, none, none⟩
    (persistedWorker? now)
  categoriesBySlug := page.categoryInteractionBySlug.collect none persistedCategory?

theorem isUsable_snapshot (times : Reload) :
    (page.snapshot times.persistedAt).isUsable times.hydratedAt = true ↔
      times.hydratedAt < times.persistedAt + behaviorAggregationTtlMs := by
  simp [PersistedBehaviorAggregationSnapshot.isUsable, snapshot]

theorem reload_of_expired {times : Reload}
    (expired : ¬ times.hydratedAt < times.persistedAt + behaviorAggregationTtlMs) :
    (page.reload times).workerBehaviorById = .empty := by
  have unusable : ¬ (page.snapshot times.persistedAt).isUsable times.hydratedAt = true :=
    fun usable => expired ((isUsable_snapshot times).mp usable)
  have read : page.reload times =
      if (page.snapshot times.persistedAt).isUsable times.hydratedAt = true then _ else _ := rfl
  rw [read, if_neg unusable]
  rfl

theorem reload_of_valid {times : Reload}
    (valid : times.hydratedAt < times.persistedAt + behaviorAggregationTtlMs) :
    (page.reload times).workerBehaviorById =
        Record.empty.absorb .empty (hydratedWorker? (page.snapshot times.persistedAt))
          (page.snapshot times.persistedAt).workersById ∧
      (page.reload times).categoryInteractionBySlug =
        Record.empty.absorb 0 hydratedCategory?
          (page.snapshot times.persistedAt).categoriesBySlug := by
  have usable := (@isUsable_snapshot page times).mpr valid
  have read : page.reload times =
      if (page.snapshot times.persistedAt).isUsable times.hydratedAt = true then _ else _ := rfl
  rw [read, if_pos usable]
  exact ⟨rfl, rfl⟩

/-- The aggregate of a worker which is only known from the storage. -/
def restoredWorker (counts : BehaviorCounts) (lastUpdatedAt : Option Time) :
    WorkerBehaviorAggregate where
  totals := counts
  lastInteractionEventIndex := 0
  session := 0
  historical := counts
  historyLastUpdatedAt := lastUpdatedAt

theorem hydratedWorker_snapshot (now : Time) {raw : PersistedWorkerBehaviorAggregate}
    (counted : raw.counts ≠ 0) :
    (hydratedWorker? (page.snapshot now) raw).map (fun change => change .empty) =
      some (restoredWorker raw.counts raw.lastUpdatedAt) := by
  have history : WorkerBehaviorAggregate.empty.historical + raw.counts = raw.counts :=
    BehaviorCounts.zero_add raw.counts
  have total : WorkerBehaviorAggregate.empty.session + raw.counts = raw.counts :=
    BehaviorCounts.zero_add raw.counts
  rw [hydratedWorker?, if_neg counted, Option.map_some]
  simp only [syncWorkerBehaviorTotals, history, total]
  rfl

/-- A worker after a reload: its counts as history, stamped with the time of the storage. -/
theorem worker_reload (times : Reload) :
    (page.reload times).worker workerId =
      if page.counted workerId = 0 ∨
          ¬ times.hydratedAt < times.persistedAt + behaviorAggregationTtlMs then
        .empty
      else
        restoredWorker (page.counted workerId).normalize (some times.persistedAt) := by
  by_cases valid : times.hydratedAt < times.persistedAt + behaviorAggregationTtlMs
  · have stored : (page.snapshot times.persistedAt).workersById.get? workerId =
        persistedWorker? times.persistedAt (page.worker workerId) := get?_persisted _
    rw [worker, (reload_of_valid valid).1, Record.get?_absorb, stored]
    cases persisted : persistedWorker? times.persistedAt (page.worker workerId) with
    | none =>
        have nothing : page.counted workerId = 0 := persistedWorker_eq_none.mp persisted
        rw [if_pos (Or.inl nothing)]
        rfl
    | some raw =>
        obtain ⟨counts, stamped, counted⟩ := counts_persistedWorker persisted
        have something : page.counted workerId ≠ 0 := by
          intro nothing
          rw [persistedWorker_eq_none.mpr nothing] at persisted
          cases persisted
        have total : raw.counts = (page.counted workerId).normalize := counts
        have restored := @hydratedWorker_snapshot page times.persistedAt raw counted
        rw [if_neg (by simp [something, valid]), ← total, ← stamped, Option.bind_some]
        cases changed : hydratedWorker? (page.snapshot times.persistedAt) raw with
        | none =>
            rw [changed] at restored
            cases restored
        | some change =>
            rw [changed] at restored
            exact Option.some.inj restored
  · rw [if_pos (Or.inr valid), worker, reload_of_expired valid]
    rfl

theorem survives_reload_iff (times : Reload) :
    Survives page (page.reload times) workerId ↔ page.Keeps workerId times := by
  have after := @worker_reload page workerId times
  unfold Keeps
  by_cases nothing : page.counted workerId = 0
  · rw [if_pos (Or.inl nothing)] at after
    rw [if_pos nothing]
    constructor
    · intro survives
      have age := survives.age
      rw [after] at age
      exact age.symm
    · intro ageless
      have normal : (page.counted workerId).normalize = 0 :=
        BehaviorCounts.normalize_eq_zero.mpr nothing
      constructor <;> rw [after]
      · exact normal.symm
      · rfl
      · exact normal.symm
      · exact ageless.symm
  · rw [if_neg nothing]
    by_cases valid : times.hydratedAt < times.persistedAt + behaviorAggregationTtlMs
    · rw [if_neg (by simp [nothing, valid])] at after
      constructor
      · intro survives
        have age := survives.age
        rw [after] at age
        exact ⟨valid, age.symm⟩
      · intro kept
        constructor <;> rw [after]
        · rfl
        · rfl
        · rfl
        · exact kept.2.symm
    · rw [if_pos (Or.inr valid)] at after
      constructor
      · intro survives
        have counts := survives.historical
        rw [after] at counts
        exact absurd (BehaviorCounts.normalize_eq_zero.mp counts.symm) nothing
      · intro kept
        exact absurd kept.1 valid

/-! ## Many reloads -/

/-- What survived one reload survives another as the page before both. -/
theorem Survives.counted_after {after : Page} (survives : Survives page after workerId) :
    after.counted workerId = (page.counted workerId).normalize := by
  rw [counted, survives.historical, survives.session, BehaviorCounts.add_zero]

theorem Survives.trans_iff {middle after : Page} (survives : Survives page middle workerId) :
    Survives page after workerId ↔ Survives middle after workerId := by
  have counts : (middle.counted workerId).normalize = (page.counted workerId).normalize := by
    rw [survives.counted_after, BehaviorCounts.normalize_normalize]
  constructor
  · intro whole
    exact ⟨whole.historical.trans counts.symm, whole.session, whole.totals.trans counts.symm,
      whole.age.trans survives.age.symm⟩
  · intro rest
    exact ⟨rest.historical.trans counts, rest.session, rest.totals.trans counts,
      rest.age.trans survives.age⟩

theorem Survives.keeps_iff {middle : Page} (survives : Survives page middle workerId)
    (times : Reload) : middle.Keeps workerId times ↔ page.Keeps workerId times := by
  simp only [Keeps, survives.counted_after, BehaviorCounts.normalize_eq_zero, survives.age]

theorem worker_survives_iff (page : Page) (workerId : WorkerId) (times : List Reload) :
    (∀ count < times.length,
        Survives page (page.reloads (times.take (count + 1))) workerId) ↔
      ∀ each ∈ times, page.Keeps workerId each := by
  induction times generalizing page with
  | nil =>
      simp
  | cons first rest inductionHypothesis =>
      have once := @survives_reload_iff page workerId first
      constructor
      · intro all
        have start : Survives page (page.reload first) workerId :=
          all 0 (Nat.zero_lt_succ _)
        have later := (inductionHypothesis (page.reload first)).mp fun count less =>
          start.trans_iff.mp (all (count + 1) (Nat.succ_lt_succ less))
        intro each member
        rcases List.mem_cons.mp member with rfl | listed
        · exact once.mp start
        · exact (start.keeps_iff each).mp (later each listed)
      · intro all
        have start := once.mpr (all first List.mem_cons_self)
        have later := (inductionHypothesis (page.reload first)).mpr fun each listed =>
          (start.keeps_iff each).mpr (all each (List.mem_cons_of_mem _ listed))
        intro count less
        cases count with
        | zero =>
            exact start
        | succ count =>
            exact start.trans_iff.mpr (later count (Nat.lt_of_succ_lt_succ less))

theorem counted_reload (page : Page) (workerId : WorkerId) {times : Reload}
    (timely : times.hydratedAt < times.persistedAt + behaviorAggregationTtlMs) :
    (page.reload times).counted workerId = (page.counted workerId).normalize := by
  have once := @worker_reload page workerId times
  rw [counted, once]
  by_cases nothing : page.counted workerId = 0
  · rw [if_pos (Or.inl nothing), BehaviorCounts.normalize_eq_zero.mpr nothing]
    rfl
  · rw [if_neg (by simp [nothing, timely])]
    exact BehaviorCounts.add_zero _

/-- The counts survive every reload which reads the storage in time. -/
theorem counts_survive (page : Page) (workerId : WorkerId) (first : Reload)
    (rest : List Reload)
    (timely : ∀ each ∈ first :: rest,
      each.hydratedAt < each.persistedAt + behaviorAggregationTtlMs) :
    (page.reloads (first :: rest)).counted workerId = (page.counted workerId).normalize := by
  have once := counted_reload page workerId (timely first List.mem_cons_self)
  induction rest generalizing page first with
  | nil =>
      exact once
  | cons second rest inductionHypothesis =>
      have remaining := fun each member => timely each (List.mem_cons_of_mem first member)
      have later := inductionHypothesis (page.reload first) second remaining
        (counted_reload _ workerId (remaining second List.mem_cons_self))
      rw [once, BehaviorCounts.normalize_normalize] at later
      exact later

/-- Any number of reloads without events neither add, lose nor refresh what was counted
just when the history is as old as each item which is stored, and each item is read before
it expires. -/
theorem behaviour_survives_iff (page : Page) (times : List Reload) :
    (∀ count < times.length, ∀ workerId,
        Survives page (page.reloads (times.take (count + 1))) workerId) ↔
      ∀ each ∈ times, ∀ workerId, page.Keeps workerId each := by
  constructor
  · intro all each member workerId
    exact (worker_survives_iff page workerId times).mp
      (fun count less => all count less workerId) each member
  · intro all count less workerId
    exact (worker_survives_iff page workerId times).mpr
      (fun each member => all each member workerId) count less

/-- Five clicks on one worker, stored at time 0 and read back. -/
def sampleHistory : Page :=
  { Page.fresh none with
    workerBehaviorById := Record.empty.modify .empty "w" fun _ =>
      restoredWorker ⟨5, 5, 0, 0⟩ (some 0)
    behaviorAggregationHydrated := true }

/-- Two days later a reload makes the history new. -/
theorem reload_refreshes_history :
    (sampleHistory.worker "w").historyLastUpdatedAt = some 0 ∧
      ((sampleHistory.reload ⟨172800000, 172801000⟩).worker "w").historyLastUpdatedAt =
        some 172800000 ∧
      ¬ Survives sampleHistory (sampleHistory.reload ⟨172800000, 172801000⟩) "w" := by
  have before : (sampleHistory.worker "w").historyLastUpdatedAt = some 0 := rfl
  have after : ((sampleHistory.reload ⟨172800000, 172801000⟩).worker "w").historyLastUpdatedAt =
      some 172800000 := by decide +kernel
  refine ⟨before, after, fun survives => ?_⟩
  have same := survives.age
  rw [before, after] at same
  have equal : (172800000 : ℚ) = 0 := Option.some.inj same
  norm_num at equal

end Page

end Tchuno.Web
