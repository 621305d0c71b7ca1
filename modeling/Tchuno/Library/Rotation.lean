import Mathlib.Algebra.BigOperators.Group.Finset.Basic
import Mathlib.Data.Finset.Card
import Mathlib.Tactic.Linarith

/-!
# Batches taken in rotation

In every round the items with the oldest stamps are served, a fixed number of them.  A
served item gets whatever stamp the service gives it; the stamps of the others stay.  How
long the item with the newest stamp waits depends only on how many served items are
stamped behind it too low: those are ahead of it once more.
-/

namespace Tchuno.Library

universe u v

/-- Rounds of at most `size` items each. -/
structure Rotation (ι : Type u) (κ : Type v) [DecidableEq ι] [LinearOrder κ] (size : Nat) where
  items : Finset ι
  stamp : Nat → ι → κ
  batch : Nat → Finset ι
  batch_subset : ∀ round, batch round ⊆ items
  card_batch : ∀ round, (batch round).card = min size items.card
  oldest_first : ∀ round, ∀ item ∈ batch round, ∀ other ∈ items, other ∉ batch round →
    stamp round item < stamp round other
  untouched : ∀ round, ∀ item ∈ items, item ∉ batch round →
    stamp (round + 1) item = stamp round item

namespace Rotation

variable {ι : Type u} {κ : Type v} [DecidableEq ι] [LinearOrder κ] {size : Nat}
variable (rotation : Rotation ι κ size) (last : ι)

/-- The items whose turn comes before that of `last`, and `last`. -/
def ahead (round : Nat) : Finset ι :=
  rotation.items.filter fun item => rotation.stamp round item ≤ rotation.stamp round last

/-- The items which the round serves and which stay ahead of `last`. -/
def setBack (round : Nat) : Finset ι :=
  (rotation.batch round).filter fun item =>
    rotation.stamp (round + 1) item ≤ rotation.stamp (round + 1) last

variable {last}

theorem batch_subset_ahead (present : last ∈ rotation.items) {round : Nat}
    (waits : last ∉ rotation.batch round) :
    rotation.batch round ⊆ rotation.ahead last round := by
  intro item served
  have older := rotation.oldest_first round item served last present waits
  exact Finset.mem_filter.mpr ⟨rotation.batch_subset round served, older.le⟩

theorem mem_batch_iff (present : last ∈ rotation.items) (round : Nat) :
    last ∈ rotation.batch round ↔ (rotation.ahead last round).card ≤ size := by
  constructor
  · intro served
    have within : rotation.ahead last round ⊆ rotation.batch round := by
      intro item member
      have kept := Finset.mem_filter.mp member
      by_contra waits
      have newer := rotation.oldest_first round last served item kept.1 waits
      exact absurd kept.2 (not_le.mpr newer)
    have bound := Finset.card_le_card within
    have taken := rotation.card_batch round
    omega
  · intro few
    by_contra waits
    have within : insert last (rotation.batch round) ⊆ rotation.ahead last round := by
      intro item member
      rcases Finset.mem_insert.mp member with rfl | served
      · exact Finset.mem_filter.mpr ⟨present, le_rfl⟩
      · exact rotation.batch_subset_ahead present waits served
    have bound := Finset.card_le_card within
    rw [Finset.card_insert_of_notMem waits] at bound
    have taken := rotation.card_batch round
    have all : rotation.batch round = rotation.items :=
      Finset.eq_of_subset_of_card_le (rotation.batch_subset round) (by omega)
    exact waits (all ▸ present)

/-- A round which does not serve `last` takes a whole batch from ahead of it and puts
back what it sets back. -/
theorem card_ahead_succ (present : last ∈ rotation.items) {round : Nat}
    (waits : last ∉ rotation.batch round) :
    (rotation.ahead last (round + 1)).card + size =
      (rotation.ahead last round).card + (rotation.setBack last round).card := by
  have kept := rotation.untouched round last present waits
  have split : rotation.ahead last (round + 1) =
      (rotation.ahead last round \ rotation.batch round) ∪ rotation.setBack last round := by
    ext item
    by_cases served : item ∈ rotation.batch round
    · have member := rotation.batch_subset round served
      simp [ahead, setBack, served, member]
    · by_cases member : item ∈ rotation.items
      · have same := rotation.untouched round item member served
        simp [ahead, setBack, served, member, same, kept]
      · simp [ahead, setBack, served, member]
  have apart : Disjoint (rotation.ahead last round \ rotation.batch round)
      (rotation.setBack last round) :=
    Finset.disjoint_of_subset_right (Finset.filter_subset _ _) Finset.sdiff_disjoint
  have within := rotation.batch_subset_ahead present waits
  have fits := Finset.card_le_card within
  have many : ¬ (rotation.ahead last round).card ≤ size :=
    fun few => waits ((rotation.mem_batch_iff present round).mpr few)
  have total : (rotation.ahead last round).card ≤ rotation.items.card :=
    Finset.card_le_card (Finset.filter_subset _ _)
  have taken := rotation.card_batch round
  rw [split, Finset.card_union_of_disjoint apart, Finset.card_sdiff_of_subset within]
  omega

theorem card_ahead (present : last ∈ rotation.items)
    (newest : ∀ item ∈ rotation.items, rotation.stamp 0 item ≤ rotation.stamp 0 last)
    (round : Nat) (waits : ∀ earlier < round, last ∉ rotation.batch earlier) :
    (rotation.ahead last round).card + round * size =
      rotation.items.card +
        ∑ earlier ∈ Finset.range round, (rotation.setBack last earlier).card := by
  induction round with
  | zero =>
      have all : rotation.ahead last 0 = rotation.items := Finset.filter_true_of_mem newest
      simp [all]
  | succ round inductionHypothesis =>
      have before := inductionHypothesis fun earlier less => waits earlier (by omega)
      have moved := rotation.card_ahead_succ present (waits round (Nat.lt_succ_self round))
      rw [Finset.sum_range_succ, Nat.succ_mul]
      omega

/-- Too few rounds to serve everything do not reach `last`. -/
theorem last_waits (present : last ∈ rotation.items)
    (newest : ∀ item ∈ rotation.items, rotation.stamp 0 item ≤ rotation.stamp 0 last)
    {rounds : Nat} (few : rounds * size < rotation.items.card) :
    ∀ round < rounds, last ∉ rotation.batch round := by
  intro round
  induction round using Nat.strong_induction_on with
  | _ round inductionHypothesis =>
      intro less served
      have counted := rotation.card_ahead present newest round fun earlier sooner =>
        inductionHypothesis earlier sooner (by omega)
      have reached := (rotation.mem_batch_iff present round).mp served
      have product : (round + 1) * size ≤ rounds * size := Nat.mul_le_mul_right size less
      rw [Nat.succ_mul] at product
      omega

/-- What is never served keeps its stamp. -/
theorem stamp_of_waits {item : ι} (member : item ∈ rotation.items) (round : Nat)
    (waits : ∀ earlier < round, item ∉ rotation.batch earlier) :
    rotation.stamp round item = rotation.stamp 0 item := by
  induction round with
  | zero =>
      rfl
  | succ round inductionHypothesis =>
      have now := rotation.untouched round item member (waits round (Nat.lt_succ_self round))
      exact now.trans (inductionHypothesis fun earlier less => waits earlier (by omega))

/-- Once the newest item is served, every item has been. -/
theorem served_before (present : last ∈ rotation.items)
    (newest : ∀ item ∈ rotation.items, rotation.stamp 0 item ≤ rotation.stamp 0 last)
    {round : Nat} (served : last ∈ rotation.batch round)
    (waits : ∀ earlier < round, last ∉ rotation.batch earlier) {item : ι}
    (member : item ∈ rotation.items) : ∃ earlier ≤ round, item ∈ rotation.batch earlier := by
  by_contra never
  have waiting : ∀ earlier ≤ round, item ∉ rotation.batch earlier := by
    simpa only [not_exists, not_and] using never
  have itemStamp := rotation.stamp_of_waits member round fun earlier less =>
    waiting earlier less.le
  have lastStamp := rotation.stamp_of_waits present round waits
  have newer := rotation.oldest_first round last served item member (waiting round le_rfl)
  rw [itemStamp, lastStamp] at newer
  exact absurd (newest item member) (not_le.mpr newer)

/-- All items are served in the fewest rounds possible just when the rounds before the
last set back no more items than the last has places to spare. -/
theorem all_served_iff (present : last ∈ rotation.items)
    (newest : ∀ item ∈ rotation.items, rotation.stamp 0 item ≤ rotation.stamp 0 last)
    {rounds : Nat} (few : rounds * size < rotation.items.card) :
    (∀ item ∈ rotation.items, ∃ round < rounds + 1, item ∈ rotation.batch round) ↔
      rotation.items.card +
          ∑ round ∈ Finset.range rounds, (rotation.setBack last round).card ≤
        (rounds + 1) * size := by
  have waits := rotation.last_waits present newest few
  have counted := rotation.card_ahead present newest rounds waits
  have reached := rotation.mem_batch_iff present rounds
  have product : (rounds + 1) * size = rounds * size + size := Nat.succ_mul rounds size
  constructor
  · intro all
    obtain ⟨round, less, served⟩ := all last present
    have final : round = rounds := by
      by_contra different
      exact waits round (by omega) served
    have enough := reached.mp (final ▸ served)
    omega
  · intro enough item member
    have served := reached.mpr (by omega)
    obtain ⟨round, le, done⟩ := rotation.served_before present newest served waits member
    exact ⟨round, Nat.lt_succ_of_le le, done⟩

end Rotation

/-- Where the waiting items are the oldest, a batch from the front of the list takes as
many of them as it can hold. -/
theorem countP_drop_of_oldest {ι : Type u} {κ : Type v} [LinearOrder κ] {stamp : ι → κ}
    {waiting : ι → Bool} {items : List ι}
    (sorted : items.Pairwise fun left right => stamp left ≤ stamp right)
    (oldest : ∀ item ∈ items, waiting item = true →
      ∀ other ∈ items, waiting other = false → stamp item < stamp other) (size : Nat) :
    (items.drop size).countP waiting = items.countP waiting - size := by
  induction items generalizing size with
  | nil =>
      simp
  | cons head rest inductionHypothesis =>
      obtain ⟨first, sortedRest⟩ := List.pairwise_cons.mp sorted
      cases size with
      | zero =>
          rfl
      | succ size =>
          have shorter := inductionHypothesis sortedRest (fun item member waits other inside =>
            oldest item (List.mem_cons_of_mem _ member) waits other
              (List.mem_cons_of_mem _ inside)) size
          rw [List.drop_succ_cons, shorter]
          cases waits : waiting head with
          | true =>
              rw [List.countP_cons_of_pos waits]
              omega
          | false =>
              -- nobody waits behind one who does not
              have none : rest.countP waiting = 0 := by
                refine List.countP_eq_zero.mpr fun item member itemWaits => ?_
                have before := oldest item (List.mem_cons_of_mem _ member) itemWaits head
                  List.mem_cons_self waits
                exact absurd (first item member) (not_le.mpr before)
              rw [List.countP_cons_of_neg (Bool.eq_false_iff.mp waits), none]
              omega

end Tchuno.Library
