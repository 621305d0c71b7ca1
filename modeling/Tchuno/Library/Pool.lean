import Mathlib.Algebra.BigOperators.Group.Finset.Basic
import Mathlib.Algebra.BigOperators.Intervals
import Mathlib.Logic.Function.Basic

/-!
# Pools of numbered activities

Every activity is started under a number of its own, which is not given again after it
has ended.  A weight on activities adds up over the pool, which is what an amortised
count of the work still to be done needs.
-/

namespace Tchuno.Library

universe u

/-- The running activities by their numbers; numbers from `next` on were never given. -/
structure Pool (α : Type u) where
  get? : Nat → Option α
  next : Nat
  fresh : ∀ number, next ≤ number → get? number = none

namespace Pool

variable {α : Type u}

def empty : Pool α :=
  ⟨fun _ => none, 0, fun _ _ => rfl⟩

/-- Give a number away before anything runs under it. -/
def reserve (pool : Pool α) : Pool α :=
  ⟨pool.get?, pool.next + 1, fun number above => pool.fresh number (by omega)⟩

/-- What runs under a number that was given becomes `activity`. -/
def set (pool : Pool α) (number : Nat) (activity : Option α) : Pool α where
  get? other := if other = number ∧ number < pool.next then activity else pool.get? other
  next := pool.next
  fresh other above := by
    rw [if_neg fun both => absurd both.2 (both.1 ▸ not_lt.mpr above)]
    exact pool.fresh other above

@[simp]
theorem next_reserve (pool : Pool α) : pool.reserve.next = pool.next + 1 := rfl

@[simp]
theorem get?_reserve (pool : Pool α) : pool.reserve.get? = pool.get? := rfl

@[simp]
theorem next_set (pool : Pool α) (number : Nat) (activity : Option α) :
    (pool.set number activity).next = pool.next := rfl

theorem get?_set_self {pool : Pool α} {number : Nat} (given : number < pool.next)
    (activity : Option α) : (pool.set number activity).get? number = activity :=
  if_pos ⟨rfl, given⟩

theorem get?_set_of_ne (pool : Pool α) {number other : Nat} (different : other ≠ number)
    (activity : Option α) : (pool.set number activity).get? other = pool.get? other :=
  if_neg fun both => different both.1

@[simp]
theorem get?_next (pool : Pool α) : pool.get? pool.next = none :=
  pool.fresh _ le_rfl

theorem lt_next_of_get? {pool : Pool α} {number : Nat} {activity : α}
    (running : pool.get? number = some activity) : number < pool.next := by
  by_contra above
  rw [pool.fresh number (not_lt.mp above)] at running
  cases running

/-! ## Weights -/

/-- The weight of what runs under a number. -/
def weightAt (weight : α → Nat) (pool : Pool α) (number : Nat) : Nat :=
  (pool.get? number).elim 0 weight

/-- The weight of all the running activities. -/
def weight (weight : α → Nat) (pool : Pool α) : Nat :=
  ∑ number ∈ Finset.range pool.next, pool.weightAt weight number

variable (measure : α → Nat)

@[simp]
theorem weight_empty : (empty : Pool α).weight measure = 0 := rfl

@[simp]
theorem weight_reserve (pool : Pool α) :
    pool.reserve.weight measure = pool.weight measure := by
  have none : pool.reserve.weightAt measure pool.next = 0 := by
    simp [weightAt]
  rw [weight, next_reserve, Finset.sum_range_succ, none, add_zero]
  rfl

/-- Replacing an activity exchanges its weight. -/
theorem weight_set {pool : Pool α} {number : Nat} (given : number < pool.next)
    (activity : Option α) :
    (pool.set number activity).weight measure + pool.weightAt measure number =
      pool.weight measure + activity.elim 0 measure := by
  have member : number ∈ Finset.range pool.next := Finset.mem_range.mpr given
  have others : ∑ other ∈ (Finset.range pool.next).erase number,
      (pool.set number activity).weightAt measure other =
        ∑ other ∈ (Finset.range pool.next).erase number, pool.weightAt measure other := by
    refine Finset.sum_congr rfl fun other kept => ?_
    rw [weightAt, get?_set_of_ne pool (Finset.ne_of_mem_erase kept), weightAt]
  have before : pool.weightAt measure number +
      ∑ other ∈ (Finset.range pool.next).erase number, pool.weightAt measure other =
        pool.weight measure := Finset.add_sum_erase _ _ member
  have after : (pool.set number activity).weightAt measure number +
      ∑ other ∈ (Finset.range pool.next).erase number,
        (pool.set number activity).weightAt measure other =
          (pool.set number activity).weight measure := Finset.add_sum_erase _ _ member
  have placed : (pool.set number activity).weightAt measure number =
      activity.elim 0 measure := by
    rw [weightAt, get?_set_self given]
  omega

theorem weightAt_of_get? {pool : Pool α} {number : Nat} {activity : α}
    (running : pool.get? number = some activity) :
    pool.weightAt measure number = measure activity := by
  rw [weightAt, running]
  rfl

theorem weightAt_of_none {pool : Pool α} {number : Nat} (idle : pool.get? number = none) :
    pool.weightAt measure number = 0 := by
  rw [weightAt, idle]
  rfl

end Pool

end Tchuno.Library
