import Mathlib.Data.Int.Log
import Mathlib.Tactic.FieldSimp
import Mathlib.Tactic.Linarith
import Tchuno.Library.Ecma

/-!
# Doubles

A positive rational number becomes a double by rounding to 53 binary digits.  What is
printed with two decimals afterwards is a nearest hundredth of the number as well, unless
its denominator is so large that it is closer to the middle of two hundredths than doubles
can tell.
-/

namespace Tchuno.Library.Ecma

/-- To the nearest integer, halves to the even one. -/
def roundHalfEven (x : ℚ) : ℤ :=
  if Int.fract x < 1 / 2 then ⌊x⌋
  else if 1 / 2 < Int.fract x then ⌊x⌋ + 1
  else if ⌊x⌋ % 2 = 0 then ⌊x⌋
  else ⌊x⌋ + 1

/-- The weight of the last of 53 binary digits. -/
def unitInLastPlace (x : ℚ) : ℚ :=
  2 ^ (Int.log 2 x - 52)

/-- The double nearest to a positive number which is neither huge nor tiny. -/
def toDouble (x : ℚ) : ℚ :=
  roundHalfEven (x / unitInLastPlace x) * unitInLastPlace x

/-- `Number.prototype.toFixed(2)` of a number which is not negative. -/
def toFixed2 (x : ℚ) : ℚ :=
  mathRound (100 * x) / 100

/-- One of the nearest multiples of a hundredth. -/
def IsNearestHundredth (rounded x : ℚ) : Prop :=
  (∃ hundredths : ℤ, rounded = hundredths / 100) ∧ |rounded - x| ≤ 1 / 200

/-! ## The error of a double -/

theorem abs_roundHalfEven_sub_le (x : ℚ) : |roundHalfEven x - x| ≤ 1 / 2 := by
  have split := Int.floor_add_fract x
  have nonneg := Int.fract_nonneg x
  have ltOne := Int.fract_lt_one x
  rw [abs_le]
  unfold roundHalfEven
  split_ifs <;> push_cast <;> constructor <;> linarith

theorem unitInLastPlace_pos (x : ℚ) : 0 < unitInLastPlace x :=
  zpow_pos (by norm_num) _

theorem abs_toDouble_sub_le (x : ℚ) : |toDouble x - x| ≤ unitInLastPlace x / 2 := by
  have positive := unitInLastPlace_pos x
  have error := abs_roundHalfEven_sub_le (x / unitInLastPlace x)
  have scaled : toDouble x - x =
      (roundHalfEven (x / unitInLastPlace x) - x / unitInLastPlace x) * unitInLastPlace x := by
    rw [toDouble, sub_mul, div_mul_cancel₀ x positive.ne']
  calc |toDouble x - x|
      = |roundHalfEven (x / unitInLastPlace x) - x / unitInLastPlace x| *
          unitInLastPlace x := by
        rw [scaled, abs_mul, abs_of_pos positive]
    _ ≤ 1 / 2 * unitInLastPlace x :=
        mul_le_mul_of_nonneg_right error positive.le
    _ = unitInLastPlace x / 2 := by
        ring

theorem unitInLastPlace_le {x : ℚ} (positive : 0 < x) (small : x < 8) :
    unitInLastPlace x ≤ 1 / 2 ^ 50 := by
  have exponent : Int.log 2 x < 3 := by
    apply (Int.lt_zpow_iff_log_lt (by norm_num) positive).mp
    norm_num
    exact small
  have power : (2 : ℚ) ^ (-50 : ℤ) = 1 / 2 ^ 50 := by norm_num
  rw [← power]
  apply zpow_le_zpow_right₀ (by norm_num)
  omega

theorem abs_toDouble_sub_lt {x : ℚ} (positive : 0 < x) (small : x < 8) :
    |toDouble x - x| < 1 / 10 ^ 15 := by
  have error := abs_toDouble_sub_le x
  have unit := unitInLastPlace_le positive small
  have power : (1 : ℚ) / 2 ^ 50 / 2 < 1 / 10 ^ 15 := by norm_num
  linarith

/-! ## The relative error -/

theorem unitInLastPlace_le_div {x : ℚ} (positive : 0 < x) :
    unitInLastPlace x ≤ x / 2 ^ 52 := by
  have power : (2 : ℚ) ^ Int.log 2 x ≤ x :=
    Int.zpow_log_le_self (by norm_num) positive
  have shifted : unitInLastPlace x = 2 ^ Int.log 2 x / 2 ^ 52 := by
    rw [unitInLastPlace, zpow_sub₀ (by norm_num)]
    norm_num
  rw [shifted]
  exact div_le_div_of_nonneg_right power (by norm_num)

theorem toDouble_zero : toDouble 0 = 0 := by
  have rounded : roundHalfEven 0 = 0 := by
    simp [roundHalfEven]
  rw [toDouble, zero_div, rounded, Int.cast_zero, zero_mul]

theorem toDouble_nonneg {x : ℚ} (nonneg : 0 ≤ x) : 0 ≤ toDouble x := by
  have unit := unitInLastPlace_pos x
  have floor : 0 ≤ ⌊x / unitInLastPlace x⌋ :=
    Int.floor_nonneg.mpr (div_nonneg nonneg unit.le)
  have rounded : 0 ≤ roundHalfEven (x / unitInLastPlace x) := by
    unfold roundHalfEven
    split_ifs <;> omega
  apply mul_nonneg _ unit.le
  exact_mod_cast rounded

/-- A double is larger than the number by one part of `2 ^ 53` at most. -/
theorem toDouble_le {x : ℚ} (nonneg : 0 ≤ x) : toDouble x ≤ x * (1 + 1 / 2 ^ 53) := by
  rcases nonneg.eq_or_lt with rfl | positive
  · rw [toDouble_zero, zero_mul]
  · have error := (abs_le.mp (abs_toDouble_sub_le x)).2
    have unit := unitInLastPlace_le_div positive
    linarith

/-- A quotient of doubles below a whole number of moderate size is not rounded past it. -/
theorem mathRound_toDouble_div_le {product divisor : ℚ} {bound : ℤ} (positive : 0 < divisor)
    (nonneg : 0 ≤ product) (le : product / divisor ≤ bound) (moderate : bound ≤ 2 ^ 50) :
    mathRound (toDouble (toDouble product / divisor)) ≤ bound := by
  have size : (bound : ℚ) ≤ 2 ^ 50 := by exact_mod_cast moderate
  have quotient : toDouble product / divisor ≤ bound * (1 + 1 / 2 ^ 53) := by
    calc toDouble product / divisor
        ≤ product * (1 + 1 / 2 ^ 53) / divisor :=
          div_le_div_of_nonneg_right (toDouble_le nonneg) positive.le
      _ = product / divisor * (1 + 1 / 2 ^ 53) := by ring
      _ ≤ bound * (1 + 1 / 2 ^ 53) := mul_le_mul_of_nonneg_right le (by norm_num)
  have rounded := toDouble_le (div_nonneg (toDouble_nonneg nonneg) positive.le)
  have below : toDouble (toDouble product / divisor) < bound + 1 / 2 := by
    linarith
  rw [mathRound, ← Int.lt_add_one_iff, Int.floor_lt]
  push_cast
  linarith

/-! ## Two decimals -/

theorem mathRound_le_add (x : ℚ) : (mathRound x : ℚ) ≤ x + 1 / 2 :=
  Int.floor_le _

theorem lt_mathRound_add_one (x : ℚ) : x + 1 / 2 < mathRound x + 1 :=
  Int.lt_floor_add_one _

/-- A fraction past the middle of two integers is past it by a part of its denominator. -/
theorem middle_add_le_of_lt {sum middle : ℤ} {count : ℕ} (positive : 0 < count)
    (past : (2 * middle + 1 : ℚ) / 2 < 100 * (sum / count)) :
    (2 * middle + 1 : ℚ) / 2 + 1 / (2 * count) ≤ 100 * (sum / count) := by
  have nonzero : (0 : ℚ) < count := by exact_mod_cast positive
  have integers : (2 * middle + 1) * (count : ℤ) < 200 * sum := by
    have cleared : (2 * middle + 1 : ℚ) * count < 200 * sum := by
      have scaled := mul_lt_mul_of_pos_right past nonzero
      rw [mul_assoc, div_mul_cancel₀ _ nonzero.ne'] at scaled
      linarith
    exact_mod_cast cleared
  have next : ((2 * middle + 1 : ℚ) * count + 1) ≤ 200 * sum := by
    exact_mod_cast integers
  have scaled : 100 * ((sum : ℚ) / count) - ((2 * middle + 1 : ℚ) / 2 + 1 / (2 * count)) =
      (200 * sum - ((2 * middle + 1 : ℚ) * count + 1)) / (2 * count) := by
    field_simp
    ring
  have difference : 0 ≤ 100 * ((sum : ℚ) / count) -
      ((2 * middle + 1 : ℚ) / 2 + 1 / (2 * count)) := by
    rw [scaled]
    exact div_nonneg (by linarith) (by linarith)
  linarith

/-- The same below the middle. -/
theorem add_le_middle_of_lt {sum middle : ℤ} {count : ℕ} (positive : 0 < count)
    (before : 100 * (sum / count) < (2 * middle + 1 : ℚ) / 2) :
    100 * (sum / count) + 1 / (2 * count) ≤ (2 * middle + 1 : ℚ) / 2 := by
  have past : (2 * ((-middle - 1 : ℤ) : ℚ) + 1) / 2 < 100 * (((-sum : ℤ) : ℚ) / count) := by
    push_cast
    rw [neg_div]
    linarith
  have shifted := middle_add_le_of_lt positive past
  push_cast at shifted
  rw [neg_div] at shifted
  linarith

theorem toFixed2_toDouble {sum : ℤ} {count : ℕ} (positive : 0 < (sum : ℚ) / count)
    (small : (sum : ℚ) / count < 8) (few : count < 2 ^ 31) :
    IsNearestHundredth (toFixed2 (toDouble (sum / count))) (sum / count) := by
  refine ⟨⟨_, rfl⟩, ?_⟩
  have some : 0 < count := by
    apply Nat.pos_of_ne_zero
    intro none
    rw [none] at positive
    simp at positive
  have error := abs_lt.mp (abs_toDouble_sub_lt positive small)
  have denominator : (1 : ℚ) / 2 ^ 32 ≤ 1 / (2 * count) := by
    apply one_div_le_one_div_of_le
    · have nonzero : (0 : ℚ) < count := by exact_mod_cast some
      linarith
    · have bound : (count : ℚ) ≤ 2 ^ 31 := by exact_mod_cast few.le
      linarith
  have gap : (1 : ℚ) / 10 ^ 13 < 1 / 2 ^ 32 := by norm_num
  have lower := mathRound_le_add (100 * toDouble (sum / count))
  have upper := lt_mathRound_add_one (100 * toDouble (sum / count))
  rw [toFixed2, abs_le]
  generalize mathRound (100 * toDouble (sum / count)) = rounded at lower upper ⊢
  have above : 100 * ((sum : ℚ) / count) ≤ (2 * rounded + 1 : ℚ) / 2 := by
    by_contra past
    have far := middle_add_le_of_lt some (lt_of_not_ge past)
    linarith
  have below : (2 * (rounded - 1 : ℤ) + 1 : ℚ) / 2 ≤ 100 * ((sum : ℚ) / count) := by
    by_contra before
    have far := add_le_middle_of_lt some (lt_of_not_ge before)
    push_cast at far before
    linarith
  push_cast at below
  constructor <;> linarith

end Tchuno.Library.Ecma
