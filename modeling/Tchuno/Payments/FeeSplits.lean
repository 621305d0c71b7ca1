import Tchuno.Payments.Policy

/-!
# The split of a deposit is the split of a payment

`computeDepositSplit` divides the deposit of a proposal, `computeSplit` the amount of
an intent.  Both round to whole units, with their own clamps.
-/

namespace Tchuno.Payments

open Tchuno.Library.Ecma

theorem mathRound_mono {x y : ℚ} (le : x ≤ y) : mathRound x ≤ mathRound y := by
  have shifted : x + 1 / 2 ≤ y + 1 / 2 := by linarith
  exact Int.floor_mono shifted

/-! ## The percentage and the deposit -/

/-- The percentage a proposal's deposit is computed with. -/
def resolvedDepositPercent (depositVariable : EnvNumber) (given : Option DepositPercent) :
    Int :=
  match given with
  | some percent => percent.val
  | none => resolveDepositPercentFromEnv depositVariable

theorem resolveDepositPercentFromEnv_bounds (parsed : EnvNumber) :
    20 ≤ resolveDepositPercentFromEnv parsed ∧ resolveDepositPercentFromEnv parsed ≤ 30 := by
  unfold resolveDepositPercentFromEnv
  cases parsed with
  | none =>
      decide
  | some value =>
      dsimp only
      omega

theorem resolvedDepositPercent_bounds (depositVariable : EnvNumber)
    (given : Option DepositPercent) :
    20 ≤ resolvedDepositPercent depositVariable given ∧
      resolvedDepositPercent depositVariable given ≤ 30 := by
  cases given with
  | none =>
      exact resolveDepositPercentFromEnv_bounds depositVariable
  | some percent =>
      exact percent.property

/-- The deposit of a price at a percentage. -/
def depositOf (price percent : Int) : Int :=
  max 1 (mathRound ((price * percent : ℚ) / 100))

theorem one_le_depositOf (price percent : Int) : 1 ≤ depositOf price percent :=
  le_max_left _ _

theorem depositOf_le_price {price percent : Int} (price_pos : 1 ≤ price)
    (percent_le : percent ≤ 100) : depositOf price percent ≤ price := by
  have nonneg : 0 ≤ price := by omega
  have rounded_le := mathRound_percent_le nonneg percent_le
  unfold depositOf
  omega

theorem depositOf_mono {price higher percent : Int} (percent_nonneg : 0 ≤ percent)
    (le : price ≤ higher) : depositOf price percent ≤ depositOf higher percent := by
  have cast_le : (price : ℚ) ≤ higher := by exact_mod_cast le
  have cast_nonneg : (0 : ℚ) ≤ percent := by exact_mod_cast percent_nonneg
  have product_le : (price * percent : ℚ) ≤ higher * percent :=
    mul_le_mul_of_nonneg_right cast_le cast_nonneg
  have share_le : (price * percent : ℚ) / 100 ≤ (higher * percent) / 100 := by linarith
  have rounded_le := mathRound_mono share_le
  unfold depositOf
  omega

/-! ## The two computations -/

theorem computeDepositSplit_eq (feeBpsVariable depositVariable : EnvNumber) {price : Int}
    (percent : Option DepositPercent) (price_pos : 1 ≤ price) :
    ∃ split : DepositSplit,
      computeDepositSplit feeBpsVariable depositVariable price percent = .ok split ∧
        split.grossAmount =
          depositOf price (resolvedDepositPercent depositVariable percent) ∧
        split.platformFeeAmount =
          platformFeeOf split.grossAmount (resolveFeeBps feeBpsVariable) := by
  have normalized : max 0 (mathTrunc (price : ℚ)) = price := by
    rw [mathTrunc_intCast]
    omega
  have accepted : ¬ max 0 (mathTrunc (price : ℚ)) ≤ 0 := by
    rw [normalized]
    omega
  unfold computeDepositSplit
  dsimp only
  rw [if_neg accepted]
  exact ⟨_, rfl, by dsimp only; rw [normalized]; rfl, rfl⟩

theorem computeSplit_gross (feeBpsVariable : EnvNumber) {amount : Int}
    (nonneg : 0 ≤ amount) : (computeSplit feeBpsVariable amount).grossAmount = amount := by
  have truncated := mathTrunc_intCast amount
  unfold computeSplit
  dsimp only
  omega

theorem computeSplit_fee (feeBpsVariable : EnvNumber) {amount : Int}
    (nonneg : 0 ≤ amount) :
    (computeSplit feeBpsVariable amount).platformFeeAmount =
      platformFeeOf amount (resolveFeeBps feeBpsVariable) := by
  have gross := computeSplit_gross feeBpsVariable nonneg
  exact congrArg (fun normalized => platformFeeOf normalized (resolveFeeBps feeBpsVariable))
    gross

/-- Given or read from the environment, under any fee: the deposit is between one unit
and the price and grows with it, and it is divided as `computeSplit` divides it. -/
theorem deposit_split_agrees (environment : PaymentEnvironment)
    (percent : Option DepositPercent) (price : DtoAmount) :
    ∃ split : DepositSplit,
      environment.policy.computeDepositSplit price.val percent = .ok split ∧
        1 ≤ split.grossAmount ∧ split.grossAmount ≤ price.val ∧
        split.platformFeeAmount =
          (environment.policy.computeSplit split.grossAmount).platformFeeAmount ∧
        split.providerNetAmount =
          (environment.policy.computeSplit split.grossAmount).providerNetAmount ∧
        (0 ≤ split.platformFeeAmount ∧ split.platformFeeAmount ≤ split.grossAmount) ∧
        split.platformFeeAmount + split.providerNetAmount = split.grossAmount ∧
        ∀ higher : DtoAmount, price.val ≤ higher.val →
          ∃ larger : DepositSplit,
            environment.policy.computeDepositSplit higher.val percent = .ok larger ∧
              split.grossAmount ≤ larger.grossAmount := by
  obtain ⟨split, computed, gross, fee⟩ :=
    computeDepositSplit_eq environment.platformFeeBps environment.depositPercent percent
      price.property.1
  have bounds := resolvedDepositPercent_bounds environment.depositPercent percent
  have positive : 1 ≤ split.grossAmount := by
    rw [gross]
    exact one_le_depositOf _ _
  have at_most : split.grossAmount ≤ price.val := by
    rw [gross]
    exact depositOf_le_price price.property.1 (by omega)
  have nonneg : 0 ≤ split.grossAmount := by omega
  have same_gross := computeSplit_gross environment.platformFeeBps nonneg
  have same_fee : split.platformFeeAmount =
      (computeSplit environment.platformFeeBps split.grossAmount).platformFeeAmount :=
    fee.trans (computeSplit_fee environment.platformFeeBps nonneg).symm
  have same_net : split.providerNetAmount =
      (computeSplit environment.platformFeeBps split.grossAmount).providerNetAmount := by
    have deposited := split.fee_add_net
    have paid := (computeSplit environment.platformFeeBps split.grossAmount).fee_add_net
    omega
  refine ⟨split, computed, positive, at_most, same_fee, same_net,
    ⟨split.fee_nonneg, split.fee_le_gross⟩, split.fee_add_net, ?_⟩
  intro higher le
  obtain ⟨larger, larger_computed, larger_gross, _⟩ :=
    computeDepositSplit_eq environment.platformFeeBps environment.depositPercent percent
      higher.property.1
  have grown : split.grossAmount ≤ larger.grossAmount := by
    rw [gross, larger_gross]
    exact depositOf_mono (by omega) le
  exact ⟨larger, larger_computed, grown⟩

end Tchuno.Payments
