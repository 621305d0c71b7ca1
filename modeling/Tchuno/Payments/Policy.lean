import Tchuno.Library.Ecma
import Tchuno.Payments.Schema
import Mathlib.Tactic.FieldSimp
import Mathlib.Tactic.Positivity

/-!
# Amounts, fee splits and release policy

The payments services receive their fee policy by injection.  A `FeeSplit`
carries the facts every split has to satisfy, so the services can be verified
for any policy; the policies which read the environment are instances.
-/

namespace Tchuno.Payments

open Tchuno.Library.Ecma

/-- An amount the DTO validators admit: `@IsInt() @Min(1) @Max(100_000_000)`. -/
abbrev DtoAmount := { amount : Int // 1 ≤ amount ∧ amount ≤ 100000000 }

/-- A deposit percentage the DTO admits: `@IsInt() @Min(20) @Max(30)`. -/
abbrev DepositPercent := { percent : Int // 20 ≤ percent ∧ percent ≤ 30 }

/-- A gross amount divided between the platform and the provider. -/
structure FeeSplit where
  grossAmount : Int
  platformFeeAmount : Int
  providerNetAmount : Int
  fee_nonneg : 0 ≤ platformFeeAmount
  fee_le_gross : platformFeeAmount ≤ grossAmount
  fee_add_net : platformFeeAmount + providerNetAmount = grossAmount

/-- The split of a deposit, with the percentage it was computed from. -/
structure DepositSplit extends FeeSplit where
  depositPercent : Int

/-- The parts of the configuration which decide how money is divided and when
it may be released. -/
structure PaymentPolicy where
  computeSplit : Int → FeeSplit
  computeDepositSplit : Int → Option DepositPercent → Except ApiError DepositSplit
  deposit_price_pos : ∀ price percent split,
    computeDepositSplit price percent = .ok split → 0 < price
  split_gross_le : ∀ amount, (computeSplit amount).grossAmount ≤ max 0 amount
  deposit_gross_le : ∀ price percent split,
    computeDepositSplit price percent = .ok split → split.grossAmount ≤ price
  releaseDelayHours : Int
  defaultProvider : PaymentProvider

/-- `PaymentPolicyService.canReleaseFunds`. -/
def PaymentPolicy.canReleaseFunds (policy : PaymentPolicy) (completedAt : Option Time)
    (now : Time) : Bool :=
  match completedAt with
  | none => false
  | some completed => completed + policy.releaseDelayHours * 60 * 60 * 1000 ≤ now

/-- `PaymentPolicyService.buildIntentExpiryDate`. -/
def buildIntentExpiryDate (now : Time) : Time :=
  now + 30 * 60 * 1000

/-! ## The policies read from the environment -/

/-- `Number(process.env.…)`, with `none` for anything that is not finite. -/
abbrev EnvNumber := Option ℚ

/-- `PaymentPolicyService.resolveFeeBps`, which
`ServiceRequestsService.resolvePlatformFeeBpsFromEnv` repeats. -/
def resolveFeeBps (parsed : EnvNumber) : Int :=
  match parsed with
  | none => 1500
  | some value => min 9000 (max 0 (mathTrunc value))

def resolveReleaseDelayHours (parsed : EnvNumber) : Int :=
  match parsed with
  | none => 24
  | some value => max 0 (mathTrunc value)

def resolveDepositPercentFromEnv (parsed : EnvNumber) : Int :=
  match parsed with
  | none => 30
  | some value => min 30 (max 20 (mathTrunc value))

theorem resolveFeeBps_nonneg (parsed : EnvNumber) : 0 ≤ resolveFeeBps parsed := by
  unfold resolveFeeBps
  split <;> omega

/-- The fee taken from a gross amount at a rate in basis points. -/
def platformFeeOf (grossAmount feeBps : Int) : Int :=
  min grossAmount (mathRound ((grossAmount * feeBps : ℚ) / 10000))

theorem platformFeeOf_nonneg {grossAmount feeBps : Int}
    (gross_nonneg : 0 ≤ grossAmount) (bps_nonneg : 0 ≤ feeBps) :
    0 ≤ platformFeeOf grossAmount feeBps := by
  have rate_nonneg : (0 : ℚ) ≤ (grossAmount * feeBps : ℚ) / 10000 := by
    have := Int.cast_nonneg (R := ℚ) gross_nonneg
    have := Int.cast_nonneg (R := ℚ) bps_nonneg
    positivity
  have := mathRound_nonneg rate_nonneg
  unfold platformFeeOf
  omega

/-- `PaymentPolicyService.computeSplit`. -/
def computeSplit (feeBpsVariable : EnvNumber) (amount : Int) : FeeSplit :=
  let normalizedAmount := max 0 (mathTrunc amount)
  let platformFeeAmount := platformFeeOf normalizedAmount (resolveFeeBps feeBpsVariable)
  { grossAmount := normalizedAmount
    platformFeeAmount := platformFeeAmount
    providerNetAmount := max 0 (normalizedAmount - platformFeeAmount)
    fee_nonneg := platformFeeOf_nonneg (by omega) (resolveFeeBps_nonneg _)
    fee_le_gross := min_le_left _ _
    fee_add_net := by
      have : platformFeeAmount ≤ normalizedAmount := min_le_left _ _
      omega }

/-- `ServiceRequestsService.computeDepositSplit`. -/
def computeDepositSplit (feeBpsVariable depositVariable : EnvNumber)
    (price : Int) (depositPercent : Option DepositPercent) : Except ApiError DepositSplit :=
  let normalizedPrice := max 0 (mathTrunc price)
  if normalizedPrice ≤ 0 then
    .error (.badRequest "Proposal price must be greater than 0")
  else
    let resolvedDepositPercent : Int :=
      match depositPercent with
      | some percent => percent.val
      | none => resolveDepositPercentFromEnv depositVariable
    let depositAmount :=
      max 1 (mathRound ((normalizedPrice * resolvedDepositPercent : ℚ) / 100))
    let platformFeeAmount := platformFeeOf depositAmount (resolveFeeBps feeBpsVariable)
    .ok
      { depositPercent := resolvedDepositPercent
        grossAmount := depositAmount
        platformFeeAmount := platformFeeAmount
        providerNetAmount := max 0 (depositAmount - platformFeeAmount)
        fee_nonneg := platformFeeOf_nonneg (by omega) (resolveFeeBps_nonneg _)
        fee_le_gross := min_le_left _ _
        fee_add_net := by
          have : platformFeeAmount ≤ depositAmount := min_le_left _ _
          omega }

theorem computeDepositSplit_price_pos {feeBpsVariable depositVariable : EnvNumber}
    {price : Int} {percent : Option DepositPercent} {split : DepositSplit}
    (computed : computeDepositSplit feeBpsVariable depositVariable price percent =
      .ok split) : 0 < price := by
  by_contra nonpositive
  have truncated : mathTrunc price ≤ 0 := by
    rw [mathTrunc_intCast]
    omega
  simp [computeDepositSplit, truncated] at computed

theorem computeSplit_gross_le (feeBpsVariable : EnvNumber) (amount : Int) :
    (computeSplit feeBpsVariable amount).grossAmount ≤ max 0 amount := by
  have truncated := mathTrunc_intCast amount
  unfold computeSplit
  dsimp only
  omega

/-- A share of at most the whole is rounded to at most the whole. -/
theorem mathRound_percent_le {price percent : Int} (nonneg : 0 ≤ price) (le : percent ≤ 100) :
    mathRound ((price * percent : ℚ) / 100) ≤ price := by
  have cast_price : (0 : ℚ) ≤ price := by exact_mod_cast nonneg
  have cast_percent : (percent : ℚ) ≤ 100 := by exact_mod_cast le
  have product_le : (price * percent : ℚ) ≤ price * 100 :=
    mul_le_mul_of_nonneg_left cast_percent cast_price
  apply mathRound_le
  linarith

theorem computeDepositSplit_gross_le {feeBpsVariable depositVariable : EnvNumber}
    {price : Int} {percent : Option DepositPercent} {split : DepositSplit}
    (computed : computeDepositSplit feeBpsVariable depositVariable price percent =
      .ok split) : split.grossAmount ≤ price := by
  have positive := computeDepositSplit_price_pos computed
  have normalized : max 0 (mathTrunc (price : ℚ)) = price := by
    rw [mathTrunc_intCast]
    omega
  have bounded : ∀ resolved : Int, resolved ≤ 100 →
      max 1 (mathRound ((price * resolved : ℚ) / 100)) ≤ price := by
    intro resolved le
    have rounded := mathRound_percent_le positive.le le
    omega
  have accepted : ¬ price ≤ 0 := by omega
  unfold computeDepositSplit at computed
  simp only [normalized, accepted, if_false] at computed
  obtain rfl := Except.ok.inj computed
  apply bounded
  cases percent with
  | some percent =>
      have := percent.property.2
      dsimp only
      omega
  | none =>
      unfold resolveDepositPercentFromEnv
      dsimp only
      split <;> omega

/-- `resolveDefaultPaymentProvider`: `PAYMENT_DEFAULT_PROVIDER` if it names a
provider, else `INTERNAL`. -/
def resolveDefaultPaymentProvider (raw : Option String) : PaymentProvider :=
  let name := toUpperCase (trim (raw.getD ""))
  ([.internal, .mpesa, .emola, .mkesh, .bankTransfer, .manual].find? fun provider =>
    PaymentProvider.name provider == name).getD .internal

/-- The environment variables behind the policy. -/
structure PaymentEnvironment where
  platformFeeBps : EnvNumber
  depositPercent : EnvNumber
  releaseDelayHours : EnvNumber
  defaultProvider : Option String

/-- The policy the services compute from the environment. -/
def PaymentEnvironment.policy (environment : PaymentEnvironment) : PaymentPolicy where
  computeSplit := Payments.computeSplit environment.platformFeeBps
  computeDepositSplit :=
    Payments.computeDepositSplit environment.platformFeeBps environment.depositPercent
  deposit_price_pos := fun _ _ _ computed => computeDepositSplit_price_pos computed
  split_gross_le := computeSplit_gross_le environment.platformFeeBps
  deposit_gross_le := fun _ _ _ computed => computeDepositSplit_gross_le computed
  releaseDelayHours := resolveReleaseDelayHours environment.releaseDelayHours
  defaultProvider := resolveDefaultPaymentProvider environment.defaultProvider

end Tchuno.Payments
